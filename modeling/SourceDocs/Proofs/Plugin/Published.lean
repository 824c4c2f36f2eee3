import SourceDocs.Proofs.Files.Stored
import SourceDocs.Proofs.Plugin.Observed
import SourceDocs.Proofs.Run.Sample

/-!
# What plugins publish

While plugins publish, texts that they write pass through all content hooks and are stored below the
destination, where they can be read again.  A publication is `Polite` if it writes texts in UTF-8
under plain paths, reads, and leaves the files alone otherwise.  What polite publications ask for
and get (`Publication.exchanges`) determines all files in the end (`publish_stores`), also when one
of them fails.
-/

namespace SourceDocs

open Files World SourceDocs.Action

/-- A text is a relative path of plain names, with no double dots. -/
structure Path.IsBelow (file : Text) : Prop where
  relative : (Path.ofText file).root = 0
  named : (Path.ofText file).names ≠ []
  noDots : Path.NoDots (Path.ofText file).names

theorem Path.IsBelow.child {file : Text} (h : Path.IsBelow file) (destination : Path) :
    destination.child file =
      ⟨destination.root, destination.names ++ (Path.ofText file).names⟩ := by
  rw [Path.child, Path.join, Path.isAbsolute, h.relative]
  rfl

/-! ## Content hooks -/

/-- What content hooks make of a text that goes to a path: each of them either returns something or
lets the text be. -/
def folded (gs : List (Text → Path → Option Text)) (path : Path) (t : Text) : Text :=
  gs.foldl (fun t g => (g t path).getD t) t

/-- A content hook is this function of texts and paths, and leaves the files alone. -/
def Computes (hook : Value → Path → Action (Option Value)) (g : Text → Path → Option Text) : Prop :=
  ∀ t path w, ∃ v, w.SameFiles v ∧
    (hook (.text t) path).runIn w = (.ok ((g t path).map .text), v)

variable {ps : Plugins} {gs : List (Text → Path → Option Text)} {destination : Path}
  {w v v' : World} {texts : TextMap} {file t : Text}

theorem runIn_handleContent
    (hhooks : List.Forall₂ Computes (ps.filterMap Plugin.onHandleContent) gs) (t : Text)
    (path : Path) (w : World) : ∃ v, w.SameFiles v ∧
      (ps.handleContent (.text t) path).runIn w = (.ok (.text (folded gs path t)), v) := by
  rw [Plugins.handleContent]
  generalize ps.filterMap Plugin.onHandleContent = hooks at hhooks
  induction hhooks generalizing t w with
  | nil => exact ⟨w, .refl w, rfl⟩
  | @cons hook g hooks gs hhook _ ih =>
    obtain ⟨u, hsame, hrun⟩ := hhook t path w
    obtain ⟨v, hsame', hrest⟩ := ih ((g t path).getD t) u
    refine ⟨v, hsame.trans hsame', ?_⟩
    have hkeep : (Handed.keep (.text t) ((g t path).map .text) : Except Failure Value) =
        .ok (.text ((g t path).getD t)) := by
      cases g t path <;> rfl
    simp only [List.map_cons, Plugins.transform, List.foldlM_cons]
    have hfirst : (hook (.text t) path >>= fun handed =>
        (Handed.keep (.text t) handed : Action Value)).runIn w =
          (.ok (.text ((g t path).getD t)), u) := by
      rw [runIn_bind_ok hrun, hkeep]
      rfl
    rw [runIn_bind_ok hfirst]
    exact hrest

/-! ## Single requests -/

/-- A request and what it has come to. -/
abbrev Exchange := Request × Except Failure Text

/-- What is stored after an exchange: a text that has been written, as the content hooks want it, or
as much of it as the file system has taken, and an empty one in place of a text that has no
bytes. -/
def keep (gs : List (Text → Path → Option Text)) (destination : Path) (texts : TextMap) :
    Exchange → TextMap
  | (.write file (.text t) _, .ok _) =>
    Function.update texts (Path.ofText file).names
      (some (.whole (folded gs (destination.child file) t)))
  | (.write file (.text t) _, .error (.raised (.file .noSpace))) =>
    Function.update texts (Path.ofText file).names
      (some (.cut (folded gs (destination.child file) t)))
  | (.write file _ _, .error (.raised (.codec .unencodable))) =>
    Function.update texts (Path.ofText file).names (some (.whole []))
  | _ => texts

/-- What the file system refuses before a file is filled changes nothing that is stored. -/
theorem keep_of_refused {t encoding : Text} {g : FileFault} (hg : g ≠ .noSpace) :
    keep gs destination texts (.write file (.text t) encoding, .error (.raised (.file g))) =
      texts := by
  unfold keep
  split
  · rename_i heq
    cases heq
  · rename_i heq
    cases heq
    exact absurd rfl hg
  · rename_i heq
    cases heq
  · rfl

/-- A write below the destination is kept, however it ends. -/
theorem Stores.write (h : Stores destination w v texts) (hfree : LinkFree destination w)
    (hhooks : List.Forall₂ Computes (ps.filterMap Plugin.onHandleContent) gs)
    (hfile : Path.IsBelow file) {r : Except Failure Text}
    (hrun : (Publishing.answer ps destination (.write file (.text t) "utf-8")).runIn v = (r, v')) :
    Stores destination w v'
      (keep gs destination texts (.write file (.text t) "utf-8", r)) := by
  have hchild := hfile.child destination
  have hparent : (destination.child file).parent.names <+:
      destination.names ++ (Path.ofText file).names := by
    rw [hchild]
    exact List.dropLast_prefix _
  have hroot : (destination.child file).parent.root = destination.root := by
    rw [hchild]
    rfl
  obtain ⟨v₁, hsame, hcontent⟩ := runIn_handleContent hhooks t (destination.child file) v
  rw [Publishing.answer, Publishing.write, runIn_bind, runIn_bind_ok hcontent,
    runIn_bind_ok (runIn_report _ v₁), runIn_bind] at hrun
  have h₁ := h.of_sameFiles (hsame.report (.publishing (destination.child file)))
  rcases hmake : (makeDirectories (destination.child file).parent).runIn
      { v₁ with log := .publishing (destination.child file) :: v₁.log } with ⟨f | _, v₂⟩ <;>
    rw [hmake] at hrun <;>
    have h₂ := h₁.makes hfree hroot hparent (makeDirectories_cases _ _ hmake).1
  · -- The file system has refused a directory.
    obtain ⟨g, hg, rfl⟩ := Refusable.makeDirectories _ _ f (by rw [hmake])
    cases hrun
    rw [keep_of_refused hg]
    exact h₂
  · simp only [Publishing.writeContent, writeText_utf8] at hrun
    rcases hwrite : (Files.writeUtf8 (destination.child file)
        (folded gs (destination.child file) t)).runIn v₂ with ⟨ending, v₃⟩
    rw [hwrite] at hrun
    rw [hchild] at hwrite
    rcases h₂.writeUtf8 hfile.noDots hfile.named hwrite with
      ⟨rfl, hkept⟩ | ⟨⟨g, hg, rfl⟩, hkept⟩ | ⟨rfl, hkept⟩ | ⟨rfl, hkept⟩ <;> cases hrun
    · rw [← hchild] at hkept
      exact hkept
    · rw [keep_of_refused hg]
      exact hkept
    · exact hkept
    · rw [← hchild] at hkept
      exact hkept

/-- A text that is stored is read as it is, but for its line ends. -/
theorem Stores.read (h : Stores destination w v texts) (hfile : Path.IsBelow file)
    (ht : texts (Path.ofText file).names = some (.whole t)) :
    (Publishing.read destination file).runIn v = (.ok (Lines.universal t), v) := by
  rw [Publishing.read, hfile.child]
  exact h.readText ht

/-! ## Publications -/

namespace Publication

/-- What a publication asks for, and what that comes to. -/
def exchanges {α : Type} (answer : Request → Action Text) : Publication α → World → List Exchange
  | .done _, _ | .fail _, _ => []
  | .act change next, w => exchanges answer (next w) (change w)
  | .ask r next, w =>
    (r, ((answer r).runIn w).1) ::
      exchanges answer (next ((answer r).runIn w).1) ((answer r).runIn w).2

/-- Carries out publications one after the other, up to the first one that fails. -/
def runAll (answer : Request → Action Text) (qs : List (Publication Unit)) : Action Unit :=
  qs.forM fun p => p.run answer

theorem runAll_cons (answer : Request → Action Text) (p : Publication Unit)
    (qs : List (Publication Unit)) :
    runAll answer (p :: qs) = p.run answer >>= fun _ => runAll answer qs := rfl

/-- What publications ask for one after the other, up to the first one that fails. -/
def allExchanges (answer : Request → Action Text) :
    List (Publication Unit) → World → List Exchange
  | [], _ => []
  | p :: rest, w =>
    p.exchanges answer w ++
      match (p.run answer).runIn w with
      | (.ok _, v) => allExchanges answer rest v
      | (.error _, _) => []

/-- A publication that writes texts in UTF-8 under plain paths, reads, and leaves the files alone
otherwise. -/
inductive Polite {α : Type} : Publication α → Prop where
  | done (a : α) : Polite (.done a)
  | fail (f : Failure) : Polite (.fail f)
  | act {change : World → World} {next : World → Publication α} :
    (∀ w : World, w.SameFiles (change w)) → (∀ w, Polite (next w)) → Polite (.act change next)
  | write {file t : Text} {next : Except Failure Text → Publication α} :
    Path.IsBelow file → (∀ answer, Polite (next answer)) →
      Polite (.ask (.write file (.text t) "utf-8") next)
  | read {file : Text} {next : Except Failure Text → Publication α} :
    (∀ answer, Polite (next answer)) → Polite (.ask (.read file) next)

end Publication

/-- What plugins ask for while they publish to a destination. -/
def published (ps : Plugins) (destination : Path) (w : World) : List Exchange :=
  Publication.allExchanges (Publishing.answer ps destination) (ps.filterMap Plugin.onPublish) w

/-- Every text that is read is the last one that was stored, but for its line ends. -/
def ReadsBack (gs : List (Text → Path → Option Text)) (destination : Path) (texts : TextMap)
    (es : List Exchange) : Prop :=
  ∀ done file answer rest t, es = done ++ (.read file, answer) :: rest → Path.IsBelow file →
    done.foldl (keep gs destination) texts (Path.ofText file).names = some (.whole t) →
    answer = .ok (Lines.universal t)

theorem readsBack_nil : ReadsBack gs destination texts [] := by
  intro done file answer rest t heq
  cases done <;> cases heq

theorem ReadsBack.cons {e : Exchange} {es : List Exchange}
    (h : ReadsBack gs destination (keep gs destination texts e) es)
    (he : ∀ file answer t, e = (.read file, answer) → Path.IsBelow file →
      texts (Path.ofText file).names = some (.whole t) → answer = .ok (Lines.universal t)) :
    ReadsBack gs destination texts (e :: es) := by
  intro done file answer rest t heq hfile ht
  cases done with
  | nil =>
    cases heq
    exact he file answer t rfl hfile ht
  | cons e' done =>
    cases heq
    exact h done file answer rest t rfl hfile ht

theorem ReadsBack.append {es es' : List Exchange} (h : ReadsBack gs destination texts es)
    (h' : ReadsBack gs destination (es.foldl (keep gs destination) texts) es') :
    ReadsBack gs destination texts (es ++ es') := by
  induction es generalizing texts with
  | nil => exact h'
  | cons e es ih =>
    refine ReadsBack.cons (ih ?_ h') fun file answer t heq hfile ht => ?_
    · intro done file answer rest t heq
      exact h (e :: done) file answer rest t (by rw [heq]; rfl)
    · exact h [] file answer es t (by rw [heq]; rfl) hfile ht

/-- What a polite publication asks for is kept and read back. -/
theorem Publication.Polite.run {α : Type} {p : Publication α} (hp : p.Polite)
    (h : Stores destination w v texts) (hfree : LinkFree destination w)
    (hhooks : List.Forall₂ Computes (ps.filterMap Plugin.onHandleContent) gs) :
    Stores destination w ((p.run (Publishing.answer ps destination)).runIn v).2
      ((p.exchanges (Publishing.answer ps destination) v).foldl (keep gs destination) texts) ∧
    ReadsBack gs destination texts (p.exchanges (Publishing.answer ps destination) v) := by
  induction hp generalizing v texts with
  | done a => exact ⟨h, readsBack_nil⟩
  | fail f => exact ⟨h, readsBack_nil⟩
  | act hchange _ ih =>
    rw [runIn_act, exchanges]
    exact ih v (h.of_sameFiles (hchange v))
  | write hfile _ ih =>
    rw [runIn_ask, exchanges]
    obtain ⟨hstores, hreads⟩ := ih _ (h.write hfree hhooks hfile rfl)
    exact ⟨hstores, hreads.cons fun file answer t heq => by cases heq⟩
  | @read file next _ ih =>
    rw [runIn_ask, exchanges]
    have hlooks : Looks (Publishing.answer ps destination (.read file)) := Looks.readText _
    obtain ⟨hstores, hreads⟩ := ih _ (h.of_sameFiles (hlooks.within v).sameFiles)
    refine ⟨hstores, hreads.cons fun file' answer t heq hfile ht => ?_⟩
    cases heq
    rw [Publishing.answer, h.read hfile ht]

/-- The publications of several plugins are kept and read back. -/
theorem stores_allExchanges {qs : List (Publication Unit)} (hqs : ∀ p ∈ qs, p.Polite)
    (h : Stores destination w v texts) (hfree : LinkFree destination w)
    (hhooks : List.Forall₂ Computes (ps.filterMap Plugin.onHandleContent) gs) :
    Stores destination w
      ((Publication.runAll (Publishing.answer ps destination) qs).runIn v).2
      ((Publication.allExchanges (Publishing.answer ps destination) qs v).foldl
        (keep gs destination) texts) ∧
    ReadsBack gs destination texts
      (Publication.allExchanges (Publishing.answer ps destination) qs v) := by
  induction qs generalizing v texts with
  | nil => exact ⟨h, readsBack_nil⟩
  | cons p rest ih =>
    rw [List.forall_mem_cons] at hqs
    obtain ⟨hp, hrest⟩ := hqs
    obtain ⟨hstores, hreads⟩ := hp.run h hfree hhooks
    rw [Publication.allExchanges, List.foldl_append, Publication.runAll_cons, runIn_bind]
    rcases hrun : (p.run (Publishing.answer ps destination)).runIn v with ⟨f | _, v'⟩ <;>
      rw [hrun] at hstores
    · exact ⟨hstores, hreads.append readsBack_nil⟩
    · obtain ⟨hstores', hreads'⟩ := ih hrest hstores
      exact ⟨hstores', hreads.append hreads'⟩

/-- The publications before the one that fails, and that one, have been carried out. -/
theorem runAll_of_error {answer : Request → Action Text} {before : List (Publication Unit)}
    {p : Publication Unit} (after : List (Publication Unit)) {f : Failure} {w v : World}
    (hbefore : (Publication.runAll answer before).runIn w = (.ok (), v))
    (hp : ((p.run answer).runIn v).1 = .error f) :
    (Publication.runAll answer (before ++ p :: after)).runIn w =
      (.error f, ((p.run answer).runIn v).2) ∧
    Publication.allExchanges answer (before ++ p :: after) w =
      Publication.allExchanges answer before w ++ p.exchanges answer v := by
  induction before generalizing w with
  | nil =>
    cases hbefore
    rcases hrun : (p.run answer).runIn v with ⟨g | _, v'⟩ <;> rw [hrun] at hp <;> cases hp
    rw [List.nil_append, Publication.runAll_cons, runIn_bind_error hrun]
    exact ⟨rfl, by simp [Publication.allExchanges, hrun]⟩
  | cons q before ih =>
    rw [Publication.runAll_cons] at hbefore
    obtain ⟨_, u, hq, hrest⟩ := exists_of_runIn_bind hbefore
    obtain ⟨hrun, hall⟩ := ih hrest
    rw [List.cons_append, Publication.runAll_cons, runIn_bind_ok hq]
    refine ⟨hrun, ?_⟩
    rw [Publication.allExchanges, Publication.allExchanges, hq]
    simp only [hall, List.append_assoc]

/-! ## The publish phase -/

theorem runIn_publish (ps : Plugins) (destination : Path) (w : World) :
    (publish ps destination).runIn w =
      match (Publication.runAll (Publishing.answer ps destination)
        (ps.filterMap Plugin.onPublish)).runIn w with
      | (.ok _, v) => (.ok (), v)
      | (.error f, v) => (.error (.publish f), { v with log := .raised f :: v.log }) := by
  have hpublish : ps.publish (Publishing.answer ps destination) =
      Publication.runAll (Publishing.answer ps destination) (ps.filterMap Plugin.onPublish) := rfl
  rw [publish, runIn_attempt_bind, hpublish]
  rcases (Publication.runAll (Publishing.answer ps destination)
    (ps.filterMap Plugin.onPublish)).runIn w with ⟨f | _, v⟩ <;> rfl

/-- What polite plugins publish.  A text that is read is the last one written to its path, folded
through the content hooks, with its line ends unified; it can be read so in the end, too.  The
destination stays where it is.  The files below it are the texts that were written last, or as much
of them as the file system has taken, and all other files have the bytes that they had before.  If
the publication of a plugin fails, the whole phase fails for that, and only what was asked for until
then has been done. -/
theorem publish_stores {ps : Plugins} {gs : List (Text → Path → Option Text)} {destination : Path}
    {w v : World} {r : Except Failure Unit} (hfree : LinkFree destination w)
    (hhooks : List.Forall₂ Computes (ps.filterMap Plugin.onHandleContent) gs)
    (hpolite : ∀ p ∈ ps.filterMap Plugin.onPublish, p.Polite)
    (hrun : (publish ps destination).runIn w = (r, v)) :
    ReadsBack gs destination (fun _ => none) (published ps destination w) ∧
    (∀ file t, Path.IsBelow file →
      (published ps destination w).foldl (keep gs destination) (fun _ => none)
        (Path.ofText file).names = some (.whole t) →
      (Publishing.read destination file).runIn v = (.ok (Lines.universal t), v)) ∧
    (∀ place, w.IsPlace destination place → v.IsPlace destination place) ∧
    (∀ place, v.IsPlace destination place → ∀ names,
      v.tree.data? (place ++ names) =
        match (published ps destination w).foldl (keep gs destination) (fun _ => none) names with
        | some s => s.data? w (place ++ names)
        | none => w.tree.data? (place ++ names)) ∧
    (∀ names, (∀ place, v.IsPlace destination place → ¬ place <+: names) →
      v.tree.data? names = w.tree.data? names) ∧
    ∀ before p after u f, ps.filterMap Plugin.onPublish = before ++ p :: after →
      (Publication.runAll (Publishing.answer ps destination) before).runIn w = (.ok (), u) →
      ((p.run (Publishing.answer ps destination)).runIn u).1 = .error f →
      r = .error (.publish f) ∧
        published ps destination w =
          Publication.allExchanges (Publishing.answer ps destination) before w ++
            p.exchanges (Publishing.answer ps destination) u := by
  obtain ⟨hstores, hreads⟩ := stores_allExchanges hpolite (.refl hfree) hfree hhooks
  have hsame : ((Publication.runAll (Publishing.answer ps destination)
      (ps.filterMap Plugin.onPublish)).runIn w).2.SameFiles v := by
    rw [runIn_publish] at hrun
    rcases hall : (Publication.runAll (Publishing.answer ps destination)
      (ps.filterMap Plugin.onPublish)).runIn w with ⟨f | _, v'⟩ <;> rw [hall] at hrun <;> cases hrun
    · exact (World.SameFiles.refl _).report (.raised f)
    · exact .refl _
  have hend := hstores.of_sameFiles hsame
  refine ⟨hreads, fun file t hfile ht => hend.read hfile ht, hend.stays, hend.inside, hend.outside,
    fun before p after u f hps hbefore hp => ?_⟩
  obtain ⟨hfails, hall⟩ := runAll_of_error after hbefore hp
  rw [runIn_publish, hps, hfails] at hrun
  cases hrun
  rw [published, hps]
  exact ⟨rfl, hall⟩

/-- A publication that writes a text, reads it, and fails. -/
def breaking : Publication Unit :=
  .ask (.write "a/x.txt" (.text "1\r\n2") "utf-8") fun _ =>
    .ask (.read "a/x.txt") fun _ => .fail (.raised (.own "ValueError" "no"))

theorem isBelow_breaking : Path.IsBelow "a/x.txt" :=
  ⟨by decide +kernel, by decide +kernel, by decide +kernel⟩

theorem polite_breaking : breaking.Polite :=
  .write isBelow_breaking fun _ => .read fun _ => .fail _

/-- A plugin whose content hook puts a mark behind every text, and one that fails to publish. -/
def markAndBreak : Plugins :=
  [{ onHandleContent := some fun v _ =>
      match v with
      | .text t => return some (.text (t ++ "!"))
      | _ => return none },
    { onPublish := some breaking }]

/-- A destination with a file in it. -/
def filled : World where
  tree := .directory [("out", .directory [("old.txt", .file [0x6F])])]
  current := []
  home := ⟨1, []⟩

theorem isPlace_filled : filled.IsPlace ⟨1, ["out"]⟩ ["out"] := by
  have hfollow : follow filled.tree filled.current ⟨1, ["out"]⟩ =
      .ok (["out"], some (.directory [("old.txt", .file [0x6F])])) := by
    rfl
  exact ⟨_, (follow_eq_ok.1 hfollow).2⟩

/-- The write of the publication succeeds. -/
theorem exists_write_filled : ∃ u,
    (Publishing.answer markAndBreak ⟨1, ["out"]⟩
      (.write "a/x.txt" (.text "1\r\n2") "utf-8")).runIn filled = (.ok [], u) := by
  have hanswer : Publishing.answer markAndBreak ⟨1, ["out"]⟩
      (.write "a/x.txt" (.text "1\r\n2") "utf-8") =
      (report (.publishing (Path.child ⟨1, ["out"]⟩ "a/x.txt")) >>= fun _ =>
        makeDirectories (Path.child ⟨1, ["out"]⟩ "a/x.txt").parent >>= fun _ =>
          Files.writeUtf8 (Path.child ⟨1, ["out"]⟩ "a/x.txt") ("1\r\n2" ++ "!")) >>= fun _ =>
            pure [] := by
    rw [← writeText_utf8]
    rfl
  have hpasses : Run.Sample.passes (fun a _ => a = [])
      ((Publishing.answer markAndBreak ⟨1, ["out"]⟩
        (.write "a/x.txt" (.text "1\r\n2") "utf-8")).runIn filled) = true := by
    rw [hanswer]
    decide +kernel
  obtain ⟨answer, u, hwrite, hanswer⟩ := Run.Sample.exists_of_passes hpasses
  obtain rfl := of_decide_eq_true hanswer
  exact ⟨u, hwrite⟩

/-- The text is read back with its mark before the plugin fails, and it is there in the end, beside
the file that was there before. -/
theorem publish_stores_breaking :
    ∃ v, (publish markAndBreak ⟨1, ["out"]⟩).runIn filled =
        (.error (.publish (.raised (.own "ValueError" "no"))), v) ∧
      published markAndBreak ⟨1, ["out"]⟩ filled =
        [(.write "a/x.txt" (.text "1\r\n2") "utf-8", .ok []), (.read "a/x.txt", .ok "1\n2!")] ∧
      (Publishing.read ⟨1, ["out"]⟩ "a/x.txt").runIn v = (.ok "1\n2!", v) ∧
      v.tree.data? ["out", "a", "x.txt"] = Utf8.encode? "1\r\n2!" ∧
      v.tree.data? ["out", "old.txt"] = some [0x6F] := by
  have hfree : LinkFree ⟨1, ["out"]⟩ filled :=
    linkFree_of_isPlace isPlace_filled (noLinks_of_isLinkFree (by decide +kernel) _)
  have hhooks : List.Forall₂ Computes (markAndBreak.filterMap Plugin.onHandleContent)
      [fun t _ => some (t ++ "!")] := .cons (fun t path w => ⟨w, .refl w, rfl⟩) .nil
  have hpolite : ∀ p ∈ markAndBreak.filterMap Plugin.onPublish, p.Polite :=
    List.forall_mem_singleton.2 polite_breaking
  have hbreaks : ((breaking.run (Publishing.answer markAndBreak ⟨1, ["out"]⟩)).runIn filled).1 =
      .error (.raised (.own "ValueError" "no")) := by
    rw [breaking, Publication.runIn_ask, Publication.runIn_ask]
    rfl
  obtain ⟨u, hwrite⟩ := exists_write_filled
  rcases hrun : (publish markAndBreak ⟨1, ["out"]⟩).runIn filled with ⟨r, v⟩
  obtain ⟨hreads, hlater, hstays, hinside, -, hfails⟩ := publish_stores hfree hhooks hpolite hrun
  obtain ⟨rfl, hall⟩ := hfails [] breaking [] filled _ rfl rfl hbreaks
  have hes : published markAndBreak ⟨1, ["out"]⟩ filled =
      [(.write "a/x.txt" (.text "1\r\n2") "utf-8", .ok []),
        (.read "a/x.txt", ((Publishing.read ⟨1, ["out"]⟩ "a/x.txt").runIn u).1)] := by
    rw [hall]
    simp only [Publication.allExchanges, List.nil_append, breaking, Publication.exchanges, hwrite]
    rfl
  have hread := hreads [_] "a/x.txt" _ [] "1\r\n2!" hes isBelow_breaking (by decide +kernel)
  have huniversal : Lines.universal "1\r\n2!" = ("1\n2!" : Text) := by decide +kernel
  rw [hread] at hes
  rw [hes] at hlater hinside
  have hplace := hstays _ isPlace_filled
  refine ⟨v, rfl, huniversal ▸ hes, ?_, hinside _ hplace [("a" : Text), "x.txt"],
    hinside _ hplace [("old.txt" : Text)]⟩
  rw [hlater "a/x.txt" "1\r\n2!" isBelow_breaking (by decide +kernel), huniversal]

end SourceDocs
