import SourceDocs.Proofs.Archive.Outside
import SourceDocs.Proofs.Run.Blind
import SourceDocs.Proofs.Run.Sample

/-!
# Files that cannot be read into a tree

A file that is chosen and cannot be read into a tree leaves no more behind than two counters and the
log.  `generate_isolated` compares a run with the run whose matcher also refuses such files: they
end alike, with the same records under the same numbers and the same files.  Trees are archived
while the walk goes on, so the destination has to be outside of what is walked.
-/

namespace SourceDocs

/-- So many more files were chosen and skipped. -/
def Stats.moreSkipped (k : Nat) (s : Stats) : Stats :=
  { s with filesMatched := s.filesMatched + k, filesSkipped := s.filesSkipped + k }

namespace Run

open World Acting SourceDocs.Action

/-- A run whose matcher is changed behind the setting up. -/
def generateWith (change : Matcher → Matcher) (c : Collaborators) (s : Settings) :
    Action Outcome := do
  let (ps, x) ← setUp c s
  let collected ← gather { x with matcher := change x.matcher }
  let handed ← ps.handleDocs (resolveDuplicates collected.records)
  conclude ps x collected.stats handed

theorem generateWith_id : generateWith id = generate := rfl

/-- What a run finds from a world on, with the worlds in which it is handled. -/
def found (x : Context) (w : World) : List (Walk.Event × World) :=
  (outcome (walk x.settings (Walk.noting (handle x))) (walkStart x w, emptyCollected x, [])).2.2.2

/-- The directories from which a run walks: that in which it begins, and the source directories of
the packages that it finds. -/
def walkedFrom (x : Context) (w : World) : List Path :=
  ((x.settings.root.or x.settings.source).bind fun start => (w.resolve start).toOption).toList ++
    (found x w).filterMap fun
      | (.package d, v) => (d.sourceDirectory.runIn v).1.toOption
      | (.file _ _ _, _) => none

/-- The destination of a run is outside of what it walks: whatever the archive puts there, the walk
does not come across it. -/
def DestinationOutside (x : Context) (w : World) : Prop :=
  ∀ p ∈ walkedFrom x w, Archive.Unseen x.destination p.names w

/-! ## What makes the difference -/

/-- The same was collected, but for so many more files that were chosen and skipped. -/
def Collected.MoreSkipped (k : Nat) (c d : Collected) : Prop :=
  c = { d with stats := d.stats.moreSkipped k }

/-- Whether a file of some of these relative paths was found. -/
def isBad (bad : Text → Bool) : Walk.Event × World → Bool
  | (.file _ t _, _) => bad t
  | (.package _, _) => false

/-- A changed matcher refuses, of the files that were found, exactly the bad ones besides those that
were refused before.  The bad ones had been chosen and cannot be read into trees. -/
structure Isolates (change : Matcher → Matcher) (bad : Text → Bool) (x : Context)
    (found : List (Walk.Event × World)) : Prop where
  matcher : ∀ path t d v, (.file path t d, v) ∈ found →
    (change x.matcher).accepts t = if bad t then .ok false else x.matcher.accepts t
  chosen : ∀ path t d v, (.file path t d, v) ∈ found → bad t → x.matcher.accepts t = .ok true
  unreadable : ∀ path t d v, (.file path t d, v) ∈ found → bad t →
    ∃ f, ((Extraction.parseFile path).runIn v).1 = .error (.source f)

/-- The main files of the packages of bad files can be resolved. -/
def Resolvable (bad : Text → Bool) (x : Context) (found : List (Walk.Event × World)) : Prop :=
  ∀ path t d v, (.file path t d, v) ∈ found → bad t →
    ∃ package, ((packageOf x.package d).runIn v).1 = .ok package

theorem Isolates.mono {change : Matcher → Matcher} {bad : Text → Bool} {x : Context}
    {found less : List (Walk.Event × World)} (h : Isolates change bad x found)
    (hless : ∀ y ∈ less, y ∈ found) : Isolates change bad x less where
  matcher path t d v hmem := h.matcher path t d v (hless _ hmem)
  chosen path t d v hmem := h.chosen path t d v (hless _ hmem)
  unreadable path t d v hmem := h.unreadable path t d v (hless _ hmem)

/-- Whether the matchers and the parser deal with a file as `Isolates` says. -/
def isolated (change : Matcher → Matcher) (bad : Text → Bool) (x : Context) :
    Walk.Event × World → Bool
  | (.package _, _) => true
  | (.file path t _, v) =>
    match x.matcher.accepts t, (change x.matcher).accepts t with
    | .ok chosen, .ok chosen' =>
      if bad t then
        chosen && !chosen' &&
          match ((Extraction.parseFile path).runIn v).1 with
          | .error (.source _) => true
          | _ => false
      else chosen == chosen'
    | _, _ => false

theorem Isolates.of_all {change : Matcher → Matcher} {bad : Text → Bool} {x : Context}
    {found : List (Walk.Event × World)} (h : found.all (isolated change bad x)) :
    Isolates change bad x found := by
  have hfile (path : Path) (t : Text) (d : Option Descriptor) (v : World)
      (hmem : (.file path t d, v) ∈ found) :
      (change x.matcher).accepts t = (if bad t then .ok false else x.matcher.accepts t) ∧
        (bad t → x.matcher.accepts t = .ok true ∧
          ∃ f, ((Extraction.parseFile path).runIn v).1 = .error (.source f)) := by
    have hcheck := List.all_eq_true.1 h _ hmem
    rw [isolated] at hcheck
    split at hcheck
    case h_1 chosen chosen' hchosen hchosen' =>
      rw [hchosen, hchosen']
      cases hbad : bad t with
      | false =>
        simp only [hbad] at hcheck
        exact ⟨congrArg Except.ok (eq_of_beq hcheck).symm, fun hfalse => by cases hfalse⟩
      | true =>
        simp only [hbad, if_true, Bool.and_eq_true] at hcheck
        obtain ⟨⟨rfl, hrefused⟩, hparsed⟩ := hcheck
        rw [Bool.not_eq_true'] at hrefused
        refine ⟨congrArg Except.ok hrefused, fun _ => ⟨rfl, ?_⟩⟩
        split at hparsed
        · exact ⟨_, ‹_›⟩
        · cases hparsed
    case h_2 => cases hcheck
  exact ⟨fun path t d v hmem => (hfile path t d v hmem).1,
    fun path t d v hmem hbad => ((hfile path t d v hmem).2 hbad).1,
    fun path t d v hmem hbad => ((hfile path t d v hmem).2 hbad).2⟩

/-- Whether the main file of the package of a bad file can be resolved. -/
def resolvable (bad : Text → Bool) (x : Context) : Walk.Event × World → Bool
  | (.package _, _) => true
  | (.file _ t d, v) => !bad t || ((packageOf x.package d).runIn v).1.isOk

theorem Resolvable.of_all {bad : Text → Bool} {x : Context} {found : List (Walk.Event × World)}
    (h : found.all (resolvable bad x)) : Resolvable bad x found := by
  intro path t d v hmem hbad
  have hcheck := List.all_eq_true.1 h _ hmem
  rw [resolvable, hbad, Bool.not_true, Bool.false_or] at hcheck
  rcases hpackage : ((packageOf x.package d).runIn v).1 with f | package
  · rw [hpackage] at hcheck
    cases hcheck
  · exact ⟨package, rfl⟩

/-- Whether there are no links, and a destination is apart from all directories from which a run
walks. -/
def outside (d : List Text) (x : Context) (w : World) : Bool :=
  x.destination == ⟨1, d⟩ && d.all (fun n => !n.isString "..") &&
    w.tree.isWellNamed && w.tree.isLinkFree &&
    (walkedFrom x w).all fun p =>
      !d.isPrefixOf p.names && !p.names.isPrefixOf d && w.tree.kind? p.names == some .directory

theorem DestinationOutside.of_outside {d : List Text} {x : Context} {w : World}
    (h : outside d x w) : DestinationOutside x w := by
  simp only [outside, Bool.and_eq_true, beq_iff_eq, List.all_eq_true, Bool.not_eq_true'] at h
  obtain ⟨⟨⟨⟨hdestination, hdots⟩, hnamed⟩, hfree⟩, hapart⟩ := h
  intro p hp
  obtain ⟨⟨hbelow, habove⟩, hdir⟩ := hapart p hp
  obtain ⟨es, hes⟩ := Entry.kind?_eq_directory.1 hdir
  rw [hdestination]
  refine .of_linkFree hnamed hfree hes hdots ⟨fun hprefix => ?_, fun hprefix => ?_⟩
  · rw [List.isPrefixOf_iff_prefix.2 hprefix] at hbelow
    cases hbelow
  · rw [List.isPrefixOf_iff_prefix.2 hprefix] at habove
    cases habove

/-! ## Handling an event -/

section

variable (x : Context) {k : Nat}

theorem alike_count {f : Stats → Stats} (hf : ∀ s, f (s.moreSkipped k) = (f s).moreSkipped k) :
    Alike (Collected.MoreSkipped k) (count f) (count f) :=
  Alike.update fun c d h => by
    rw [Collected.MoreSkipped] at h ⊢
    rw [h, hf]

theorem alike_add (records : List DocRecord) :
    Alike (Collected.MoreSkipped k) (add records) (add records) :=
  Alike.update fun c d h => by
    rw [Collected.MoreSkipped] at h ⊢
    rw [h]

theorem outcome_inArchive (y : ActionWith Archive Unit) (s : World × Collected) :
    outcome (inArchive y) s = ((outcome y (s.1, s.2.archive)).1,
      (outcome y (s.1, s.2.archive)).2.1,
      { s.2 with archive := (outcome y (s.1, s.2.archive)).2.2 }) := rfl

theorem alike_inArchive {y : ActionWith Archive Unit} (hy : Alike Eq y y) :
    Alike (Collected.MoreSkipped k) (inArchive y) (inArchive y) := by
  rintro ⟨w, c⟩ ⟨v, d⟩ ⟨hworlds, rfl⟩ _
  have hrun := hy (w, d.archive) (v, d.archive) ⟨hworlds, rfl⟩ trivial
  have hcollected : Collected.MoreSkipped k
      (outcome (inArchive y) (w, { d with stats := d.stats.moreSkipped k })).2.2
      (outcome (inArchive y) (v, d)).2.2 := by
    rw [outcome_inArchive, outcome_inArchive, Collected.MoreSkipped, hrun.related.2]
  exact .of_result hrun.result_eq ⟨hrun.related.1, hcollected⟩ ⟨hrun.related.1, hcollected⟩

theorem alike_handle (e : Walk.Event) :
    Alike (Collected.MoreSkipped k) (handle x e) (handle x e) := by
  cases e with
  | package d =>
    refine Related.bind (alike_count fun s => rfl) fun _ => ?_
    exact Related.bind (Alike.lift (Blind.takeId.bind fun _ => Follows.pure _)) fun _ => alike_add _
  | file path t d =>
    refine Related.bind (alike_count fun s => rfl) fun _ => ?_
    refine Related.bind (Alike.lift (Looks.ofExcept _).blind) fun accepted => ?_
    split_ifs
    · exact Alike.lift (Blind.report _)
    · refine Related.bind (alike_count fun s => ?_) fun _ => ?_
      · simp only [Stats.moreSkipped, Stats.mk.injEq, and_true, true_and]
        omega
      · refine Related.bind (Alike.lift (looks_packageOf _ _).blind) fun package => ?_
        refine Related.bind (Alike.lift (Extraction.blind_extract _ _)) fun extracted => ?_
        split
        · refine alike_count fun s => ?_
          simp only [Stats.moreSkipped, Stats.mk.injEq, and_true, true_and]
          omega
        · refine Related.bind (alike_count fun s => rfl) fun _ => ?_
          refine Related.bind (alike_add _) fun _ => alike_inArchive ?_
          exact (Archive.alike_submit _).bind fun _ => Follows.pure _

theorem handleFile_congr {m : Matcher} {t : Text} (h : m.accepts t = x.matcher.accepts t)
    (path : Path) (d : Option Descriptor) :
    handleFile { x with matcher := m } path t d = handleFile x path t d := by
  unfold handleFile
  simp only [h]

end

section

variable {change : Matcher → Matcher} {bad : Text → Bool} {x : Context}

/-- What has become of two runs, the first of which keeps a list of what it has found: they differ
in the bad files that were found. -/
def Beside (bad : Text → Bool) (s : World × Collected × List (Walk.Event × World))
    (t : World × Collected) : Prop :=
  SeenAlike (Collected.MoreSkipped (s.2.2.countP (isBad bad))) (s.1, s.2.1) t

/-- A bad file is skipped by the one run and refused by the other. -/
theorem handle_bad {path : Path} {t : Text} {d : Option Descriptor} {w v : World}
    {c c' : Collected} {k : Nat} (hbad : bad t)
    (h : Isolates change bad x [(.file path t d, w)])
    (hpackages : Resolvable bad x [(.file path t d, w)])
    (hsame : SeenAlike (Collected.MoreSkipped k) (w, c) (v, c')) :
    Together (SeenAlike (Collected.MoreSkipped (k + 1)))
      (SeenAlike (Collected.MoreSkipped (k + 1)))
      (outcome (handle x (.file path t d)) (w, c))
      (outcome (handle { x with matcher := change x.matcher } (.file path t d)) (v, c')) := by
  have hmem : (.file path t d, w) ∈ [(Walk.Event.file path t d, w)] := List.mem_singleton_self _
  have hrefused := h.matcher path t d w hmem
  rw [if_pos hbad] at hrefused
  obtain ⟨package, hpackage⟩ := hpackages path t d w hmem hbad
  obtain ⟨f, hparse⟩ := h.unreadable path t d w hmem hbad
  rcases hrun : (packageOf x.package d).runIn w with ⟨r, w₁⟩
  rw [hrun] at hpackage
  subst hpackage
  have hw₁ := (looks_packageOf _ _).sameButLog hrun
  rw [← (Looks.parseFile path).result_eq hw₁.sameFiles] at hparse
  obtain ⟨w₂, hextract, hw₂⟩ := extract_of_source (y := x.extractor)
    (o := originOf path t package) hparse
  obtain ⟨hworlds, rfl⟩ := hsame
  rw [outcome_actionWith, outcome_actionWith, handle, handle, runWith_handleFile,
    runWith_handleFile, h.chosen path t d w hmem hbad, hrefused, hrun]
  simp only [hextract]
  refine .ok ⟨((hw₁.trans hw₂).symm.trans hworlds).trans (.of_log v _), ?_⟩
  simp only [Collected.MoreSkipped, Collected.saw, Collected.chose, Collected.skipped,
    Stats.moreSkipped, Collected.mk.injEq, Stats.mk.injEq, and_true, true_and]
  omega

theorem together_handle {e : Walk.Event} {w v : World} {c c' : Collected} {k : Nat}
    (h : Isolates change bad x [(e, w)]) (hpackages : Resolvable bad x [(e, w)])
    (hsame : SeenAlike (Collected.MoreSkipped k) (w, c) (v, c')) :
    Together (SeenAlike (Collected.MoreSkipped (k + [(e, w)].countP (isBad bad))))
      (SeenAlike (Collected.MoreSkipped (k + [(e, w)].countP (isBad bad))))
      (outcome (handle x e) (w, c))
      (outcome (handle { x with matcher := change x.matcher } e) (v, c')) := by
  cases hbad : isBad bad (e, w) with
  | true =>
    rw [List.countP_cons_of_pos hbad, List.countP_nil]
    cases e with
    | package d => cases hbad
    | file path t d => exact handle_bad hbad h hpackages hsame
  | false =>
    rw [List.countP_cons_of_neg (by simp [hbad]), List.countP_nil]
    have heq : handle { x with matcher := change x.matcher } e = handle x e := by
      cases e with
      | package d => rfl
      | file path t d =>
        have hrefused := h.matcher path t d w (List.mem_singleton_self _)
        rw [show bad t = false from hbad, if_neg Bool.false_ne_true] at hrefused
        exact handleFile_congr x hrefused path d
    rw [heq]
    exact alike_handle x e _ _ hsame trivial

/-- The run goes on beside the one with the changed matcher. -/
theorem follows_handle (e : Walk.Event) :
    Follows (fun s => Isolates change bad x s.2.2 ∧ Resolvable bad x s.2.2)
      (Beside bad) (Beside bad)
      (Walk.noting (handle x) e) (handle { x with matcher := change x.matcher } e) := by
  rintro ⟨w, c, es⟩ ⟨v, c'⟩ hsame hG
  rw [Walk.outcome_noting] at hG ⊢
  have hone : Isolates change bad x [(e, w)] := hG.1.mono fun y hy => List.mem_append_right es hy
  have hpackages : Resolvable bad x [(e, w)] := fun path t d v hmem =>
    hG.2 path t d v (List.mem_append_right es hmem)
  have hstep := together_handle hone hpackages hsame
  refine .of_result hstep.result_eq ?_ ?_ <;>
    exact (congrArg (fun k => SeenAlike (Collected.MoreSkipped k) _ _) List.countP_append).mpr
      hstep.related

theorem within_noting (e : Walk.Event) :
    Within (Walk.Kept fun s : Collected × List (Walk.Event × World) =>
      Isolates change bad x s.2 ∧ Resolvable bad x s.2) (Walk.noting (handle x) e) := by
  rintro ⟨w, c, es⟩ hG
  rw [Walk.outcome_noting] at hG
  exact ⟨hG.1.mono fun y hy => List.mem_append_left _ hy,
    fun path t d v hmem => hG.2 path t d v (List.mem_append_left _ hmem)⟩

/-- The list of what is found changes nothing else. -/
theorem related_noting {σ : Type} (emit : Walk.Event → ActionWith σ Unit) (settings : Settings) :
    Related (fun s t => t = (s.1, s.2.1)) (fun s t => t = (s.1, s.2.1))
      (walk settings (Walk.noting emit)) (walk settings emit) := by
  refine follows_walk (G := fun _ => True) ?_ ?_ (fun _ _ h => h) (fun _ => within_true _) ?_
    settings
  · rintro s _ rfl
    exact .refl _
  · rintro s _ es rfl
    rfl
  · rintro e s _ rfl _
    rw [Walk.outcome_noting]
    exact .of_result rfl rfl rfl

/-! ## Two runs -/

/-- Two actions have ended alike, with results related by `P`, in worlds that differ in the log
only. -/
inductive EndAlike {α β : Type} (P : α → β → Prop) :
    Except Failure α × World → Except Failure β × World → Prop where
  | ok {a : α} {b : β} {w v : World} : P a b → w.SameButLog v → EndAlike P (.ok a, w) (.ok b, v)
  | error {f : Failure} {w v : World} : w.SameButLog v → EndAlike P (.error f, w) (.error f, v)

theorem EndAlike.bind {α β γ δ : Type} {P : α → β → Prop} {P' : γ → δ → Prop} {y : Action α}
    {z : Action β} {f : α → Action γ} {g : β → Action δ} {w v : World}
    (h : EndAlike P (y.runIn w) (z.runIn v))
    (hfg : ∀ a b w v, P a b → w.SameButLog v → EndAlike P' ((f a).runIn w) ((g b).runIn v)) :
    EndAlike P' ((y >>= f).runIn w) ((z >>= g).runIn v) := by
  rw [runIn_bind, runIn_bind]
  rcases hy : y.runIn w with ⟨_ | a, w'⟩ <;> rcases hz : z.runIn v with ⟨_ | b, v'⟩ <;>
    rw [hy, hz] at h <;> cases h
  · exact .error ‹_›
  · exact hfg a b w' v' ‹_› ‹_›

theorem EndAlike.of_blind {α : Type} {y : Action α} (hy : Blind y) {w v : World}
    (h : w.SameButLog v) : EndAlike Eq (y.runIn w) (y.runIn v) := by
  have hrun := hy w v h trivial
  rw [outcome_action, outcome_action] at hrun
  rcases hw : y.runIn w with ⟨_ | a, w'⟩ <;> rcases hv : y.runIn v with ⟨_ | b, v'⟩ <;>
    rw [hw, hv] at hrun <;> cases hrun
  · exact .error ‹_›
  · exact .ok rfl ‹_›

variable {w : World} (h : Isolates change bad x (found x w))
  (hpackages : Resolvable bad x (found x w))
include h hpackages

theorem together_walk :
    Together (SeenAlike (Collected.MoreSkipped ((found x w).countP (isBad bad))))
      (SeenAlike (Collected.MoreSkipped ((found x w).countP (isBad bad))))
      (outcome (walk x.settings (handle x)) (walkStart x w, emptyCollected x))
      (outcome (walk x.settings (handle { x with matcher := change x.matcher }))
        (walkStart x w, emptyCollected x)) := by
  have hplain := related_noting (handle x) x.settings (walkStart x w, emptyCollected x, [])
    (walkStart x w, emptyCollected x) rfl trivial
  have hboth : Follows (fun s => Isolates change bad x s.2.2 ∧ Resolvable bad x s.2.2)
      (Beside bad) (Beside bad) (walk x.settings (Walk.noting (handle x)))
      (walk x.settings (handle { x with matcher := change x.matcher })) :=
    follows_walk (fun s t hsame => hsame.1.sameFiles)
      (fun s t es hsame => ⟨((SameButLog.logged s.1 es).symm.trans hsame.1).trans (.logged t.1 es),
        hsame.2⟩)
      (fun _ _ hsame => hsame) within_noting follows_handle x.settings
  have hrun := hboth (walkStart x w, emptyCollected x, []) (walkStart x w, emptyCollected x)
    ⟨.refl _, rfl⟩ ⟨h, hpackages⟩
  have hbehind : SeenAlike (Collected.MoreSkipped ((found x w).countP (isBad bad)))
      (outcome (walk x.settings (handle x)) (walkStart x w, emptyCollected x)).2
      (outcome (walk x.settings (handle { x with matcher := change x.matcher }))
        (walkStart x w, emptyCollected x)).2 := by
    rw [hplain.related]
    exact hrun.related
  exact .of_result (hplain.result_eq.symm.trans hrun.result_eq) hbehind hbehind

theorem endAlike_collect :
    EndAlike (Collected.MoreSkipped ((found x w).countP (isBad bad)))
      ((collect x (emptyCollected x)).runIn (walkStart x w))
      ((collect { x with matcher := change x.matcher } (emptyCollected x)).runIn
        (walkStart x w)) := by
  have hwalk := together_walk h hpackages
  rw [outcome_actionWith, outcome_actionWith] at hwalk
  rw [runIn_collect, runIn_collect]
  rcases hrun : (walk x.settings (handle x)).runWith (walkStart x w) (emptyCollected x) with
    ⟨_ | _, w₁, c₁⟩ <;>
    rcases hrun' : (walk x.settings (handle { x with matcher := change x.matcher })).runWith
      (walkStart x w) (emptyCollected x) with ⟨_ | _, w₂, c₂⟩ <;>
    rw [hrun, hrun'] at hwalk <;> cases hwalk
  · obtain ⟨hworlds, -⟩ := ‹SeenAlike _ _ _›
    exact .error hworlds
  · obtain ⟨hworlds, rfl⟩ := ‹SeenAlike _ _ _›
    have hclose := Archive.alike_close (w₁, c₂.archive) (w₂, c₂.archive) ⟨hworlds, rfl⟩ trivial
    rw [outcome_actionWith, outcome_actionWith] at hclose
    simp only
    rcases hclosed : Archive.close.runWith w₁ c₂.archive with ⟨_ | _, w₃, a⟩ <;>
      rcases hclosed' : Archive.close.runWith w₂ c₂.archive with ⟨_ | _, w₄, a'⟩ <;>
      rw [hclosed, hclosed'] at hclose <;> cases hclose <;>
      obtain ⟨hsame, ha⟩ := ‹SeenAlike _ _ _›
    · exact .error hsame
    · obtain rfl : a = a' := ha
      exact .ok rfl hsame

theorem endAlike_gather :
    EndAlike (Collected.MoreSkipped ((found x w).countP (isBad bad))) ((gather x).runIn w)
      ((gather { x with matcher := change x.matcher }).runIn w) := by
  have hcollect := endAlike_collect h hpackages
  have hgather (y : Context) : (gather y).runIn w = (do
      let c ← collect y (emptyCollected y)
      Action.report .finished
      return { c with records := c.records ++ (← syntheticRecords y.settings) }
      : Action Collected).runIn (walkStart y w) := rfl
  rw [hgather, hgather]
  refine hcollect.bind ?_
  rintro _ d w₁ w₂ rfl hworlds
  refine (EndAlike.of_blind (Blind.report .finished) hworlds).bind ?_
  rintro _ _ w₃ w₄ rfl hworlds
  refine (EndAlike.of_blind (blind_syntheticRecords _) hworlds).bind ?_
  rintro rs _ w₅ w₆ rfl hworlds
  exact .ok rfl hworlds

end

/-- What a run does behind its collecting does not depend on what it has counted. -/
theorem endAlike_conclude {ps : Plugins} (hps : ∀ p ∈ ps, p.Blind) (x : Context) (stats : Stats)
    (k : Nat) (handed : List (Handed DocRecord)) {w v : World} (h : w.SameButLog v) :
    EndAlike (fun o o' : Outcome => o = { o' with stats := o'.stats.moreSkipped k })
      ((conclude ps x (stats.moreSkipped k) handed).runIn w)
      ((conclude ps x stats handed).runIn v) := by
  refine (EndAlike.of_blind (Works.writeHanded handed x.destination).blind h).bind ?_
  rintro ⟨records, path⟩ _ w₁ v₁ rfl h
  refine (EndAlike.of_blind (blind_publish hps x.destination) h).bind ?_
  rintro _ _ w₂ v₂ rfl h
  refine (EndAlike.of_blind (Plugins.blind_complete hps) h).bind ?_
  rintro _ _ w₃ v₃ rfl h
  exact .ok rfl (((SameButLog.of_log w₃ _).symm.trans h).trans (.of_log v₃ _))

end Run

end SourceDocs
