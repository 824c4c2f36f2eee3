import SourceDocs.Archive
import SourceDocs.Proofs.Files.Growth
import SourceDocs.Proofs.Looking

/-!
# What is put where

Whatever an action does to files, it does by putting an entry where a path leads: an empty directory
where nothing is (`Makes`), or a file in place of nothing or of a file.  The lemmas `…_cases` say of
the making of directories and of the opening of a file which of these steps they take, however they
end.
-/

namespace SourceDocs

open Files Entry

namespace Files.Leads

variable {t : Entry} {k : Nat} {here names rest : List Text} {found : Option Entry}

/-- What is above a directory is a directory. -/
theorem directory_above {there : List Text} (h : t.kind? here = some .directory)
    (hthere : there <+: here) : t.kind? there = some .directory := by
  obtain ⟨rest, rfl⟩ := hthere
  cases rest with
  | nil => rwa [List.append_nil] at h
  | cons n more =>
    obtain ⟨es, hes⟩ := kind?_eq_directory.1 h
    obtain ⟨ds, -, hds, -⟩ := get?_append_cons hes
    exact kind?_eq_directory.2 ⟨ds, hds⟩

/-- A way begins at a directory, unless it is over at once. -/
theorem directory_here {r : List Text × Option Entry} (h : Leads t k here rest r)
    (hrest : rest ≠ []) : t.kind? here = some .directory := by
  cases h with
  | here => exact absurd rfl hrest
  | free hdir | up hdir | link hdir | into hdir => exact hdir

/-- No way ends at a link. -/
theorem not_link {target : Text} (hhere : ∀ target, t.kind? here ≠ some (.link target)) :
    ¬ Leads t k here rest (names, some (.link target)) := by
  intro h
  generalize hr : (names, some (Entry.link target)) = r at h
  have hdirectory {there here : List Text} (hdir : t.kind? here = some .directory)
      (hthere : there <+: here) (target : Text) : t.kind? there ≠ some (.link target) := by
    rw [directory_above hdir hthere]
    exact fun hfalse => by cases hfalse
  induction h with
  | here he =>
    cases hr
    refine hhere target ?_
    rw [kind?, he]
    rfl
  | free => cases hr
  | up hdir _ _ ih => exact ih (hdirectory hdir (List.dropLast_prefix _)) hr
  | link hdir _ _ _ ih =>
    refine ih (fun target => ?_) hr
    split
    · exact hdirectory hdir List.nil_prefix target
    · exact hdirectory hdir (List.prefix_refl _) target
  | into _ _ hkind hnot _ ih => exact ih (fun target htarget => hnot target
      (Option.some.inj (hkind.symm.trans htarget))) hr

theorem room_of_none (h : Leads t k here rest (names, none)) : Room t names := by
  obtain ⟨above, n, es, rfl, hes⟩ := h.exists_parent
  refine ⟨⟨above, n, es, rfl, hes⟩, fun c hc => ?_⟩
  rw [h.get?] at hc
  cases hc

/-- An empty directory can be put where nothing is. -/
theorem fits_empty (h : Leads t k here rest (names, none)) : Fits t names Entry.empty := by
  refine ⟨h.room_of_none, rfl, fun target hfalse => (by cases hfalse), fun c hc => ?_⟩
  rw [h.get?] at hc
  cases hc

/-- A file can be put where no directory is. -/
theorem fits_file (h : Leads t k here rest (names, found)) (hrest : rest ≠ [])
    (hfound : ∀ es, found ≠ some (.directory es)) (data : List UInt8) :
    Fits t names (.file data) := by
  have hroom : Room t names := by
    cases found with
    | none => exact h.room_of_none
    | some e =>
      have hget := h.get?
      cases e with
      | directory es => exact absurd rfl (hfound es)
      | link target =>
        have hhere (target : Text) : t.kind? here ≠ some (.link target) := by
          rw [h.directory_here hrest]
          exact fun hfalse => by cases hfalse
        exact absurd h (not_link hhere)
      | file old =>
        refine ⟨?_, fun c hc => ?_⟩
        · rcases List.eq_nil_or_concat names with rfl | ⟨above, n, rfl⟩
          · -- The root is a directory.
            have hroot := directory_above (h.directory_here hrest) List.nil_prefix
            rw [kind?, hget] at hroot
            cases hroot
          · rw [List.concat_eq_append] at hget ⊢
            obtain ⟨es, -, hes, -⟩ := get?_append_cons hget
            exact ⟨above, n, es, rfl, hes⟩
        · rw [hget] at hc
          cases hc
          rfl
  exact ⟨hroom, rfl, fun target hfalse => (by cases hfalse), fun _ _ => rfl⟩

end Files.Leads

namespace World

variable {w w' : World} {p : Path} {names : List Text} {e : Entry} {found : Option Entry}

/-- Where the look-up of a path begins. -/
def start (w : World) (p : Path) : List Text := if p.isAbsolute then [] else w.current

/-- A path leads to names and to what is there. -/
def LeadsTo (w : World) (p : Path) (r : List Text × Option Entry) : Prop :=
  Leads w.tree maxLinks (w.start p) p.names r

/-- The world with an entry put where names lead. -/
def put (w : World) (names : List Text) (e : Entry) : World :=
  { w with tree := w.tree.set names e }

theorem follow_eq_ok {r : List Text × Option Entry} : follow w.tree w.current p = .ok r ↔
    checkLookup p = .ok () ∧ w.LeadsTo p r := by
  unfold follow LeadsTo start
  rw [← followNames_eq_ok]
  cases checkLookup p with
  | error f => simp [bind, Except.bind]
  | ok u => simp [bind, Except.bind]

theorem entry_eq_ok : w.entry p = .ok e ↔
    checkLookup p = .ok () ∧ ∃ names, w.LeadsTo p (names, some e) := by
  unfold World.entry Files.entry
  constructor
  · intro h
    rcases hfollow : follow w.tree w.current p with f | ⟨names, _ | c⟩ <;> rw [hfollow] at h
    · cases h
    · cases h
    · obtain rfl := Except.ok.inj h
      obtain ⟨hcheck, hleads⟩ := follow_eq_ok.1 hfollow
      exact ⟨hcheck, names, hleads⟩
  · rintro ⟨hcheck, names, hleads⟩
    rw [follow_eq_ok.2 ⟨hcheck, hleads⟩]
    rfl

theorem LeadsTo.unique {r r' : List Text × Option Entry} (h : w.LeadsTo p r)
    (h' : w.LeadsTo p r') : r = r' := Leads.unique h h'

theorem LeadsTo.put (h : w.LeadsTo p (names, found)) (hfits : Fits w.tree names e) :
    (w.put names e).LeadsTo p (names, some e) := Leads.of_set h hfits

/-- A path to a file can be gone on to no other. -/
theorem LeadsTo.fits_file (h : w.LeadsTo p (names, found)) (hp : p.names ≠ [])
    (hfound : ∀ es, found ≠ some (.directory es)) (data : List UInt8) :
    Fits w.tree names (.file data) := Leads.fits_file h hp hfound data

end World

namespace Action

open World

variable {w w' : World} {p : Path}

/-- What the creation of a directory can do: to fail and leave all as it was, or to put an empty
directory where nothing is. -/
theorem makeOne_cases (p : Path) (w : World) :
    (∃ f, (makeOne p).runIn w = (.error f, w)) ∨
    ∃ names, checkLookup p = .ok () ∧ w.LeadsTo p (names, none) ∧
      (makeOne p).runIn w = (.ok (), w.put names Entry.empty) := by
  unfold makeOne
  rw [runIn_bind_ok (runIn_get w), runIn_bind, runIn_ofFiles]
  cases hcheck : checkLookup p with
  | error f => exact .inl ⟨_, rfl⟩
  | ok u =>
    simp only [ofLookup_ok]
    rcases List.eq_nil_or_concat p.names with hnil | ⟨above, last, hlast⟩
    · rw [hnil]
      exact .inl ⟨_, rfl⟩
    · rw [hlast, List.concat_eq_append, List.getLast?_concat, List.dropLast_concat]
      simp only [runIn_bind, runIn_ofFiles]
      rcases hfollow : followNames w.tree true maxLinks
        (if p.isAbsolute = true then [] else w.current) above with f | ⟨here, _ | c⟩
      · exact .inl ⟨_, rfl⟩
      · exact .inl ⟨_, rfl⟩
      · cases c with
        | file data => exact .inl ⟨_, rfl⟩
        | link target => exact .inl ⟨_, rfl⟩
        | directory es =>
          simp only [ofLookup_ok]
          split_ifs with hdots hlong hfree
          · exact .inl ⟨_, rfl⟩
          · exact .inl ⟨_, rfl⟩
          · exact .inl ⟨_, rfl⟩
          · refine .inr ⟨here ++ [last], trivial, ?_, rfl⟩
            have habove := followNames_eq_ok.1 hfollow
            have hdir : w.tree.kind? here = some .directory :=
              kind?_eq_directory.2 ⟨es, habove.get?⟩
            obtain ⟨j, hj⟩ := habove.join hdir
            rw [LeadsTo, hlast, List.concat_eq_append]
            refine hj _ _ (.free hdir ⟨Bool.eq_false_iff.2 hdots, hlong⟩ ?_)
            rw [get?_child habove.get?]
            exact Option.not_isSome_iff_eq_none.1 hfree

/-- What the opening of a file for writing can do: to fail and leave all as it was, or to put an
empty file where no directory is. -/
theorem openForWriting_cases (p : Path) (w : World) :
    (∃ f, (openForWriting p).runIn w = (.error f, w)) ∨
    ∃ names found, w.LeadsTo p (names, found) ∧ (∀ es, found ≠ some (.directory es)) ∧
      (openForWriting p).runIn w = (.ok names, w.put names (.file [])) := by
  unfold openForWriting
  rw [runIn_bind_ok (runIn_get w), runIn_bind, runIn_ofFiles]
  rcases hfollow : follow w.tree w.current p with f | ⟨names, found⟩
  · exact .inl ⟨_, rfl⟩
  · have hleads := (follow_eq_ok.1 hfollow).2
    rcases found with _ | (data | es | target)
    · exact .inr ⟨names, _, hleads, fun es hfalse => (by cases hfalse), rfl⟩
    · exact .inr ⟨names, _, hleads, fun es hfalse => (by cases hfalse), rfl⟩
    · exact .inl ⟨_, rfl⟩
    · exact .inr ⟨names, _, hleads, fun es hfalse => (by cases hfalse), rfl⟩

theorem runIn_fill (names : List Text) (data : List UInt8) (w : World) :
    (fill names data).runIn w =
      match w.refusal names data with
      | none => (.ok (), w.put names (.file data))
      | some taken =>
        (.error (.raised (.file .noSpace)), w.put names (.file (data.take taken))) := by
  rw [fill, runIn_bind_ok (runIn_get w)]
  cases w.refusal names data <;> rfl

/-- What the filling of a file can do: to put all bytes there, or the first ones and to fail. -/
theorem fill_cases (names : List Text) (data : List UInt8) (w : World) :
    (fill names data).runIn w = (.ok (), w.put names (.file data)) ∨
    ∃ taken, w.refusal names data = some taken ∧ (fill names data).runIn w =
      (.error (.raised (.file .noSpace)), w.put names (.file (data.take taken))) := by
  rw [runIn_fill]
  cases hrefusal : w.refusal names data with
  | none => exact .inl rfl
  | some taken => exact .inr ⟨taken, rfl, rfl⟩

/-- A text that is written is put where the path leads, in place of an empty file. -/
theorem exists_of_writeUtf8 {t : Text} (h : (writeUtf8 p t).runIn w = (.ok (), w')) :
    ∃ names found data, w.LeadsTo p (names, found) ∧ (∀ es, found ≠ some (.directory es)) ∧
      w' = (w.put names (.file [])).put names (.file data) := by
  rw [writeUtf8, runIn_bind] at h
  rcases openForWriting_cases p w with ⟨f, hopen⟩ | ⟨names, found, hleads, hfound, hopen⟩ <;>
    rw [hopen] at h
  · cases h
  · simp only [runIn_bind, encodeWith] at h
    cases hdata : Codec.utf8.encode t false with
    | error f =>
      rw [hdata] at h
      cases h
    | ok data =>
      rw [hdata] at h
      rcases fill_cases names data (w.put names (.file [])) with hfill | ⟨taken, -, hfill⟩
      · cases hfill.symm.trans h
        exact ⟨names, found, data, hleads, hfound, rfl⟩
      · cases hfill.symm.trans h

theorem runIn_isDirectory (p : Path) (w : World) :
    (Files.isDirectory p).runIn w = (ofLookup (w.holds Entry.isDirectory p), w) := by
  rw [Files.isDirectory, runIn_bind_ok (runIn_get w), runIn_ofFiles]

theorem leadsTo_of_holds (h : w.holds Entry.isDirectory p = .ok true) :
    checkLookup p = .ok () ∧ ∃ names es, w.LeadsTo p (names, some (.directory es)) := by
  rw [World.holds] at h
  rcases hentry : w.entry p with f | e
  · rw [hentry] at h
    simp only at h
    split_ifs at h
    cases h
  · rw [hentry] at h
    obtain ⟨hcheck, names, hleads⟩ := entry_eq_ok.1 hentry
    cases e with
    | directory es => exact ⟨hcheck, names, es, hleads⟩
    | _ => cases h

/-- A refusal is accepted only if there is a directory. -/
theorem settle_cases (p : Path) (r : Except Failure Unit) (w : World) :
    (∃ f, (makeDirectories.settle p r).runIn w = (.error f, w)) ∨
    (makeDirectories.settle p r).runIn w = (.ok (), w) ∧
      (r = .ok () ∨ w.holds Entry.isDirectory p = .ok true) := by
  unfold makeDirectories.settle
  split
  · exact .inr ⟨rfl, .inl rfl⟩
  · exact .inl ⟨_, rfl⟩
  · split
    · rw [runIn_bind, runIn_isDirectory]
      rcases hholds : w.holds Entry.isDirectory p with f | _ | _
      · exact .inl ⟨_, rfl⟩
      · simp only [ofLookup_ok, Bool.and_false]
        exact .inl ⟨_, rfl⟩
      · simp only [ofLookup_ok, Bool.and_true]
        split_ifs
        · exact .inr ⟨rfl, .inr trivial⟩
        · exact .inl ⟨_, rfl⟩
    · exact .inl ⟨_, rfl⟩

/-- What is left of the creation of directories once those above are made. -/
theorem makeOne_settle_cases (p : Path) (w : World) {r : Except Failure Unit} {w' : World}
    (h : (attempt (makeOne p) >>= makeDirectories.settle p).runIn w = (r, w')) :
    (w' = w ∨ ∃ names, w.LeadsTo p (names, none) ∧ w' = w.put names Entry.empty) ∧
    (r = .ok () →
      checkLookup p = .ok () ∧ ∃ names es, w'.LeadsTo p (names, some (.directory es))) := by
  rw [runIn_attempt_bind] at h
  rcases makeOne_cases p w with ⟨f, hone⟩ | ⟨names, hcheck, hleads, hone⟩ <;> rw [hone] at h
  · rcases settle_cases p (.error f) w with ⟨g, hsettle⟩ | ⟨hsettle, hholds⟩ <;>
      rw [hsettle] at h <;> cases h
    · exact ⟨.inl rfl, fun hfalse => by cases hfalse⟩
    · exact ⟨.inl rfl, fun _ => leadsTo_of_holds (hholds.resolve_left nofun)⟩
  · cases h
    exact ⟨.inr ⟨names, hleads, rfl⟩, fun _ => ⟨hcheck, names, [], hleads.put hleads.fits_empty⟩⟩

/-- An empty directory is put where a path or one above it leads and nothing is. -/
inductive Makes (p : Path) : World → World → Prop where
  | make {w : World} {q : Path} {names : List Text} : q.root = p.root → q.names <+: p.names →
      w.LeadsTo q (names, none) → Makes p w (w.put names Entry.empty)

theorem Makes.of_parent {p : Path} (h : Makes p.parent w w') : Makes p w w' := by
  obtain ⟨hroot, hway, hleads⟩ := h
  exact .make hroot (hway.trans (List.dropLast_prefix _)) hleads

theorem make_zero (p : Path) :
    makeDirectories.make 0 p = attempt (makeOne p) >>= makeDirectories.settle p := by
  rw [makeDirectories.make]
  refine bind_congr fun r => ?_
  unfold makeDirectories.settle
  split <;> rfl

/-- The directories above are made if one of them is missing. -/
theorem make_succ_of_notFound (fuel : Nat) (p : Path) (w : World)
    (h : ((makeOne p).runIn w).1 = .error (.raised (.file .notFound))) :
    (makeDirectories.make (fuel + 1) p).runIn w =
      (makeDirectories.make fuel p.parent >>= fun _ =>
        attempt (makeOne p) >>= makeDirectories.settle p).runIn w := by
  have hworld : ((makeOne p).runIn w).2 = w := by
    rcases makeOne_cases p w with ⟨f, hone⟩ | ⟨names, -, -, hone⟩
    · rw [hone]
    · rw [hone] at h
      cases h
  rw [makeDirectories.make, runIn_attempt_bind, h, hworld]

theorem make_succ (fuel : Nat) (p : Path) (w : World)
    (h : ((makeOne p).runIn w).1 ≠ .error (.raised (.file .notFound))) :
    (makeDirectories.make (fuel + 1) p).runIn w =
      (attempt (makeOne p) >>= makeDirectories.settle p).runIn w := by
  rw [makeDirectories.make, runIn_attempt_bind, runIn_attempt_bind]
  unfold makeDirectories.settle
  split
  · simp_all
  · simp_all
  · simp_all

/-- The creation of directories puts empty ones on the way, and leads to a directory if it
succeeds. -/
theorem make_cases (fuel : Nat) (p : Path) (w : World) {r : Except Failure Unit} {w' : World}
    (h : (makeDirectories.make fuel p).runIn w = (r, w')) :
    Relation.ReflTransGen (Makes p) w w' ∧
    (r = .ok () →
      checkLookup p = .ok () ∧ ∃ names es, w'.LeadsTo p (names, some (.directory es))) := by
  have hone {q : Path} {w w' : World}
      (h : w' = w ∨ ∃ names, w.LeadsTo q (names, none) ∧ w' = w.put names Entry.empty) :
      Relation.ReflTransGen (Makes q) w w' := by
    rcases h with rfl | ⟨names, hleads, rfl⟩
    · exact .refl
    · exact .single (.make rfl (List.prefix_refl _) hleads)
  induction fuel generalizing p w r w' with
  | zero =>
    rw [make_zero] at h
    obtain ⟨hworld, hok⟩ := makeOne_settle_cases p w h
    exact ⟨hone hworld, hok⟩
  | succ fuel ih =>
    by_cases hmissing : ((makeOne p).runIn w).1 = .error (.raised (.file .notFound))
    · rw [make_succ_of_notFound fuel p w hmissing, runIn_bind] at h
      rcases habove : (makeDirectories.make fuel p.parent).runIn w with ⟨f | _, w₁⟩ <;>
        rw [habove] at h <;>
        have hmakes := Relation.ReflTransGen.mono (fun _ _ => Makes.of_parent) _ _ (ih _ _ habove).1
      · cases h
        exact ⟨hmakes, fun hfalse => by cases hfalse⟩
      · obtain ⟨hworld, hok⟩ := makeOne_settle_cases p w₁ h
        exact ⟨hmakes.trans (hone hworld), hok⟩
    · rw [make_succ fuel p w hmissing] at h
      obtain ⟨hworld, hok⟩ := makeOne_settle_cases p w h
      exact ⟨hone hworld, hok⟩

theorem makeDirectories_cases (p : Path) (w : World) {r : Except Failure Unit} {w' : World}
    (h : (makeDirectories p).runIn w = (r, w')) :
    Relation.ReflTransGen (Makes p) w w' ∧
    (r = .ok () →
      checkLookup p = .ok () ∧ ∃ names es, w'.LeadsTo p (names, some (.directory es))) :=
  make_cases _ p w h

end Action

end SourceDocs
