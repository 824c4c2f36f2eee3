import SourceDocs.Proofs.Files.Placing

/-!
# What the file system refuses

An action is `Refusable` if nothing but the file system makes it fail.  Directories are created and
files are opened by such actions, and a text without surrogates is written by one.  Only when a file
is filled can it be that it takes no more bytes.
-/

namespace SourceDocs

open Files

variable {α β : Type} {allowed : FileFault → Prop}

/-! ## Faults of look-ups -/

namespace Files

theorem advance_ne_noSpace (tree : Entry) (followLast : Bool) (here names : List Text) :
    advance tree followLast here names ≠ .error .noSpace := by
  fun_induction advance tree followLast here names <;>
    first | assumption | exact fun heq => by cases heq

theorem followNames_ne_noSpace (tree : Entry) (followLast : Bool) (links : Nat)
    (here names : List Text) : followNames tree followLast links here names ≠ .error .noSpace := by
  fun_induction followNames tree followLast links here names with
  | case1 links here names f hstop =>
    intro heq
    cases heq
    exact advance_ne_noSpace tree followLast here names hstop
  | case2 | case3 | case4 => exact fun heq => by cases heq
  | case5 links here names directory target rest hstop fromRoot more htarget ih => exact ih

theorem checkLookup_ne_noSpace (p : Path) : checkLookup p ≠ .error .noSpace := by
  unfold checkLookup checkPath
  dsimp only
  split_ifs <;> exact fun heq => by cases heq

theorem follow_ne_noSpace (tree : Entry) (current : List Text) (p : Path) (followLast : Bool) :
    follow tree current p followLast ≠ .error .noSpace := by
  unfold follow
  rcases hcheck : checkLookup p with f | _
  · intro heq
    cases heq
    exact checkLookup_ne_noSpace p hcheck
  · exact followNames_ne_noSpace _ _ _ _ _

end Files

/-! ## Actions -/

/-- If an action fails, then because the file system refuses something for one of these reasons. -/
def Refusable (allowed : FileFault → Prop) (x : Action α) : Prop :=
  ∀ w f, (x.runIn w).1 = .error f → ∃ g, allowed g ∧ f = .raised (.file g)

namespace Refusable

theorem pure (a : α) : Refusable allowed (pure a : Action α) := fun _ _ h => by cases h

theorem get : Refusable allowed (get : Action World) := fun _ _ h => by cases h

theorem putAt (names : List Text) (e : Entry) : Refusable allowed (putAt names e) :=
  fun _ _ h => by cases h

theorem report (e : LogEvent) : Refusable allowed (Action.report e) := fun _ _ h => by cases h

theorem raise {g : FileFault} (hg : allowed g) :
    Refusable allowed (Action.raise (.file g) : Action α) := fun _ _ h => by
  cases h
  exact ⟨g, hg, rfl⟩

theorem ofFiles {r : Except FileFault α} (hr : ∀ g, r = .error g → allowed g) :
    Refusable allowed (Action.ofFiles r) := fun w f h => by
  cases r with
  | ok a => cases h
  | error g =>
    cases h
    exact ⟨g, hr g rfl, rfl⟩

theorem bind {x : Action α} {y : α → Action β} (hx : Refusable allowed x)
    (hy : ∀ a, Refusable allowed (y a)) : Refusable allowed (x >>= y) := fun w f h => by
  rcases hrun : x.runIn w with ⟨e | a, w'⟩
  · rw [Action.runIn_bind_error hrun] at h
    obtain rfl := Except.error.inj h
    exact hx w e (by rw [hrun])
  · rw [Action.runIn_bind_ok hrun] at h
    exact hy a w' f h

theorem mono {allowed' : FileFault → Prop} {x : Action α} (h : Refusable allowed x)
    (hmono : ∀ g, allowed g → allowed' g) : Refusable allowed' x := fun w f hf => by
  obtain ⟨g, hg, rfl⟩ := h w f hf
  exact ⟨g, hmono g hg, rfl⟩

theorem fill (names : List Text) (data : List UInt8) :
    Refusable (fun _ => True) (fill names data) := by
  refine get.bind fun w => ?_
  split
  · exact putAt _ _
  · exact (putAt _ _).bind fun _ => raise trivial

theorem openForWriting (p : Path) : Refusable (· ≠ .noSpace) (openForWriting p) := by
  refine get.bind fun w => (ofFiles fun g hg => ?_).bind fun r => ?_
  · rintro rfl
    exact follow_ne_noSpace _ _ _ _ hg
  · split
    · exact raise nofun
    · exact (putAt _ _).bind fun _ => pure _

theorem isDirectory (p : Path) : Refusable (· ≠ .noSpace) (isDirectory p) :=
  get.bind fun w => ofFiles fun g hg => by
    rintro rfl
    cases World.holds_error hg

theorem makeOne (p : Path) : Refusable (· ≠ .noSpace) (makeOne p) := by
  refine get.bind fun w => (ofFiles fun g hg => ?_).bind fun _ => ?_
  · rintro rfl
    exact checkLookup_ne_noSpace p hg
  · dsimp only
    split
    · exact raise nofun
    · refine (ofFiles fun g hg => ?_).bind fun found => ?_
      · rintro rfl
        exact followNames_ne_noSpace _ _ _ _ _ hg
      · split
        · exact raise nofun
        · split_ifs
          · exact raise nofun
          · exact raise nofun
          · exact raise nofun
          · exact putAt _ _
        · exact raise nofun

theorem settle (p : Path) {r : Except Failure Unit}
    (h : ∀ f, r = .error f → ∃ g, g ≠ .noSpace ∧ f = .raised (.file g)) :
    Refusable (· ≠ .noSpace) (makeDirectories.settle p r) := by
  cases r with
  | ok a => exact pure _
  | error f =>
    obtain ⟨g, hg, rfl⟩ := h f rfl
    unfold makeDirectories.settle
    split
    · exact pure _
    · exact raise nofun
    · rename_i heq
      cases heq
      refine (isDirectory p).bind fun there => ?_
      split_ifs
      · exact pure _
      · exact raise hg

/-- What is done with the outcome of such an action may rely on it. -/
theorem attempt {x : Action α} (hx : Refusable allowed x) {y : Except Failure α → Action β}
    (hy : ∀ r, (∀ f, r = .error f → ∃ g, allowed g ∧ f = .raised (.file g)) →
      Refusable allowed (y r)) :
    Refusable allowed (Action.attempt x >>= y) := fun w f h => by
  rw [Action.runIn_attempt_bind] at h
  exact hy _ (fun f hf => hx w f hf) _ f h

theorem make (fuel : Nat) (p : Path) : Refusable (· ≠ .noSpace) (makeDirectories.make fuel p) := by
  induction fuel generalizing p with
  | zero =>
    rw [Action.make_zero]
    exact (makeOne p).attempt fun r hr => settle p hr
  | succ fuel ih =>
    rw [makeDirectories.make]
    refine (makeOne p).attempt fun r hr => ?_
    split
    · exact pure _
    · exact (ih p.parent).bind fun _ => (makeOne p).attempt fun r hr => settle p hr
    · exact settle p hr

theorem makeDirectories (p : Path) : Refusable (· ≠ .noSpace) (makeDirectories p) := make _ p

/-- A text that has bytes in UTF-8 is written, unless the file system refuses. -/
theorem writeUtf8 (p : Path) {t : Text} {data : List UInt8} (h : Utf8.encode? t = some data) :
    Refusable (fun _ => True) (writeUtf8 p t) := by
  refine ((openForWriting p).mono fun _ _ => trivial).bind fun names => ?_
  have hencode : encodeWith .utf8 t false = Pure.pure data := by
    rw [encodeWith, Codec.encode, Codec.encode?, h]
  rw [hencode]
  exact (pure data).bind fun _ => fill _ _

end Refusable

namespace Action

open World

theorem checkLookup_of_openForWriting {p : Path} {w w' : World} {names : List Text}
    (h : (openForWriting p).runIn w = (.ok names, w')) : checkLookup p = .ok () := by
  rw [openForWriting, runIn_bind_ok (runIn_get w), runIn_bind, runIn_ofFiles] at h
  rcases hfollow : follow w.tree w.current p with f | r
  · rw [hfollow] at h
    cases h
  · exact (follow_eq_ok.1 hfollow).1

theorem encodeWith_utf8 (t : Text) :
    encodeWith .utf8 t false =
      match Utf8.encode? t with
      | some data => pure data
      | none => raise (.codec .unencodable) := by
  rw [encodeWith, Codec.encode, Codec.encode?]
  cases Utf8.encode? t <;> rfl

/-- Where a text was written there is a file of its bytes. -/
theorem entry_of_writeUtf8 {p : Path} (hp : p.names ≠ []) {t : Text} {data : List UInt8}
    (hdata : Utf8.encode? t = some data) {w w' : World}
    (h : (writeUtf8 p t).runIn w = (.ok (), w')) : w'.entry p = .ok (.file data) := by
  have hencode : encodeWith .utf8 t false = Pure.pure data := by
    rw [encodeWith, Codec.encode, Codec.encode?, hdata]
  rw [writeUtf8, runIn_bind] at h
  rcases openForWriting_cases p w with ⟨f, hopen⟩ | ⟨names, found, hleads, hfound, hopen⟩
  · rw [hopen] at h
    cases h
  · have hcheck := checkLookup_of_openForWriting hopen
    rw [hopen] at h
    simp only [hencode, runIn_bind, runIn_pure] at h
    rcases fill_cases names data (w.put names (.file [])) with hfill | ⟨taken, -, hfill⟩ <;>
      cases hfill.symm.trans h
    have hempty := hleads.put (hleads.fits_file hp hfound [])
    have hfile : ∀ es, some (Entry.file []) ≠ some (.directory es) := fun es hfalse => by
      cases hfalse
    exact entry_eq_ok.2 ⟨hcheck, names, hempty.put (hempty.fits_file hp hfile data)⟩

end Action

end SourceDocs
