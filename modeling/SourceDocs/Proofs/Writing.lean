import SourceDocs.Archive
import SourceDocs.Proofs.Looking
import Mathlib.Tactic.SplitIfs

/-!
# Actions that work on files

An action `Works` on files if its result and the files behind it depend on nothing but the files
before it, the current directory and the limits of the system, and if it changes nothing but the
files and the log.  This is
shown for everything from the creation of a directory up to a job of the archive.
-/

namespace SourceDocs

namespace World

variable {w v u : World}

/-- The same world, but for the files and the log. -/
def SameButFiles (w v : World) : Prop := v = { w with tree := v.tree, log := v.log }

namespace SameButFiles

theorem refl (w : World) : w.SameButFiles w := rfl

theorem symm (h : w.SameButFiles v) : v.SameButFiles w := by
  unfold SameButFiles at *
  rw [h]

theorem trans (h : w.SameButFiles v) (h' : v.SameButFiles u) : w.SameButFiles u := by
  unfold SameButFiles at *
  rw [h', h]

theorem nextId_eq (h : w.SameButFiles v) : v.nextId = w.nextId := by rw [h]

theorem sameButLog (h : w.SameButFiles v) (htree : v.tree = w.tree) : w.SameButLog v := by
  unfold SameButFiles at h
  rw [htree] at h
  exact h

end SameButFiles

theorem SameButLog.sameButFiles (h : w.SameButLog v) : w.SameButFiles v := by
  rw [h]
  rfl

end World

namespace Action

open World

variable {α β : Type}

/-- The action depends on files only, and changes nothing but them and the log. -/
def Works (x : Action α) : Prop :=
  ∀ w v, w.SameFiles v → (x.runIn w).1 = (x.runIn v).1 ∧ (x.runIn w).2.SameFiles (x.runIn v).2 ∧
    w.SameButFiles (x.runIn w).2

theorem Looks.works {x : Action α} (hx : Looks x) : Works x := by
  intro w v h
  have hw := hx.within w
  have hfiles := (hw.sameFiles.symm.trans h).trans (hx.within v).sameFiles
  exact ⟨(hx.result_eq h).symm, hfiles, hw.sameButFiles⟩

namespace Works

theorem pure (a : α) : Works (Pure.pure a) := (Looks.pure a).works

theorem throw (f : Failure) : Works (MonadExcept.throw f : Action α) := (Looks.throw f).works

theorem report (e : LogEvent) : Works (Action.report e) := (Looks.report e).works

theorem ofFiles (r : Except FileFault α) : Works (Action.ofFiles r) := by
  cases r with
  | ok a => exact pure a
  | error f => exact throw _

theorem bind {x : Action α} {f : α → Action β} (hx : Works x) (hf : ∀ a, Works (f a)) :
    Works (x >>= f) := by
  intro w v h
  obtain ⟨hresult, hfiles, hw⟩ := hx w v h
  rw [runIn_bind, runIn_bind]
  rcases hrun : x.runIn w with ⟨_ | a, w'⟩ <;> rcases hrun' : x.runIn v with ⟨_ | b, v'⟩ <;>
    rw [hrun, hrun'] at hresult hfiles <;> rw [hrun] at hw <;> cases hresult
  · exact ⟨rfl, hfiles, hw⟩
  · obtain ⟨hresult', hfiles', hw'⟩ := hf a w' v' hfiles
    exact ⟨hresult', hfiles', hw.trans hw'⟩

theorem attempt {x : Action α} (hx : Works x) : Works (Action.attempt x) := by
  intro w v h
  obtain ⟨hresult, hfiles, hw⟩ := hx w v h
  rw [runIn_attempt, runIn_attempt, hresult]
  exact ⟨rfl, hfiles, hw⟩

/-- What is done with the world, if that depends on the files only. -/
theorem get {f : World → Action α} (hsame : ∀ w v, w.SameFiles v → f v = f w)
    (hf : ∀ w, Works (f w)) : Works (MonadState.get >>= f) := by
  intro w v h
  rw [runIn_bind_ok (runIn_get w), runIn_bind_ok (runIn_get v), hsame w v h]
  exact hf w w v h

theorem putAt (names : List Text) (e : Entry) : Works (Files.putAt names e) :=
  fun _ _ h => ⟨rfl, ⟨congrArg (Entry.set · names e) h.tree, h.current, h.stack, h.refusal⟩, rfl⟩

theorem fill (names : List Text) (data : List UInt8) : Works (Files.fill names data) := by
  refine get (fun w v h => by simp only [h.refusal]) fun w => ?_
  cases w.refusal names data with
  | none => exact putAt _ _
  | some taken => exact (putAt _ _).bind fun _ => throw _

theorem openForWriting (p : Path) : Works (Files.openForWriting p) := by
  refine get (fun w v h => by simp only [h.tree, h.current]) fun w => ?_
  refine (ofFiles _).bind fun found => ?_
  split
  · exact throw _
  · exact (putAt _ _).bind fun _ => pure _

theorem writeBytes (p : Path) (data : List UInt8) : Works (Files.writeBytes p data) :=
  (openForWriting p).bind fun _ => fill _ _

theorem makeOne (p : Path) : Works (Files.makeOne p) := by
  refine get (fun w v h => by simp only [h.tree, h.current]) fun w => (ofFiles _).bind fun _ => ?_
  simp only
  split
  · exact throw _
  · refine (ofFiles _).bind fun found => ?_
    split
    · exact throw _
    · split_ifs
      · exact throw _
      · exact throw _
      · exact throw _
      · exact putAt _ _
    · exact throw _

theorem settle (p : Path) (r : Except Failure Unit) : Works (Files.makeDirectories.settle p r) := by
  unfold Files.makeDirectories.settle
  split
  · exact pure _
  · exact throw _
  · split
    · refine (Looks.isDirectory p).works.bind fun found => ?_
      split_ifs
      · exact pure _
      · exact throw _
    · exact throw _

theorem make (fuel : Nat) (p : Path) : Works (Files.makeDirectories.make fuel p) := by
  induction fuel generalizing p with
  | zero =>
    unfold Files.makeDirectories.make
    refine (makeOne p).attempt.bind fun r => ?_
    split
    · exact pure _
    · exact throw _
    · exact settle p r
  | succ fuel ih =>
    unfold Files.makeDirectories.make
    refine (makeOne p).attempt.bind fun r => ?_
    split
    · exact pure _
    · exact (ih p.parent).bind fun _ => (makeOne p).attempt.bind fun r => settle p r
    · exact settle p r

theorem makeDirectories (p : Path) : Works (Files.makeDirectories p) := make _ p

theorem writeTree (p : Path) (tree : Value) : Works (Archive.writeTree p tree) := by
  refine (makeDirectories _).bind fun _ => (openForWriting p).bind fun names => ?_
  refine (fill _ _).bind fun _ => ?_
  split_ifs
  · exact throw _
  · split
    · exact throw _
    · exact pure _

theorem carryOut (root : Path) (j : Archive.Job) : Works (Archive.carryOut root j) := by
  refine (writeTree _ _).attempt.bind fun r => ?_
  split
  · exact (report _).bind fun _ => pure _
  · exact throw _

/-! ## What follows from working on files -/

theorem within {x : Action α} (hx : Works x) : Acting.Within SameButFiles x :=
  fun w => (hx w w (.refl w)).2.2

theorem blind {x : Action α} (hx : Works x) : Blind x := by
  intro w v h _
  obtain ⟨hresult, hfiles, hw⟩ := hx w v h.sameFiles
  -- Behind both actions all is as before but the files, and these are the same.
  have hbehind := (hw.symm.trans h.sameButFiles).trans (hx.within v)
  have hsame := hbehind.sameButLog hfiles.tree
  exact .of_result hresult hsame hsame

end Works

end Action

end SourceDocs
