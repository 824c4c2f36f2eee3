import SourceDocs.Proofs.Run.Handling
import SourceDocs.Proofs.Run.Quiet

/-!
# What collecting does to files

A run that collects changes files by the jobs of its archive and by nothing else, so that whatever
holds of these jobs, of drawing numbers and of writing to the log holds of what is done with each
event (`within_handle`).
-/

namespace SourceDocs.Run

open World Acting SourceDocs.Action

variable {α : Type} {S : World → World → Prop} {root : Path}

/-- An archive at this place stays there, and what becomes of the world is of a kind. -/
def InPlace (root : Path) (S : World → World → Prop) (s t : World × Collected) : Prop :=
  s.2.archive.root = root → t.2.archive.root = root ∧ S s.1 t.1

variable [IsPreorder World S]

instance : IsPreorder (World × Collected) (InPlace root S) where
  refl s h := ⟨h, refl_of S s.1⟩
  trans _ _ _ h h' hroot := ⟨(h' (h hroot).1).1, trans_of S (h hroot).2 (h' (h hroot).1).2⟩

omit [IsPreorder World S] in
theorem within_lift {y : Action α} (hy : Within S y) :
    Within (InPlace root S) (liftM y : ActionWith Collected α) :=
  fun s hroot => ⟨hroot, hy s.1⟩

theorem within_update {f : Collected → Collected} (hf : ∀ c, (f c).archive = c.archive) :
    Within (InPlace root S) (ActionWith.update f) :=
  fun s hroot => ⟨(congrArg Archive.root (hf s.2)).trans hroot, refl_of S s.1⟩

theorem within_archive {j : Archive.Job} (hjob : Within S (Archive.carryOut root j)) :
    Within (InPlace root S) (archive j) := by
  rintro ⟨w, c⟩ hroot
  have hroot' : c.archive.root = root := hroot
  have hwork := hjob w
  rw [outcome_action] at hwork
  rw [outcome_actionWith, runWith_archive, Archive.submit]
  cases hclosed : c.archive.closed with
  | true =>
    rw [Archive.runWith_submitBy_closed _ hclosed]
    exact ⟨hroot, refl_of S w⟩
  | false =>
    cases hfailing : c.archive.failing? with
    | some f =>
      rw [Archive.runWith_submitBy_failing _ hclosed hfailing]
      exact ⟨hroot, refl_of S w⟩
    | none =>
      rw [Archive.runWith_submitBy _ hclosed hfailing, hroot']
      exact ⟨(Archive.settled_root _).trans hroot', hwork⟩

variable (hsame : ∀ w v, w.SameButNumbers v → S w v)
include hsame

/-- What is done with an event changes files by the job of the event only. -/
theorem within_handle (x : Context) {e : Walk.Event}
    (hjob : ∀ path t d, e = .file path t d → ∀ tree,
      Within S (Archive.carryOut root (jobOf t tree))) :
    Within (InPlace root S) (handle x e) := by
  have hlift {β : Type} {y : Action β} (hy : Draws y) :
      Within (InPlace root S) (liftM y : ActionWith Collected β) := within_lift (hy.mono hsame)
  have hcount (f : Stats → Stats) : Within (InPlace root S) (count f) := within_update fun _ => rfl
  have hadd (records : List DocRecord) : Within (InPlace root S) (add records) :=
    within_update fun _ => rfl
  cases e with
  | package d =>
    exact (hcount _).bind fun _ => (hlift (draws_fileRecord _ _ _ _)).bind fun _ => hadd _
  | file path t d =>
    refine (hcount _).bind fun _ => (hlift (Looks.ofExcept _).draws).bind fun accepted => ?_
    split
    · exact hlift (Looks.report _).draws
    · refine (hcount _).bind fun _ => ?_
      refine (hlift (looks_packageOf x.package d).draws).bind fun package => ?_
      refine (hlift (Extraction.draws_extract _ _)).bind fun extracted => ?_
      split
      · exact hcount _
      · refine (hcount _).bind fun _ => (hadd _).bind fun _ => within_archive ?_
        exact hjob path t d rfl _

end SourceDocs.Run
