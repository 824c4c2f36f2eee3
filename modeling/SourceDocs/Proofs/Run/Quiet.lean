import SourceDocs.Proofs.Extraction.Numbering
import SourceDocs.Proofs.Looking
import SourceDocs.Run

/-!
# What leaves all files as they are

Between the archive and the index a run only looks at files and draws numbers for its records: it
reads descriptors and the index document, and takes records from trees.  Besides, it asks the hooks
of its plugins.  Hooks may do what they like, so that they leave all files as they are is a property
of plugins here.
-/

namespace SourceDocs

open World Acting SourceDocs.Action

namespace World

variable {w v u : World}

/-- The same world, but for the log and the next number. -/
def SameButNumbers (w v : World) : Prop := v = { w with log := v.log, nextId := v.nextId }

namespace SameButNumbers

theorem refl (w : World) : w.SameButNumbers w := rfl

theorem trans (h : w.SameButNumbers v) (h' : v.SameButNumbers u) : w.SameButNumbers u := by
  unfold SameButNumbers at *
  rw [h', h]

theorem sameFiles (h : w.SameButNumbers v) : w.SameFiles v := by
  rw [h]
  exact ⟨rfl, rfl, rfl, rfl⟩

theorem notes_eq (h : w.SameButNumbers v) : v.notes = w.notes := by rw [h]

end SameButNumbers

instance : IsPreorder World SameButNumbers where
  refl := SameButNumbers.refl
  trans _ _ _ := SameButNumbers.trans

theorem SameButLog.sameButNumbers (h : w.SameButLog v) : w.SameButNumbers v := by
  rw [h]
  rfl

end World

namespace Action

variable {α β : Type}

/-- The action leaves all files as they are. -/
abbrev LeavesFiles (x : Action α) : Prop := Within SameFiles x

/-- The action changes nothing but the log and the next number. -/
abbrev Draws (x : Action α) : Prop := Within SameButNumbers x

theorem Looks.draws {x : Action α} (hx : Looks x) : Draws x :=
  hx.within.mono fun _ _ h => h.sameButNumbers

theorem Draws.leavesFiles {x : Action α} (hx : Draws x) : LeavesFiles x :=
  hx.mono fun _ _ h => h.sameFiles

theorem Looks.leavesFiles {x : Action α} (hx : Looks x) : LeavesFiles x := hx.draws.leavesFiles

theorem LeavesFiles.sameFiles {x : Action α} (hx : LeavesFiles x) {w v : World}
    {r : Except Failure α} (h : x.runIn w = (r, v)) : w.SameFiles v := by
  have hsame := hx w
  rwa [outcome_action, h] at hsame

theorem draws_fileRecord (kind : String) (name longname : Text) (payload : List (String × Value)) :
    Draws (Synthetic.fileRecord kind name longname payload) := fun _ => rfl

theorem draws_indexRecord (path : Path) (shown : Option Text) :
    Draws (Synthetic.indexRecord path shown) := by
  refine (Looks.readText path).attempt.draws.bind fun r => ?_
  split
  · exact (Looks.report _).draws.bind fun _ => Within.pure none
  · exact Within.throw _
  · refine (Looks.resolve path).draws.bind fun real => ?_
    exact (draws_fileRecord _ _ _ _).bind fun _ => Within.pure _

theorem draws_singlePackageRecord (path : Path) :
    Draws (Synthetic.singlePackageRecord path) := by
  have hlooks : Looks (Synthetic.textAndPath path) :=
    (Looks.readText path).bind fun _ => (Looks.resolve path).bind fun _ => Looks.pure _
  refine hlooks.attempt.draws.bind fun r => ?_
  split
  · exact draws_fileRecord _ _ _ _
  · split
    · exact (Looks.report _).draws.bind fun _ => draws_fileRecord _ _ _ _
    · exact Within.throw _
  · exact Within.throw _

theorem Draws.keeping {σ : Type} {x : ActionWith σ α}
    (hx : Within (fun s t : World × σ => s.1.SameButNumbers t.1) x) (a : σ) :
    Draws (ActionWith.keeping a x) := fun w => hx (w, a)

end Action

/-! ## Extraction -/

namespace Extraction

/-- Records are taken from a tree without a look at files, but for an excerpt to show. -/
theorem draws_recordsOf (x : Extractor) (o : Origin) (tree : Value) :
    Draws (recordsOf x o tree) := by
  have : IsPreorder (World × List DocRecord) (fun s t => s.1.SameButNumbers t.1) :=
    { refl := fun s => .refl s.1, trans := fun _ _ _ h h' => h.trans h' }
  have hpush (v : Tree.Visit) :
      Within (fun s t : World × List DocRecord => s.1.SameButNumbers t.1) (push x o v) := by
    rw [push]
    split
    · exact Within.forM fun d _ s => rfl
    · refine Within.bind (fun s => ?_) fun _ => Within.throw _
      exact (Looks.aboutNode o.path v.node).draws s.1
  rw [recordsOf_eq]
  refine (Draws.keeping (Within.forM fun v _ => hpush v) []).bind ?_
  rintro ⟨f | _, records⟩
  · exact Within.throw f
  · exact Within.pure _

theorem draws_extract (x : Extractor) (o : Origin) : Draws (extract x o) := by
  rw [extract_eq]
  refine (Looks.report _).draws.bind fun _ => ?_
  refine (Looks.parseFile _).attempt.draws.bind fun r => ?_
  split
  · exact (Looks.aboutSource _ _).draws.bind fun _ => Within.pure _
  · exact Within.throw _
  · split
    · exact Within.throw _
    · exact (draws_recordsOf x o _).bind fun _ => Within.pure _

end Extraction

/-! ## Hooks -/

/-- The hooks of a plugin around publishing leave all files as they are. -/
structure Plugin.LeavesFiles (p : Plugin) : Prop where
  handleDocs : ∀ hook, p.onHandleDocs = some hook → ∀ records, (hook records).LeavesFiles
  complete : ∀ hook, p.onComplete = some hook → hook.LeavesFiles

/-- The hooks of a plugin before publishing leave all files as they are. -/
structure Plugin.IsQuiet (p : Plugin) : Prop where
  start : ∀ hook, p.onStart = some hook → hook.LeavesFiles
  handleConfig : ∀ hook, p.onHandleConfig = some hook → ∀ s, (hook s).LeavesFiles
  handleDocs : ∀ hook, p.onHandleDocs = some hook → ∀ records, (hook records).LeavesFiles

namespace Plugins

/-- A value that is passed through hooks does to the world what the hooks do. -/
theorem within_transform {α β : Type} {S : World → World → Prop} [IsPreorder World S]
    {keep : α → Option β → Except Failure α} {hooks : List (α → Action (Option β))}
    (hhooks : ∀ hook ∈ hooks, ∀ a, Within S (hook a)) (a : α) :
    Within S (transform keep hooks a) := by
  unfold transform
  induction hooks generalizing a with
  | nil => exact Within.pure a
  | cons hook rest ih =>
    rw [List.foldlM_cons]
    refine Within.bind ((hhooks hook List.mem_cons_self a).bind fun returned => ?_) fun b => ?_
    · exact fun w => refl_of S w
    · exact ih (fun hook hmem => hhooks hook (List.mem_cons_of_mem _ hmem)) b

variable {S : World → World → Prop} [IsPreorder World S] {ps : Plugins}

theorem within_start (hps : ∀ p ∈ ps, ∀ hook, p.onStart = some hook → Within S hook) :
    Within S ps.start := by
  refine Within.forM fun hook hmem => ?_
  obtain ⟨p, hp, hhook⟩ := List.mem_filterMap.1 hmem
  exact hps p hp hook hhook

theorem within_handleConfig
    (hps : ∀ p ∈ ps, ∀ hook, p.onHandleConfig = some hook → ∀ s, Within S (hook s))
    (s : Settings) : Within S (ps.handleConfig s) := by
  refine within_transform (fun hook hmem => ?_) _
  obtain ⟨p, hp, hhook⟩ := List.mem_filterMap.1 hmem
  exact hps p hp hook hhook

theorem within_handleDocs
    (hps : ∀ p ∈ ps, ∀ hook, p.onHandleDocs = some hook → ∀ records, Within S (hook records))
    (records : List DocRecord) : Within S (ps.handleDocs records) := by
  refine within_transform (fun hook hmem => ?_) _
  obtain ⟨p, hp, hhook⟩ := List.mem_filterMap.1 hmem
  exact hps p hp hook hhook

theorem leavesFiles_handleDocs (hps : ∀ p ∈ ps, p.LeavesFiles) (records : List DocRecord) :
    LeavesFiles (ps.handleDocs records) := within_handleDocs (fun p hp => (hps p hp).handleDocs) _

theorem leavesFiles_complete (hps : ∀ p ∈ ps, p.LeavesFiles) : LeavesFiles ps.complete := by
  refine Within.forM fun hook hmem => ?_
  obtain ⟨p, hp, hhook⟩ := List.mem_filterMap.1 hmem
  exact (hps p hp).complete hook hhook

end Plugins

namespace Run

theorem draws_syntheticRecords (s : Settings) : Draws (syntheticRecords s) := by
  refine Within.bind ?_ fun _ => Within.bind ?_ fun _ => Within.pure _
  · unfold indexRecords
    split
    · exact Within.pure []
    · refine Within.bind (fun w => SameButNumbers.refl w) fun w => ?_
      exact (draws_indexRecord _ _).bind fun _ => Within.pure _
  · unfold packageRecords
    split
    · exact (draws_singlePackageRecord _).bind fun _ => Within.pure _
    · exact Within.pure []

end Run

end SourceDocs
