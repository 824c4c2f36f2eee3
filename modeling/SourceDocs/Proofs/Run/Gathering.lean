import SourceDocs.Proofs.Archive.Beside
import SourceDocs.Proofs.Run.Found

/-!
# What a run does to the world while it gathers records

Whatever holds of the jobs for the files that are found, of drawing numbers and of writing to the
log, holds of a run up to the records that it has gathered (`within_gather`), whether it succeeds or
not.  If no relative path of a file leads up, all that is put anywhere is put into the archive
(`archived_gather`).
-/

namespace SourceDocs

namespace Lines

/-- The parts of a text are those of a longer one, but for the last of them. -/
theorem mem_splitAtFrom_append {mark : CodePoint} {current s t n : Text} (hs : mark ∉ s)
    (h : n ∈ splitAtFrom mark current (t ++ s)) :
    n ∈ splitAtFrom mark current t ∨ ∃ m, n = m ++ s := by
  induction t generalizing current with
  | nil =>
    rw [List.nil_append, splitAtFrom_of_not_mem current hs, List.mem_singleton] at h
    exact .inr ⟨_, h⟩
  | cons c rest ih =>
    rw [List.cons_append, splitAtFrom] at h
    rw [splitAtFrom]
    split_ifs at h ⊢
    · rcases List.mem_cons.1 h with rfl | h
      · exact .inl List.mem_cons_self
      · exact (ih h).imp_left (List.mem_cons_of_mem _)
    · exact ih h

end Lines

namespace Run

open World Acting SourceDocs.Action

variable {x : Context} {w : World}

/-! ## Relative paths that stay below -/

/-- No part of a relative path leads up. -/
def StaysBelow (t : Text) : Prop := Path.NoDots (Lines.splitAt '/' t)

instance (t : Text) : Decidable (StaysBelow t) :=
  inferInstanceAs (Decidable (Path.NoDots _))

/-- No relative path of a file that a run finds leads up. -/
def AllStayBelow (x : Context) (w : World) : Prop :=
  ∀ path t d v, (.file path t d, v) ∈ found x w → StaysBelow t

/-- The relative path that a file is found with. -/
def relativePath? : Walk.Event → Option Text
  | .file _ t _ => some t
  | .package _ => none

theorem allStayBelow_iff :
    AllStayBelow x w ↔ ∀ t ∈ (found x w).filterMap fun y => relativePath? y.1, StaysBelow t := by
  constructor
  · intro h t ht
    obtain ⟨⟨e, v⟩, hmem, hpath⟩ := List.mem_filterMap.1 ht
    cases e with
    | package d => cases hpath
    | file path t d =>
      cases hpath
      exact h path t d v hmem
  · exact fun h path t d v hmem => h t (List.mem_filterMap.2 ⟨_, hmem, rfl⟩)

instance (x : Context) (w : World) : Decidable (AllStayBelow x w) :=
  decidable_of_iff' _ allStayBelow_iff

/-- The tree of a file whose relative path stays below is inside of the archive. -/
theorem StaysBelow.inside {t : Text} (h : StaysBelow t) (tree : Value) :
    (jobOf t tree).Inside (Text.ofString "source" :: treeNamesOf t) where
  path := ofText_jobOf t tree
  nonempty := List.cons_ne_nil _ _
  noDots := by
    have hslash : CodePoint.ofChar '/' ∉ Text.ofString ".json" := by decide +kernel
    intro n hn
    rcases List.mem_cons.1 hn with rfl | hn
    · decide +kernel
    · rcases Lines.mem_splitAtFrom_append hslash (List.mem_filter.1 hn).1 with hn | ⟨m, rfl⟩
      · exact h n hn
      · exact Archive.not_dots_json m

/-- The way to a file below a directory stays below. -/
theorem staysBelow_of_areLabels {rest : List Text} (h : Path.AreLabels rest) :
    StaysBelow (Path.toText ⟨0, rest⟩) := by
  by_cases hne : rest = []
  · subst hne
    decide +kernel
  · rw [StaysBelow, Path.toText_relative hne, Path.splitAt_join h.1 hne]
    exact h.2

/-- Nothing is found unless there is a real path to begin at. -/
theorem exists_root_of_mem {mode : Walk.Mode} {start : Path}
    (hstart : start? x.settings = some (mode, start)) {y : Walk.Event × World}
    (hmem : y ∈ found x w) : ∃ root, (walkStart x w).resolve start = .ok root := by
  by_contra hnone
  have hwalk : (outcome (Walk.walk mode start (Walk.noting (handle x)))
      (walkStart x w, emptyCollected x, [])).2.2.2 = [] := by
    refine Walk.holds_walk (P := fun _ => True) (Q := fun _ => False)
      (I := fun s : World × Collected × List (Walk.Event × World) => s.2.2 = []) ?_ ?_ ?_
    · exact fun _ hfalse => hfalse.elim
    · exact fun root hroot => absurd ⟨root, hroot⟩ hnone
    · rfl
  rw [found, walk_of_start? hstart, hwalk] at hmem
  exact List.not_mem_nil hmem

/-- In a walk over sources all relative paths stay below. -/
theorem staysBelow_of_mem {start : Path} (hw : w.Tidy) (hx : x.Tidy)
    (hstart : start? x.settings = some (.source, start))
    {path : Path} {t : Text} {d : Option Descriptor} {v : World}
    (hmem : (.file path t d, v) ∈ found x w) : StaysBelow t := by
  obtain ⟨root, hroot⟩ := exists_root_of_mem hstart hmem
  obtain ⟨hreal, hsource, rfl⟩ := isFound_of_mem hw hx hstart hroot _ hmem
  have hrootReal := hw.resolve (hx.start .source start hstart) hroot
  obtain ⟨rest, hlabels, hrelative⟩ := hreal.relativeTo_of_above hrootReal (hsource rfl)
  rw [hrelative]
  exact staysBelow_of_areLabels hlabels

/-! ## Gathering -/

variable {S : World → World → Prop} [IsPreorder World S]

/-- The jobs for an event are of a kind. -/
def JobsWithin (S : World → World → Prop) (x : Context) (e : Walk.Event) : Prop :=
  ∀ path t d, e = .file path t d → ∀ tree,
    Within S (Archive.carryOut (Archive.below x.destination).root (jobOf t tree))

/-- The archive of a run stays where it is, and the world becomes what the jobs for the events make
of it. -/
structure Gathered (S : World → World → Prop) (x : Context) (w : World)
    (s : World × Collected × List (Walk.Event × World)) : Prop where
  archive : s.2.1.archive.root = (Archive.below x.destination).root
  world : (∀ y ∈ s.2.2, JobsWithin S x y.1) → S w s.1

variable (hsame : ∀ w v, w.SameButNumbers v → S w v)
include hsame

theorem Gathered.noting (e : Walk.Event) {s : World × Collected × List (Walk.Event × World)}
    (h : Gathered S x w s) : Gathered S x w (outcome (Walk.noting (handle x) e) s).2 := by
  rw [Walk.outcome_noting]
  constructor
  · have hplace := within_handle (S := Back fun _ => True) (fun _ _ _ _ => trivial) x (e := e)
      (fun _ _ _ _ _ => within_true _) (s.1, s.2.1) h.archive
    exact hplace.1
  · intro hjobs
    have hjob : JobsWithin S x e := hjobs (e, s.1) (List.mem_append_right _ List.mem_cons_self)
    have hbefore := h.world fun y hy => hjobs y (List.mem_append_left _ hy)
    exact trans_of S hbefore (within_handle hsame x hjob (s.1, s.2.1) h.archive).2

/-- What the walk of a run does to the world is what its jobs do. -/
theorem within_walk (hjobs : ∀ y ∈ found x w, JobsWithin S x y.1) :
    S w (outcome (walk x.settings (handle x)) (walkStart x w, emptyCollected x)).2.1 := by
  have hstart : Gathered S x w (walkStart x w, emptyCollected x, []) :=
    ⟨rfl, fun _ => hsame _ _ rfl⟩
  have hlog (s : World × Collected × List (Walk.Event × World)) (es : List LogEvent)
      (h : Gathered S x w s) : Gathered S x w (s.1.logged es, s.2) :=
    ⟨h.archive, fun hjobs => trans_of S (h.world hjobs)
      (hsame _ _ (SameButLog.logged s.1 es).sameButNumbers)⟩
  have hwalk := keeps_iff_holds.1 (keeps_walk hlog (fun _ h => h)
    (fun e => keeps_iff_holds.2 fun _ h => h.noting hsame e) x.settings) _ hstart
  have hplain := related_noting (handle x) x.settings (walkStart x w, emptyCollected x, [])
    (walkStart x w, emptyCollected x) rfl trivial
  rw [hplain.related]
  exact hwalk.world hjobs

/-- What a run does to the world while it gathers records is what its jobs do. -/
theorem within_gather (hjobs : ∀ y ∈ found x w, JobsWithin S x y.1) :
    S w ((gather x).runIn w).2 := by
  have hwalk : S w ((walk x.settings (handle x)).runWith (walkStart x w) (emptyCollected x)).2.1 :=
    within_walk hsame hjobs
  rw [runIn_gather, runIn_collect]
  rcases hrun : (walk x.settings (handle x)).runWith (walkStart x w) (emptyCollected x) with
    ⟨_ | _, v, c⟩ <;> rw [hrun] at hwalk
  · exact hwalk
  · have hclose := (close_sameButLog v c.archive).sameButNumbers
    simp only
    rcases hrun : Archive.close.runWith v c.archive with ⟨_ | n, u, a⟩ <;> rw [hrun] at hclose
    · exact trans_of S hwalk (hsame _ _ hclose)
    · have hfinished := (SameButLog.of_log u (.finished :: u.log)).sameButNumbers
      have hrecords := draws_syntheticRecords x.settings { u with log := .finished :: u.log }
      rw [outcome_action] at hrecords
      have hbehind := trans_of S hwalk (hsame _ _ ((hclose.trans hfinished).trans hrecords))
      simp only
      rcases hrun : (syntheticRecords x.settings).runIn { u with log := .finished :: u.log } with
        ⟨_ | _, u'⟩ <;> rw [hrun] at hbehind <;> exact hbehind

omit hsame in
theorem archived_gather (hbelow : AllStayBelow x w) :
    Archive.Archived x.destination w ((gather x).runIn w).2 := by
  refine within_gather (fun _ _ h => .single (.other h.sameFiles)) ?_
  rintro ⟨e, v⟩ hmem path t d rfl tree w'
  exact Archive.carryOut_archived ((hbelow path t d v hmem).inside tree) x.destination w'

end Run

end SourceDocs
