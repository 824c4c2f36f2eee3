import SourceDocs.Run
import SourceDocs.Proofs.Archive.Sequential
import SourceDocs.Proofs.Extraction.Numbering
import SourceDocs.Proofs.Log.Excerpt
import SourceDocs.Proofs.Walk.Alongside
import SourceDocs.Proofs.Writing

/-!
# How a run collects files

`runWith_handleFile` says in one equation what a run does with a file that its walk has found, and
`runWith_handle_package` what it does with a package; `runIn_collect` and `runIn_gather` say what it
does around the walk.  Other proofs about the collecting of files rest on these equations.
-/

namespace SourceDocs.Run

open World Acting SourceDocs.Action

/-! ## Extraction from a file -/

/-- Extraction that succeeds has skipped a file that cannot be read into a tree, or has numbered the
drafts of the tree. -/
theorem extract_ok {y : Extraction.Extractor} {o : Extraction.Origin} {w w' : World}
    {r : Option (List DocRecord × Value)}
    (h : (Extraction.extract y o).runIn w = (.ok r, w')) :
    (r = none ∧ w.SameButLog w' ∧
      ∃ f, ((Extraction.parseFile o.path).runIn w).1 = .error (.source f)) ∨
    ∃ tree drafts, r = some (numberDrafts w.nextId drafts, tree) ∧
      ((Extraction.parseFile o.path).runIn w).1 = .ok tree ∧
      w' = { w with log := w'.log, nextId := w.nextId + drafts.length } := by
  have hlog : w.SameButLog { w with log := .parsing o.path :: w.log } := .of_log w _
  have hparse := (Looks.parseFile o.path).result_eq hlog.sameFiles
  rw [Extraction.extract_eq, runIn_bind_ok (runIn_report _ _), runIn_attempt_bind] at h
  rcases hrun : (Extraction.parseFile o.path).runIn { w with log := .parsing o.path :: w.log } with
    ⟨ending, w₁⟩
  have hw₁ := hlog.trans ((Looks.parseFile o.path).sameButLog hrun)
  rw [← hparse]
  rw [hrun] at h ⊢
  simp only at h ⊢
  split at h
  case h_1 f =>
    obtain ⟨_, w₂, habout, h⟩ := exists_of_runIn_bind h
    rw [runIn_pure] at h
    cases h
    exact .inl ⟨rfl, hw₁.trans ((Looks.aboutSource o.path f).sameButLog habout), f, rfl⟩
  case h_2 => cases h
  case h_3 tree =>
    split at h
    · cases h
    · obtain ⟨records, w₂, hrecords, h⟩ := exists_of_runIn_bind h
      rw [runIn_pure] at h
      cases h
      cases hdrafts : Extraction.describeAll (y.describe o) (Tree.visits tree) with
      | error cause =>
        obtain ⟨f, w₃, hfail⟩ := Extraction.runIn_recordsOf_error hdrafts w₁
        rw [hfail] at hrecords
        cases hrecords
      | ok drafts =>
        rw [Extraction.runIn_recordsOf hdrafts, hw₁.nextId_eq] at hrecords
        cases hrecords
        refine .inr ⟨tree, drafts, rfl, rfl, ?_⟩
        rw [hw₁]

/-- A file that cannot be read into a tree has lines to show, or none. -/
theorem readLines_of_source {p : Path} {w : World} {f : SyntaxFault}
    (h : ((Extraction.parseFile p).runIn w).1 = .error (.source f)) :
    ∃ lines, ((Files.readLines p).runIn w).1 = .ok lines := by
  rw [Extraction.parseFile, runIn_attempt_bind, runIn_readBytes] at h
  rw [Files.readLines, runIn_attempt_bind, runIn_readBytes]
  rcases hentry : w.entry p with g | (data | es | target) <;> rw [hentry] at h
  · cases hsystem : g.isSystem
    · simp only [hsystem] at h
      cases h
    · exact ⟨[], by simp only [hsystem]; rfl⟩
  · exact ⟨_, rfl⟩
  · exact ⟨_, rfl⟩
  · exact ⟨_, rfl⟩

/-- A file that cannot be read into a tree is skipped. -/
theorem extract_of_source {y : Extraction.Extractor} {o : Extraction.Origin} {w : World}
    {f : SyntaxFault} (h : ((Extraction.parseFile o.path).runIn w).1 = .error (.source f)) :
    ∃ w', (Extraction.extract y o).runIn w = (.ok none, w') ∧ w.SameButLog w' := by
  have hsame : w.SameFiles { w with log := .parsing o.path :: w.log } := ⟨rfl, rfl, rfl, rfl⟩
  have hparse := ((Looks.parseFile o.path).result_eq hsame).trans h
  have hparsed := (Looks.parseFile o.path).within { w with log := .parsing o.path :: w.log }
  rw [outcome_action] at hparsed
  obtain ⟨lines, hlines⟩ := readLines_of_source h
  have habout (v : World) (hv : w.SameFiles v) :
      ∃ v', (Complaint.aboutSource o.path f).runIn v = (.ok (), v') := by
    have hread : (Files.readLines o.path).runIn v =
        (.ok lines, ((Files.readLines o.path).runIn v).2) :=
      Prod.ext (((Looks.readLines o.path).result_eq hv).trans hlines) rfl
    rw [Complaint.aboutSource, runIn_bind_ok hread]
    split
    case h_1 first rest line _ =>
      rw [Excerpt.around_eq]
      exact ⟨_, rfl⟩
    case h_2 => exact ⟨_, rfl⟩
  rw [Extraction.extract_eq, runIn_bind_ok (runIn_report _ _), runIn_attempt_bind, hparse]
  obtain ⟨v', hv'⟩ := habout _ (hsame.trans hparsed.sameFiles)
  have hlog : w.SameButLog { w with log := .parsing o.path :: w.log } := .of_log w _
  refine ⟨v', runIn_bind_ok hv', ?_⟩
  exact (hlog.trans hparsed).trans ((Looks.aboutSource _ _).sameButLog hv')

/-! ## Counting -/

namespace Collected

/-- One more file was seen. -/
def saw (c : Collected) : Collected :=
  { c with stats := { c.stats with filesSeen := c.stats.filesSeen + 1 } }

/-- One more file was chosen. -/
def chose (c : Collected) : Collected :=
  { c with stats := { c.stats with filesMatched := c.stats.filesMatched + 1 } }

/-- One more file could not be read. -/
def skipped (c : Collected) : Collected :=
  { c with stats := { c.stats with filesSkipped := c.stats.filesSkipped + 1 } }

/-- One more file was read, and has these records. -/
def parsed (c : Collected) (records : List DocRecord) : Collected :=
  { c with
    records := c.records ++ records
    stats := { c.stats with filesParsed := c.stats.filesParsed + 1 } }

/-- One more package was found. -/
def found (c : Collected) (record : DocRecord) : Collected :=
  { c with
    records := c.records ++ [record]
    stats := { c.stats with packagesFound := c.stats.packagesFound + 1 } }

end Collected

theorem runWith_count (f : Stats → Stats) (w : World) (c : Collected) :
    (count f).runWith w c = (.ok (), w, { c with stats := f c.stats }) := rfl

/-! ## The archive -/

/-- The job of a file. -/
def jobOf (relativePath : Text) (tree : Value) : Archive.Job :=
  { relativePath := Text.ofString "source/" ++ relativePath, tree := tree }

theorem runWith_archive (j : Archive.Job) (w : World) (c : Collected) :
    (archive j).runWith w c =
      match (Archive.submit j).runWith w c.archive with
      | (.ok _, w', a) => (.ok (), w', { c with archive := a })
      | (.error f, w', a) => (.error f, w', { c with archive := a }) := by
  rw [archive, inArchive, ActionWith.runWith_onPart, ActionWith.runWith_bind]
  rcases (Archive.submit j).runWith w c.archive with ⟨_ | _, w', a⟩ <;> rfl

theorem submit_sameButFiles (j : Archive.Job) (w : World) (a : Archive) :
    w.SameButFiles ((Archive.submit j).runWith w a).2.1 := by
  unfold Archive.submit
  cases hclosed : a.closed with
  | true =>
    rw [Archive.runWith_submitBy_closed _ hclosed]
    exact .refl w
  | false =>
    cases hfailing : a.failing? with
    | some f =>
      rw [Archive.runWith_submitBy_failing _ hclosed hfailing]
      exact .refl w
    | none =>
      rw [Archive.runWith_submitBy _ hclosed hfailing]
      exact (Works.carryOut a.root j).within w

theorem close_sameButLog (w : World) (a : Archive) :
    w.SameButLog (Archive.close.runWith w a).2.1 := by
  cases hclosed : a.closed with
  | true =>
    rw [Archive.runWith_close_closed hclosed]
    exact .refl w
  | false =>
    cases hfailing : a.failing? with
    | some f =>
      rw [Archive.runWith_close_failing hclosed hfailing]
      exact .refl w
    | none =>
      rw [Archive.runWith_close hclosed hfailing]
      exact .of_log w _

/-- A job changes nothing of what was collected but the archive. -/
theorem archive_keeps {j : Archive.Job} {w w' : World} {c c' : Collected} {r : Except Failure Unit}
    (h : (archive j).runWith w c = (r, w', c')) :
    w.SameButFiles w' ∧ c'.records = c.records ∧ c'.stats = c.stats := by
  have hfiles := submit_sameButFiles j w c.archive
  rw [runWith_archive] at h
  rcases hsubmit : (Archive.submit j).runWith w c.archive with ⟨_ | _, w'', a⟩ <;>
    rw [hsubmit] at h hfiles <;> cases h <;> exact ⟨hfiles, rfl, rfl⟩

/-! ## Events -/

/-- Where records of a file come from. -/
def originOf (path : Path) (relativePath : Text) (package : Package) : Extraction.Origin :=
  { path := path, relativePath := relativePath, packageName := package.name,
    mainPath := package.mainPath }

/-- The record of a package. -/
def packageRecord (d : Descriptor) (id : Int) : DocRecord :=
  { docId := id, kind := Text.ofString "package", name := d.path.name, longname := d.path.toText,
    static := true, payload := [(Text.ofString "package", .mapping d.content)] }

variable (x : Context) (w : World) (c : Collected)

theorem runWith_handle_package (d : Descriptor) :
    (handle x (.package d)).runWith w c =
      (.ok (), { w with nextId := w.nextId + 1 }, c.found (packageRecord d w.nextId)) := rfl

omit x w c in
theorem looks_mainFile (directory : Path) (main : Option Text) :
    Looks (mainFile directory main) := by
  cases main with
  | none => exact Looks.pure none
  | some t =>
    rw [mainFile]
    split
    · exact Looks.pure none
    · exact (Looks.resolve _).bind fun _ => Looks.pure _

omit x w c in
theorem looks_packageOf (fallback : Package) (d : Option Descriptor) :
    Looks (packageOf fallback d) := by
  cases d with
  | none => exact Looks.pure fallback
  | some d => exact (looks_mainFile _ _).bind fun _ => Looks.pure _

/-- What is done with a file. -/
theorem runWith_handleFile (path : Path) (t : Text) (d : Option Descriptor) :
    (handleFile x path t d).runWith w c =
      match x.matcher.accepts t with
      | .error f => (.error f, w, c.saw)
      | .ok false => (.ok (), { w with log := .skipping t :: w.log }, c.saw)
      | .ok true =>
        match (packageOf x.package d).runIn w with
        | (.error f, w') => (.error f, w', c.saw.chose)
        | (.ok package, w') =>
          match (Extraction.extract x.extractor (originOf path t package)).runIn w' with
          | (.error f, w'') => (.error f, w'', c.saw.chose)
          | (.ok none, w'') => (.ok (), w'', c.saw.chose.skipped)
          | (.ok (some (records, tree)), w'') =>
            (archive (jobOf t tree)).runWith w'' (c.saw.chose.parsed records) := by
  rw [handleFile, ActionWith.runWith_bind_ok (runWith_count _ w c), ActionWith.runWith_bind,
    ActionWith.runWith_liftExcept]
  rcases x.matcher.accepts t with f | _ | _
  · rfl
  · rfl
  · refine (ActionWith.runWith_bind_ok (runWith_count _ w c.saw)).trans ?_
    rw [ActionWith.runWith_bind, ActionWith.runWith_lift]
    rcases (packageOf x.package d).runIn w with ⟨f | package, w'⟩
    · rfl
    · refine (ActionWith.runWith_bind (liftM (Extraction.extract x.extractor
        (originOf path t package))) _ _ _).trans ?_
      rw [ActionWith.runWith_lift]
      simp only
      rcases (Extraction.extract x.extractor (originOf path t package)).runIn w' with
        ⟨f | _ | ⟨records, tree⟩, w''⟩ <;> rfl

/-! ## Around the walk -/

omit x w c in
/-- The walk of a run follows another if its callback does, in worlds with the same files. -/
theorem follows_walk {σ τ : Type} {G : σ → Prop} {R E : World × σ → World × τ → Prop}
    {emit : Walk.Event → ActionWith σ Unit} {emit' : Walk.Event → ActionWith τ Unit}
    (hfiles : ∀ s t, R s t → s.1.SameFiles t.1)
    (hlog : ∀ s t es, R s t → R (s.1.logged es, s.2) (t.1.logged es, t.2))
    (hE : ∀ s t, R s t → E s t) (hback : ∀ e, Within (Walk.Kept G) (emit e))
    (hemit : ∀ e, Follows (fun s => G s.2) R E (emit e) (emit' e)) (settings : Settings) :
    Follows (fun s => G s.2) R E (walk settings emit) (walk settings emit') := by
  have sight (mode : Walk.Mode) (root : Path) :
      Walk.Sight mode root (fun _ => True) (fun _ => True) R :=
    .of_sameFiles mode root (hfiles _ _) (hlog _ _)
  intro s t hR hG
  unfold walk at hG ⊢
  split at hG
  · exact Walk.follows_walk hE hback (fun e _ => hemit e) hR (hfiles s t hR)
      (fun root _ => ⟨sight _ root, trivial⟩) hG
  · exact Walk.follows_walk hE hback (fun e _ => hemit e) hR (hfiles s t hR)
      (fun root _ => ⟨sight _ root, trivial⟩) hG
  · exact .error (hE s t hR)

omit x w c in
/-- The walk of a run keeps what its callback keeps. -/
theorem keeps_walk {σ : Type} {I F : World × σ → Prop} {emit : Walk.Event → ActionWith σ Unit}
    (hlog : ∀ s es, I s → I (s.1.logged es, s.2)) (hfail : ∀ s, I s → F s)
    (hemit : ∀ e, Keeps I F (emit e)) (settings : Settings) : Keeps I F (walk settings emit) := by
  unfold walk
  split
  · exact Walk.keeps_walk hlog hfail hemit _
  · exact Walk.keeps_walk hlog hfail hemit _
  · exact fun s h => hfail s h

omit x in
/-- The archive is closed behind what succeeds, and aborted behind what fails. -/
theorem runWith_during (y : ActionWith Collected Unit) :
    (Archive.during inArchive y).runWith w c =
      match y.runWith w c with
      | (.error f, w', c') => (.error f, w', { c' with archive := { c'.archive with
          closed := true, pending := none } })
      | (.ok _, w', c') =>
        match Archive.close.runWith w' c'.archive with
        | (.error f, w'', a) => (.error f, w'', { c' with archive := a })
        | (.ok _, w'', a) => (.ok (), w'', { c' with archive := a }) := by
  have hattempt := ActionWith.runWith_attempt y w c
  rcases hy : y.runWith w c with ⟨f | _, w', c'⟩ <;> rw [hy] at hattempt <;>
    rw [Archive.during, ActionWith.runWith_bind_ok hattempt]
  · rfl
  · have hclose : (inArchive do let _ ← Archive.close).runWith w' c' =
        match Archive.close.runWith w' c'.archive with
        | (.error f, w'', a) => (.error f, w'', { c' with archive := a })
        | (.ok _, w'', a) => (.ok (), w'', { c' with archive := a }) := by
      rw [inArchive, ActionWith.runWith_onPart, ActionWith.runWith_bind]
      rcases Archive.close.runWith w' c'.archive with ⟨_ | _, w'', a⟩ <;> rfl
    simp only [ActionWith.runWith_bind, hclose]
    rcases Archive.close.runWith w' c'.archive with ⟨_ | _, w'', a⟩ <;> rfl

theorem runIn_collect (start : Collected) :
    (collect x start).runIn w =
      match (walk x.settings (handle x)).runWith w start with
      | (.error f, w', _) => (.error f, w')
      | (.ok _, w', c) =>
        match Archive.close.runWith w' c.archive with
        | (.error f, w'', _) => (.error f, w'')
        | (.ok _, w'', a) =>
          (.ok { c with archive := a, stats := { c.stats with treesWritten := a.written } },
            w'') := by
  rw [collect, runIn_bind, ActionWith.runIn_keeping, runWith_during]
  rcases (walk x.settings (handle x)).runWith w start with ⟨f | _, w', c⟩
  · rfl
  · simp only
    rcases Archive.close.runWith w' c.archive with ⟨_ | _, w'', a⟩ <;> rfl

/-- The world in which the walk of a run begins. -/
def walkStart : World :=
  { w with nextId := 1, log := .collecting x.sourceRoot :: w.log }

/-- The state in which the walk of a run begins. -/
def emptyCollected : Collected := { archive := .below x.destination }

theorem runIn_gather :
    (gather x).runIn w =
      match (collect x (emptyCollected x)).runIn (walkStart x w) with
      | (.error f, w') => (.error f, w')
      | (.ok c, w') =>
        match (syntheticRecords x.settings).runIn { w' with log := .finished :: w'.log } with
        | (.error f, w'') => (.error f, w'')
        | (.ok records, w'') => (.ok { c with records := c.records ++ records }, w'') := by
  rw [gather, runIn_bind_ok (runIn_change _ _), runIn_bind_ok (runIn_report _ _), runIn_bind]
  unfold emptyCollected walkStart
  rcases (collect x _).runIn _ with ⟨_ | c, w'⟩
  · rfl
  · simp only
    rw [runIn_bind_ok (runIn_report _ _), runIn_bind]
    rcases (syntheticRecords x.settings).runIn _ with ⟨_ | rs, w''⟩ <;> rfl

end SourceDocs.Run
