import SourceDocs.Extraction.File
import SourceDocs.Proofs.Action
import SourceDocs.Proofs.Extraction.Climbing

/-!
# Numbering records

An extractor is shown nodes with their parents, and climbs through the parents that it has noted.
`push` is what it does with a node whose ancestors are known already; on the visits of a tree it
does the same (`describeTree_eq`, `recordsOf_eq`).

`describeAll` is the list of what the visits of a tree are described by.  Extraction from a file
gives these drafts, numbered in order from the next number on (`runIn_recordsOf`), or fails if one
of the nodes cannot be described.
-/

namespace SourceDocs

/-! ## Numbers of drafts -/

theorem numberDrafts_nil (n : Int) : numberDrafts n [] = [] := rfl

theorem numberDrafts_cons (n : Int) (d : Draft) (ds : List Draft) :
    numberDrafts n (d :: ds) = { toDraft := d, docId := n } :: numberDrafts (n + 1) ds := by
  unfold numberDrafts
  rw [List.zipIdx_cons, List.map_cons]
  congr 1
  · simp
  · rw [show 0 + 1 = 1 + 0 from rfl, List.zipIdx_succ, List.map_map]
    refine List.map_congr_left fun (e, i) _ => ?_
    simp only [Function.comp_apply, DocRecord.mk.injEq, true_and]
    omega

theorem numberDrafts_append (n : Int) (ds es : List Draft) :
    numberDrafts n (ds ++ es) = numberDrafts n ds ++ numberDrafts (n + ds.length) es := by
  induction ds generalizing n with
  | nil => simp [numberDrafts_nil]
  | cons d rest ih =>
    have hnext : n + 1 + (rest.length : Int) = n + ((rest.length + 1 : Nat) : Int) := by omega
    rw [List.cons_append, numberDrafts_cons, numberDrafts_cons, ih, List.cons_append,
      List.length_cons, hnext]

namespace Extraction

variable {ε : Type} {d : Tree.Visit → Except ε (List Draft)}

/-! ## Drafts of visits -/

/-- The drafts of visits, one after another. -/
def describeAll (d : Tree.Visit → Except ε (List Draft)) : List Tree.Visit → Except ε (List Draft)
  | [] => .ok []
  | v :: rest => do
    let own ← d v
    let more ← describeAll d rest
    return own ++ more

theorem describeAll_cons_ok {v : Tree.Visit} {own : List Draft} (h : d v = .ok own)
    (rest : List Tree.Visit) :
    describeAll d (v :: rest) = (describeAll d rest).map (own ++ ·) := by
  rw [describeAll, h]
  cases describeAll d rest <;> rfl

theorem describeAll_cons_error {v : Tree.Visit} {f : ε} (h : d v = .error f)
    (rest : List Tree.Visit) : describeAll d (v :: rest) = .error f := by
  rw [describeAll, h]
  rfl

theorem describeAll_append (vs ws : List Tree.Visit) :
    describeAll d (vs ++ ws) =
      (do return (← describeAll d vs) ++ (← describeAll d ws)) := by
  induction vs with
  | nil => cases h : describeAll d ws <;> simp [describeAll, h] <;> rfl
  | cons v rest ih =>
    cases hv : d v with
    | error f =>
      rw [List.cons_append, describeAll_cons_error hv, describeAll_cons_error hv]
      rfl
    | ok own =>
      rw [List.cons_append, describeAll_cons_ok hv, describeAll_cons_ok hv, ih]
      cases describeAll d rest with
      | error f => rfl
      | ok more =>
        cases describeAll d ws <;> simp [Except.map, bind, Except.bind, pure, Except.pure]

theorem describeAll_mapError {δ : Type} (f : ε → δ) (vs : List Tree.Visit) :
    describeAll (fun v => (d v).mapError f) vs = (describeAll d vs).mapError f := by
  induction vs with
  | nil => rfl
  | cons v rest ih =>
    cases hv : d v with
    | error e =>
      have hmapped : (d v).mapError f = .error (f e) := by
        rw [hv]
        rfl
      rw [describeAll_cons_error hv, describeAll_cons_error (v := v) hmapped]
      rfl
    | ok own =>
      have hmapped : (d v).mapError f = .ok own := by
        rw [hv]
        rfl
      rw [describeAll_cons_ok hv, describeAll_cons_ok (v := v) hmapped, ih]
      cases describeAll d rest <;> rfl

/-- What is done with a node that is shown: its parent is noted, and its drafts are added. -/
def describeShown (o : Origin) (c : Tree.Node × Option Tree.Node) :
    StateT (Parents × List Draft) (Except Fault) Unit := do
  modify fun s => (s.1.note c.1 c.2, s.2)
  let s ← get
  let drafts ← (describe o (s.1.visit c.1) : Except Fault (List Draft))
  set (s.1, s.2 ++ drafts)

theorem run_describeShown (o : Origin) (c : Tree.Node × Option Tree.Node) (ps : Parents)
    (acc : List Draft) : (describeShown o c).run (ps, acc) =
      (describe o ((ps.note c.1 c.2).visit c.1)).map
        fun drafts => ((), ps.note c.1 c.2, acc ++ drafts) := by
  simp only [describeShown, StateT.run_bind, StateT.run_modify, StateT.run_get, StateT.run_set,
    StateT.run_monadLift, liftM, pure_bind]
  cases describe o ((ps.note c.1 c.2).visit c.1) <;> rfl

/-- Nodes that are shown are described with the ancestors that climbing finds. -/
theorem run_forM_describeShown (o : Origin) (cs : List (Tree.Node × Option Tree.Node))
    (ps : Parents) (acc : List Draft) :
    ((cs.forM (describeShown o)).run (ps, acc)).map (fun r => r.2.2) =
      (describeAll (describe o) (ps.along cs)).map (acc ++ ·) := by
  induction cs generalizing ps acc with
  | nil => exact congrArg Except.ok (List.append_nil acc).symm
  | cons c rest ih =>
    rw [Parents.along, List.forM, StateT.run_bind, run_describeShown]
    cases hv : describe o ((ps.note c.1 c.2).visit c.1) with
    | error f =>
      rw [describeAll_cons_error hv]
      rfl
    | ok own =>
      rw [describeAll_cons_ok hv]
      refine (ih (ps.note c.1 c.2) (acc ++ own)).trans ?_
      cases describeAll (describe o) ((ps.note c.1 c.2).along rest) <;> simp [Except.map]

/-- The drafts of a tree are those of its visits. -/
theorem describeTree_eq (o : Origin) (tree : Value) :
    describeTree o tree = describeAll (describe o) (Tree.visits tree) := by
  have hshown : describeTree o tree =
      ((Tree.traverse tree fun n parent => describeShown o (n, parent)).run ([], [])).map
        fun r => r.2.2 := rfl
  rw [hshown, Tree.traverse_eq]
  refine (run_forM_describeShown o (Tree.calls tree) [] []).trans ?_
  rw [along_calls]
  cases describeAll (describe o) (Tree.visits tree) <;> rfl

/-! ## Extraction -/

theorem runWith_addRecords (ds : List Draft) (w : World) (rs : List DocRecord) :
    (ds.forM addRecord).runWith w rs =
      (.ok (), { w with nextId := w.nextId + ds.length }, rs ++ numberDrafts w.nextId ds) := by
  induction ds generalizing w rs with
  | nil => simp [numberDrafts_nil, List.forM]
  | cons d rest ih =>
    have hone : (addRecord d).runWith w rs =
        (.ok (), { w with nextId := w.nextId + 1 }, rs ++ [{ toDraft := d, docId := w.nextId }]) :=
      rfl
    rw [List.forM, ActionWith.runWith_bind_ok hone, ih, numberDrafts_cons]
    simp
    omega

variable {x : Extractor} {o : Origin}

/-- What is done with a node whose ancestors are known: its records are added, or it is reported. -/
def push (x : Extractor) (o : Origin) (v : Tree.Visit) : ActionWith (List DocRecord) Unit :=
  match x.describe o v with
  | .ok drafts => drafts.forM addRecord
  | .error cause => do
    Complaint.aboutNode o.path v.node
    throw (.extraction (.badNode o.path v.node.typeName cause))

/-- A node is noted, and then pushed with the ancestors that climbing finds. -/
theorem runWith_pushOrReport (n : Tree.Node) (parent : Option Tree.Node) (w : World) (ps : Parents)
    (rs : List DocRecord) {ending : Except Failure Unit} {w' : World} {rs' : List DocRecord}
    (h : (push x o ((ps.note n parent).visit n)).runWith w rs = (ending, w', rs')) :
    (x.recorder.pushOrReport o n parent).runWith w (ps, rs) =
      (ending, w', ps.note n parent, rs') := by
  rw [push] at h
  rw [Recorder.pushOrReport, ActionWith.runWith_attempt_bind]
  have hnoted : (x.recorder.push o n parent).runWith w (ps, rs) =
      (match x.describe o ((ps.note n parent).visit n) with
        | .ok drafts =>
          ActionWith.onPart Prod.snd (fun records s => (s.1, records)) (drafts.forM addRecord)
        | .error cause => throw (.raised cause) :
          ActionWith (Parents × List DocRecord) Unit).runWith w (ps.note n parent, rs) := rfl
  rw [hnoted]
  cases hdescribe : x.describe o ((ps.note n parent).visit n) with
  | ok drafts =>
    rw [hdescribe] at h
    simp only at h ⊢
    rw [runWith_addRecords] at h
    obtain ⟨rfl, rfl, rfl⟩ : _ ∧ _ ∧ _ := by simpa using h
    rw [ActionWith.runWith_onPart, runWith_addRecords]
    rfl
  | error cause =>
    rw [hdescribe] at h
    simp only [ActionWith.runWith_throw] at h ⊢
    have hshort := ActionWith.runWith_lift (Complaint.aboutNode o.path n.value) w rs
    have hlong := ActionWith.runWith_lift (Complaint.aboutNode o.path n.value) w
      (ps.note n parent, rs)
    rcases hrun : (Complaint.aboutNode o.path n.value).runIn w with ⟨f | u, w₁⟩
    · rw [hrun] at hshort hlong
      have hfails := (ActionWith.runWith_bind_error hshort).symm.trans h
      obtain ⟨rfl, rfl, rfl⟩ : _ ∧ _ ∧ _ := by simpa using hfails
      exact ActionWith.runWith_bind_error hlong
    · rw [hrun] at hshort hlong
      have hreported := (ActionWith.runWith_bind_ok hshort).symm.trans h
      obtain ⟨rfl, rfl, rfl⟩ : _ ∧ _ ∧ _ := by simpa using hreported
      exact ActionWith.runWith_bind_ok hlong

/-- Nodes that are shown one after another are pushed with the ancestors that are found. -/
theorem runWith_shown (cs : List (Tree.Node × Option Tree.Node)) (w : World) (ps : Parents)
    (rs : List DocRecord) {ending : Except Failure Unit} {w' : World} {rs' : List DocRecord}
    (h : ((ps.along cs).forM (push x o)).runWith w rs = (ending, w', rs')) :
    ∃ ps', (cs.forM fun c => x.recorder.pushOrReport o c.1 c.2).runWith w (ps, rs) =
      (ending, w', ps', rs') := by
  induction cs generalizing w ps rs with
  | nil =>
    obtain ⟨rfl, rfl, rfl⟩ : _ ∧ _ ∧ _ := by simpa [Parents.along, List.forM] using h
    exact ⟨ps, rfl⟩
  | cons c rest ih =>
    rw [Parents.along, List.forM] at h
    rw [List.forM]
    rcases hpush : (push x o ((ps.note c.1 c.2).visit c.1)).runWith w rs with ⟨f | u, w₁, rs₁⟩
    · rw [ActionWith.runWith_bind_error hpush] at h
      obtain ⟨rfl, rfl, rfl⟩ : _ ∧ _ ∧ _ := by simpa using h
      exact ⟨_, ActionWith.runWith_bind_error (runWith_pushOrReport c.1 c.2 w ps rs hpush)⟩
    · rw [ActionWith.runWith_bind_ok hpush] at h
      rw [ActionWith.runWith_bind_ok (runWith_pushOrReport c.1 c.2 w ps rs hpush)]
      exact ih w₁ (ps.note c.1 c.2) rs₁ h

/-- The records of a tree are what has been added after its visits have been pushed. -/
theorem recordsOf_eq (x : Extractor) (o : Origin) (tree : Value) :
    recordsOf x o tree = (do
      let (ending, records) ← ActionWith.keeping [] ((Tree.visits tree).forM (push x o))
      match ending with
      | .ok _ => return records
      | .error f => throw f) := by
  refine Action.eq_of_runIn fun w => ?_
  rcases hpushes : ((Tree.visits tree).forM (push x o)).runWith w [] with ⟨ending, w', rs⟩
  obtain ⟨ps, hshown⟩ := runWith_shown (Tree.calls tree) w [] [] ((along_calls tree).symm ▸ hpushes)
  have hshort := ActionWith.runIn_keeping [] ((Tree.visits tree).forM (push x o)) w
  have hlong := ActionWith.runIn_keeping ([], [])
    ((Tree.calls tree).forM fun c => x.recorder.pushOrReport o c.1 c.2) w
  rw [hpushes] at hshort
  rw [hshown] at hlong
  rw [recordsOf, Recorder.recordsFrom, Tree.traverse_eq, Action.runIn_bind_ok hlong,
    Action.runIn_bind_ok hshort]
  cases ending <;> rfl

theorem extract_eq (x : Extractor) (o : Origin) :
    extract x o = (do
      Action.report (.parsing o.path)
      match ← Action.attempt (parseFile o.path) with
      | .error (.source f) =>
        Complaint.aboutSource o.path f
        return none
      | .error f => throw f
      | .ok tree =>
        match x.prepare tree o with
        | .error cause => throw (.extraction (.noExtractor o.path cause))
        | .ok _ => return some (← recordsOf x o tree, tree)) := by
  rw [extract, Recorder.extract]
  congr 1
  funext _
  congr 1
  funext ending
  cases ending with
  | error f => cases f <;> rfl
  | ok tree =>
    dsimp only [Extractor.recorder]
    cases x.prepare tree o <;> rfl

theorem runWith_push {v : Tree.Visit} {ds : List Draft} (h : x.describe o v = .ok ds) (w : World)
    (rs : List DocRecord) : (push x o v).runWith w rs =
      (.ok (), { w with nextId := w.nextId + ds.length }, rs ++ numberDrafts w.nextId ds) := by
  rw [push, h]
  exact runWith_addRecords ds w rs

theorem runWith_push_error {v : Tree.Visit} {c : Cause} (h : x.describe o v = .error c) (w : World)
    (rs : List DocRecord) : ∃ f w' rs', (push x o v).runWith w rs = (.error f, w', rs') := by
  rw [push, h]
  have hlift := ActionWith.runWith_lift (Complaint.aboutNode o.path v.node) w rs
  rcases hrun : (Complaint.aboutNode o.path v.node).runIn w with ⟨f | u, w'⟩
  · rw [hrun] at hlift
    exact ⟨f, w', rs, ActionWith.runWith_bind_error hlift⟩
  · rw [hrun] at hlift
    exact ⟨_, w', rs, ActionWith.runWith_bind_ok hlift⟩

/-- Visits whose nodes can all be described give their drafts, numbered in order. -/
theorem runWith_pushes {vs : List Tree.Visit} {ds : List Draft}
    (h : describeAll (x.describe o) vs = .ok ds) (w : World) (rs : List DocRecord) :
    (vs.forM (push x o)).runWith w rs =
      (.ok (), { w with nextId := w.nextId + ds.length }, rs ++ numberDrafts w.nextId ds) := by
  induction vs generalizing w rs ds with
  | nil =>
    obtain rfl := Except.ok.inj h
    simp [numberDrafts_nil, List.forM]
  | cons v rest ih =>
    cases hv : x.describe o v with
    | error c =>
      rw [describeAll_cons_error hv] at h
      cases h
    | ok own =>
      rw [describeAll_cons_ok hv] at h
      cases hrest : describeAll (x.describe o) rest with
      | error c =>
        rw [hrest] at h
        cases h
      | ok more =>
        rw [hrest] at h
        obtain rfl := Except.ok.inj h
        rw [List.forM, ActionWith.runWith_bind_ok (runWith_push hv w rs), ih hrest,
          numberDrafts_append, List.append_assoc, List.length_append, Int.natCast_add,
          Int.add_assoc]

/-- Visits fail if one of the nodes cannot be described. -/
theorem runWith_pushes_error {vs : List Tree.Visit} {c : Cause}
    (h : describeAll (x.describe o) vs = .error c) (w : World) (rs : List DocRecord) :
    ∃ f w' rs', (vs.forM (push x o)).runWith w rs = (.error f, w', rs') := by
  induction vs generalizing w rs with
  | nil => cases h
  | cons v rest ih =>
    cases hv : x.describe o v with
    | error c' =>
      obtain ⟨f, w', rs', hpush⟩ := runWith_push_error hv w rs
      exact ⟨f, w', rs', ActionWith.runWith_bind_error hpush⟩
    | ok own =>
      rw [describeAll_cons_ok hv] at h
      cases hrest : describeAll (x.describe o) rest with
      | ok more =>
        rw [hrest] at h
        cases h
      | error c' =>
        rw [hrest] at h
        obtain rfl := Except.error.inj h
        rw [List.forM, ActionWith.runWith_bind_ok (runWith_push hv w rs)]
        exact ih hrest _ _

/-- The records of a tree are its drafts, numbered in order. -/
theorem runIn_recordsOf {tree : Value} {ds : List Draft}
    (h : describeAll (x.describe o) (Tree.visits tree) = .ok ds) (w : World) :
    (recordsOf x o tree).runIn w =
      (.ok (numberDrafts w.nextId ds), { w with nextId := w.nextId + ds.length }) := by
  have hkeeping := ActionWith.runIn_keeping [] ((Tree.visits tree).forM (push x o)) w
  rw [runWith_pushes h] at hkeeping
  rw [recordsOf_eq, Action.runIn_bind_ok hkeeping]
  rfl

/-- A tree has no records if one of its nodes cannot be described. -/
theorem runIn_recordsOf_error {tree : Value} {c : Cause}
    (h : describeAll (x.describe o) (Tree.visits tree) = .error c) (w : World) :
    ∃ f w', (recordsOf x o tree).runIn w = (.error f, w') := by
  obtain ⟨f, w', rs', hpushes⟩ := runWith_pushes_error h w []
  have hkeeping := ActionWith.runIn_keeping [] ((Tree.visits tree).forM (push x o)) w
  rw [hpushes] at hkeeping
  rw [recordsOf_eq, Action.runIn_bind_ok hkeeping]
  exact ⟨f, w', rfl⟩

end Extraction

end SourceDocs
