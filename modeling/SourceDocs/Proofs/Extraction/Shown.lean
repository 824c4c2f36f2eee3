import SourceDocs.Proofs.Acting
import SourceDocs.Proofs.Files.LinkFree
import SourceDocs.Proofs.Log.Excerpt
import SourceDocs.Proofs.Source.Module
import SourceDocs.Proofs.Tree.Position

/-!
# What a recorder is shown

A recorder is shown the nodes of a tree in order, until it fails on one of them.  The node on which
it fails is reported, and nothing behind it is shown (`FailsAt`).  The report itself does not fail,
whatever the recorder has done to the file in the meantime (`exists_runIn_aboutNode`).  The main
result is `shown_in_order`, about traversals with any children and any callback, and about the
extraction from a file with any recorder.
-/

namespace SourceDocs

/-! ## Calls in a row -/

namespace Acting

variable {σ β : Type} {callback callback' : β → Acting σ Unit} {bs before : List β} {b : β}
  {f f' : Failure} {s t t' : σ}

/-- Of calls in a row, those before one item succeed, and the one for this item fails. -/
structure FailsAt (callback : β → Acting σ Unit) (bs before : List β) (b : β) (f : Failure)
    (s t : σ) : Prop where
  split : ∃ after, bs = before ++ b :: after
  fails : ∃ between, outcome (before.forM callback) s = (.ok (), between) ∧
    outcome (callback b) between = (.error f, t)

theorem outcome_forM_cons (callback : β → Acting σ Unit) (b : β) (rest : List β) (s : σ) :
    outcome ((b :: rest).forM callback) s =
      match outcome (callback b) s with
      | (.ok _, between) => outcome (rest.forM callback) between
      | (.error f, t) => (.error f, t) := by
  rw [List.forM, outcome_bind]
  rcases outcome (callback b) s with ⟨f | u, between⟩ <;> rfl

/-- Calls in a row that fail do so at one item. -/
theorem exists_failsAt (h : outcome (bs.forM callback) s = (.error f, t)) :
    ∃ before b, FailsAt callback bs before b f s t := by
  induction bs generalizing s with
  | nil => cases h
  | cons c rest ih =>
    rw [outcome_forM_cons] at h
    rcases hc : outcome (callback c) s with ⟨g | u, between⟩ <;> rw [hc] at h
    · cases h
      exact ⟨[], c, ⟨rest, rfl⟩, s, rfl, hc⟩
    · obtain ⟨before, b, ⟨after, rfl⟩, between', hbefore, hb⟩ := ih h
      refine ⟨c :: before, b, ⟨after, rfl⟩, between', ?_, hb⟩
      rw [outcome_forM_cons, hc]
      exact hbefore

/-- The first failure ends calls in a row: nothing is called for the items behind it. -/
theorem FailsAt.outcome_forM (h : FailsAt callback bs before b f s t) :
    outcome (bs.forM callback) s = (.error f, t) := by
  obtain ⟨⟨after, rfl⟩, between, hbefore, hb⟩ := h
  rw [Tree.forM_append, outcome_bind, hbefore]
  show outcome ((b :: after).forM callback) between = (.error f, t)
  rw [outcome_forM_cons, hb]

/-- Calls that succeed are replaced by others that do the same whenever they succeed. -/
theorem outcome_forM_ok (h : outcome (bs.forM callback) s = (.ok (), t))
    (hsame : ∀ b s t, outcome (callback b) s = (.ok (), t) →
      outcome (callback' b) s = (.ok (), t)) :
    outcome (bs.forM callback') s = (.ok (), t) := by
  induction bs generalizing s with
  | nil => exact h
  | cons b rest ih =>
    rw [outcome_forM_cons] at h ⊢
    rcases hb : outcome (callback b) s with ⟨f | u, between⟩ <;> rw [hb] at h
    · cases h
    · rw [hsame b s between hb]
      exact ih h

theorem FailsAt.congr (h : FailsAt callback bs before b f s t)
    (hsame : ∀ b s t, outcome (callback b) s = (.ok (), t) →
      outcome (callback' b) s = (.ok (), t))
    (hfails : ∀ between, outcome (callback b) between = (.error f, t) →
      outcome (callback' b) between = (.error f', t')) :
    FailsAt callback' bs before b f' s t' := by
  obtain ⟨between, hbefore, hb⟩ := h.fails
  exact ⟨h.split, between, outcome_forM_ok hbefore hsame, hfails between hb⟩

end Acting

/-! ## Reports of nodes -/

namespace Complaint

open SourceDocs.Action Excerpt World

variable {w : World} {p : Path} {e : Entry}

/-- Where something can be found, it can be looked for ever after. -/
theorem isSystem_of_entry {u : World} {f : FileFault} (hentry : w.entry p = .ok e)
    (h : u.entry p = .error f) : f.isSystem := by
  have hcheck : Files.checkLookup p = .ok () := by
    cases hlook : Files.checkLookup p with
    | ok => rfl
    | error g => simp [World.entry, Files.entry, Files.follow, hlook, bind, Except.bind] at hentry
  -- Only the check of the path refuses otherwise, and it does not look at the files.
  unfold World.entry Files.entry Files.follow at h
  simp only [hcheck, bind, Except.bind] at h
  rcases hfollow : Files.followNames u.tree true Files.maxLinks
    (if p.isAbsolute then [] else u.current) p.names with g | ⟨names, _ | found⟩ <;>
    rw [hfollow] at h
  · obtain rfl := Except.error.inj h
    rcases Files.followNames_error hfollow with (rfl | rfl | rfl) | rfl <;> rfl
  · obtain rfl := Except.error.inj h
    rfl
  · cases h

theorem exists_runIn_readLines (hentry : w.entry p = .ok e) (u : World) :
    ∃ lines, (Files.readLines p).runIn u = (.ok lines, u) := by
  rw [Files.readLines, runIn_attempt_bind, runIn_readBytes]
  rcases hnow : u.entry p with f | (data | es | target)
  · have hsystem := isSystem_of_entry hentry hnow
    exact ⟨[], by simp only [hsystem]; rfl⟩
  · exact ⟨_, rfl⟩
  · exact ⟨_, rfl⟩
  · exact ⟨_, rfl⟩

/-- A node whose line has a natural number is reported in one event, whatever is found where its
file was. -/
theorem exists_runIn_aboutNode (hentry : w.entry p = .ok e) {node : Value}
    (hline : ∀ n, numberOf node "lineno" = some n → 0 ≤ n) (u : World) :
    ∃ line excerpt, (aboutNode p node).runIn u =
      (.ok (), { u with log := .badNode p node.typeName line excerpt :: u.log }) := by
  obtain ⟨lines, hlines⟩ := exists_runIn_readLines hentry u
  rw [aboutNode, aboutLines, runIn_bind_ok hlines]
  split
  next first rest line hknown =>
    obtain ⟨hnumber, hzero⟩ := Option.filter_eq_some_iff.1 hknown
    have hpos : 1 ≤ line := by
      have hnonneg := hline line hnumber
      have hne : line ≠ 0 := by simpa using hzero
      omega
    simp only [between_eq _ hpos]
    exact ⟨_, _, rfl⟩
  next => exact ⟨_, _, rfl⟩

theorem numberOf_nonneg {node : Value} (h : Tree.IsRead node) :
    ∀ n, numberOf node "lineno" = some n → 0 ≤ n := by
  intro n hnumber
  rcases h.line with hline | ⟨line, hline⟩ <;> rw [numberOf, hline] at hnumber
  · cases hnumber
  · obtain rfl : (line : Int) = n := Option.some.inj hnumber
    exact Int.natCast_nonneg line

end Complaint

/-! ## Recorders -/

namespace Extraction

open SourceDocs.Action SourceDocs.Acting SourceDocs.Tree

variable {σ : Type} {r : Recorder σ} {o : Origin} {w w₁ w₂ : World} {s s₁ : σ}
  {n : Node} {parent : Option Node}
  {bytes : List UInt8} {tree : Value}

theorem runWith_pushOrReport_ok (h : (r.push o n parent).runWith w s = (.ok (), w₁, s₁)) :
    (r.pushOrReport o n parent).runWith w s = (.ok (), w₁, s₁) := by
  rw [Recorder.pushOrReport, ActionWith.runWith_attempt_bind, h]
  rfl

/-- A node on which the recorder fails is reported, and then the extraction fails. -/
theorem runWith_pushOrReport_error {f : Failure}
    (h : (r.push o n parent).runWith w s = (.error f, w₁, s₁))
    (habout : (Complaint.aboutNode o.path n.value).runIn w₁ = (.ok (), w₂)) :
    (r.pushOrReport o n parent).runWith w s =
      (.error (.extraction (.badNode o.path n.value.typeName f.cause)), w₂, s₁) := by
  have hlift := ActionWith.runWith_lift (Complaint.aboutNode o.path n.value) w₁ s₁
  rw [habout] at hlift
  rw [Recorder.pushOrReport, ActionWith.runWith_attempt_bind, h]
  exact ActionWith.runWith_bind_ok hlift

/-- The records of a tree are those after all its nodes have been shown. -/
theorem runIn_recordsFrom (r : Recorder σ) (o : Origin) (tree : Value) (w : World) (s : σ) :
    (r.recordsFrom o tree s).runIn w =
      match ((calls tree).forM fun c => r.pushOrReport o c.1 c.2).runWith w s with
      | (.ok _, w', s') => (.ok (r.records s'), w')
      | (.error f, w', _) => (.error f, w') := by
  have hkeeping := ActionWith.runIn_keeping s (Tree.traverse tree (r.pushOrReport o)) w
  rw [Tree.traverse_eq] at hkeeping
  rw [Recorder.recordsFrom, Tree.traverse_eq, runIn_bind_ok hkeeping]
  rcases ((calls tree).forM fun c => r.pushOrReport o c.1 c.2).runWith w s with ⟨f | u, w', s'⟩ <;>
    rfl

/-- What is extracted from a file that can be read into a tree. -/
theorem runIn_extract (hfile : w.entry o.path = .ok (.file bytes))
    (hparse : Source.parseModule bytes = .ok tree)
    (hstart : (r.start tree o).runIn { w with log := .parsing o.path :: w.log } = (.ok s, w₁)) :
    (r.extract o).runIn w =
      match (r.recordsFrom o tree s).runIn w₁ with
      | (.ok records, w') => (.ok (some (records, tree)), w')
      | (.error f, w') => (.error f, w') := by
  have hread : (parseFile o.path).runIn { w with log := .parsing o.path :: w.log } =
      (.ok tree, { w with log := .parsing o.path :: w.log }) := by
    have hsame : ({ w with log := .parsing o.path :: w.log } : World).entry o.path =
        .ok (.file bytes) := hfile
    rw [parseFile, runIn_attempt_bind, runIn_readBytes, hsame]
    simp only [hparse]
    rfl
  rw [Recorder.extract, runIn_bind_ok (runIn_report _ _), runIn_attempt_bind, hread]
  simp only
  rw [runIn_attempt_bind, hstart]
  simp only
  rw [runIn_bind]
  rcases (r.recordsFrom o tree s).runIn w₁ with ⟨f | records, w'⟩ <;> rfl

/-- A node of a file that has been read, and on which the recorder fails, ends the extraction. -/
theorem FailsAt.pushOrReport {f : Failure} {before : List (Node × Option Node)}
    {c : Node × Option Node} (hfile : w.entry o.path = .ok (.file bytes))
    (hparse : Source.parseModule bytes = .ok tree)
    (h : FailsAt (fun c => r.push o c.1 c.2) (calls tree) before c f (w₁, s) (w₂, s₁)) :
    ∃ line excerpt, FailsAt (fun c => r.pushOrReport o c.1 c.2) (calls tree) before c
      (.extraction (.badNode o.path c.1.value.typeName f.cause)) (w₁, s)
      ({ w₂ with log := .badNode o.path c.1.value.typeName line excerpt :: w₂.log }, s₁) := by
  have hmem : c ∈ calls tree := by
    obtain ⟨after, hsplit⟩ := h.split
    rw [hsplit]
    exact List.mem_append_right _ List.mem_cons_self
  have hread : IsRead c.1.value := forall_mem_calls (fun _ hu _ hc => hu.child hc)
    (Source.isRead_of_parseModule hparse) c hmem
  obtain ⟨line, excerpt, habout⟩ :=
    Complaint.exists_runIn_aboutNode hfile (Complaint.numberOf_nonneg hread) w₂
  refine ⟨line, excerpt, h.congr (fun u p q hok => ?_) fun between hfails => ?_⟩
  · exact runWith_pushOrReport_ok hok
  · exact runWith_pushOrReport_error hfails habout

/-- A traversal, whatever the children of a node are, makes the calls that a recursive one makes:
one for each occurrence of a node, with its true parent, in the order of positions, up to the first
call that fails.  So a recorder is shown the nodes of a file in this order, and the first one on
which it fails is the one that the extraction fails on. -/
theorem shown_in_order :
    (∀ {α : Type} (children : α → List α) (root : α) (h : IsFinite children root),
      (occurrences children root).Pairwise (fun a b => a.position < b.position) ∧
      (∀ a, a ∈ occurrences children root ↔ a.IsIn children root) ∧
      ∀ steps, (occurrences children root).length ≤ steps →
        (∀ {m : Type → Type} [Monad m] [LawfulMonad m] (callback : α → Option α → m Unit),
          traverseBy children callback steps root = recurse children callback ⟨root, h⟩ none ∧
          traverseBy children callback steps root =
            (occurrences children root).forM fun a => callback a.node a.parent) ∧
        ∀ {σ : Type} (callback : α → Option α → Acting σ Unit) (f : Failure) (s t : σ),
          outcome (traverseBy children callback steps root) s = (.error f, t) ↔
            ∃ before a, FailsAt (fun a => callback a.node a.parent) (occurrences children root)
              before a f s t) ∧
    (∀ tree, calls tree = (occurrences Node.children (.ofRoot tree)).map Occurrence.pair ∧
      (calls tree).map (fun c => (c.1.value, c.2.map Node.value)) =
        (occurrences Tree.children tree).map Occurrence.pair ∧
      ∀ {m : Type → Type} [Monad m] (callback : Node → Option Node → m Unit),
        traverse tree callback = (calls tree).forM fun c => callback c.1 c.2) ∧
    ∀ {σ : Type} (r : Recorder σ) (o : Origin) (w w₁ : World) (s : σ) (bytes : List UInt8)
      (tree : Value), w.entry o.path = .ok (.file bytes) → Source.parseModule bytes = .ok tree →
      (r.start tree o).runIn { w with log := .parsing o.path :: w.log } = (.ok s, w₁) →
      (∀ w₂ s₂, ((calls tree).forM fun c => r.push o c.1 c.2).runWith w₁ s = (.ok (), w₂, s₂) →
        (r.extract o).runIn w = (.ok (some (r.records s₂, tree)), w₂)) ∧
      ∀ f w₂ s₂, ((calls tree).forM fun c => r.push o c.1 c.2).runWith w₁ s = (.error f, w₂, s₂) →
        ∃ before c line excerpt,
          FailsAt (fun c => r.push o c.1 c.2) (calls tree) before c f (w₁, s) (w₂, s₂) ∧
          (r.extract o).runIn w =
            (.error (.extraction (.badNode o.path c.1.value.typeName f.cause)),
              { w₂ with log := .badNode o.path c.1.value.typeName line excerpt :: w₂.log }) := by
  refine ⟨fun children root h => ⟨pairwise_occurrences h, fun a => mem_occurrences h, ?_⟩,
    fun tree => ⟨calls_eq_occurrences tree, map_calls_occurrences tree,
      fun callback => traverse_eq tree callback⟩, ?_⟩
  · intro steps hsteps
    refine ⟨fun callback => ⟨?_, traverseBy_eq_forM callback h hsteps⟩, fun callback f s t => ?_⟩
    · rw [traverseBy_eq_forM callback h hsteps, recurse_eq_forM]
    · rw [traverseBy_eq_forM callback h hsteps]
      constructor
      · exact exists_failsAt
      · rintro ⟨before, a, hfails⟩
        exact hfails.outcome_forM
  · intro σ r o w w₁ s bytes tree hfile hparse hstart
    constructor
    · intro w₂ s₂ hpushes
      have hshown : ((calls tree).forM fun c => r.pushOrReport o c.1 c.2).runWith w₁ s =
          (.ok (), w₂, s₂) :=
        outcome_forM_ok hpushes fun u p q hok => runWith_pushOrReport_ok hok
      rw [runIn_extract hfile hparse hstart, runIn_recordsFrom, hshown]
    · intro f w₂ s₂ hpushes
      obtain ⟨before, c, hfails⟩ := exists_failsAt hpushes
      obtain ⟨line, excerpt, hreported⟩ := FailsAt.pushOrReport hfile hparse hfails
      have hshown := hreported.outcome_forM
      refine ⟨before, c, line, excerpt, hfails, ?_⟩
      rw [outcome_actionWith] at hshown
      rw [runIn_extract hfile hparse hstart, runIn_recordsFrom, hshown]

/-! ## A name that is refused -/

/-- A node above two equal nodes, down to zero. -/
def twins : Nat → List Nat
  | 0 => []
  | n + 1 => [n, n]

theorem isFinite_twins : IsFinite twins 1 := by
  have hzero : IsFinite twins 0 := .intro 0 fun c hc => nomatch hc
  refine .intro 1 fun c hc => ?_
  obtain rfl : c = 0 := by simpa [twins] using hc
  exact hzero

/-- Equal nodes occur at different positions. -/
theorem occurrences_twins : occurrences twins 1 =
    [⟨[], 1, none⟩, ⟨[0], 0, some 1⟩, ⟨[1], 0, some 1⟩] := by
  have hroot : IsFinite (Occurrence.below twins) (.ofRoot 1) := Occurrence.isFinite isFinite_twins
  have hbelow : Occurrence.below twins (.ofRoot 1) = [⟨[0], 0, some 1⟩, ⟨[1], 0, some 1⟩] := rfl
  have hleaf (c : Occurrence Nat) (hc : c ∈ Occurrence.below twins (.ofRoot 1)) :
      order (Occurrence.below twins) c = [c] := by
    have hnone : Occurrence.below twins c = [] := by
      rw [hbelow] at hc
      rcases List.mem_pair.1 hc with rfl | rfl <;> rfl
    rw [order_eq (hroot.down hc), hnone, List.flatMap_nil]
  rw [occurrences, order_eq hroot, List.flatMap_congr hleaf, hbelow]
  rfl

/-- A module that consists of a name. -/
def nameSource : List UInt8 := "x\n".toList.map fun c => UInt8.ofNat c.toNat

/-- Where this module stands. -/
def nameOrigin : Origin where
  path := ⟨1, ["a.py"]⟩
  relativePath := "a.py"

/-- A tree with this module. -/
def naming : World where
  tree := .directory [("a.py", .file nameSource)]
  current := []
  home := ⟨1, []⟩

/-- A recorder that counts what it is shown, and fails on names. -/
def nameless : Recorder Nat where
  start _ _ := return 0
  push _ n _ :=
    if n.value.typeName = "Name" then throw (.raised (.misuse .badPosition))
    else ActionWith.update (· + 1)
  records _ := []

theorem exists_nameSource : ∃ tree, Source.parseModule nameSource = .ok tree ∧
    (calls tree).map (fun c => c.1.value.typeName) = ["Module", "Expr", "Name", "Load"] := by
  have hread : ((Source.parseModule nameSource).toOption.map fun tree =>
      (calls tree).map fun c => c.1.value.typeName) = some ["Module", "Expr", "Name", "Load"] := by
    decide +kernel
  rcases hparse : Source.parseModule nameSource with f | tree <;> rw [hparse] at hread
  · cases hread
  · exact ⟨tree, rfl, Option.some.inj hread⟩

/-- It is shown two nodes before it fails. -/
theorem runWith_nameless {tree : Value} (h : (calls tree).map (fun c => c.1.value.typeName) =
    ["Module", "Expr", "Name", "Load"]) (w : World) :
    ((calls tree).forM fun c => nameless.push nameOrigin c.1 c.2).runWith w 0 =
      (.error (.raised (.misuse .badPosition)), w, 2) := by
  obtain ⟨a, _, hcalls, ha, h⟩ := List.map_eq_cons_iff.1 h
  obtain ⟨b, _, rfl, hb, h⟩ := List.map_eq_cons_iff.1 h
  obtain ⟨c, rest, rfl, hc, -⟩ := List.map_eq_cons_iff.1 h
  have hone : (nameless.push nameOrigin a.1 a.2).runWith w 0 = (.ok (), w, 1) := by
    simp [nameless, ha]
  have htwo : (nameless.push nameOrigin b.1 b.2).runWith w 1 = (.ok (), w, 2) := by
    simp [nameless, hb]
  have hthree : (nameless.push nameOrigin c.1 c.2).runWith w 2 =
      (.error (.raised (.misuse .badPosition)), w, 2) := by
    simp [nameless, hc]
  rw [hcalls, List.forM, ActionWith.runWith_bind_ok hone, List.forM,
    ActionWith.runWith_bind_ok htwo, List.forM, ActionWith.runWith_bind_error hthree]

/-- Equal nodes are visited where they occur, and the extraction of the module fails on the name. -/
theorem shown_in_order_names :
    (∃ h : IsFinite twins 1, (occurrences twins 1).length ≤ 3 ∧
      ∀ callback : Nat → Option Nat → Acting (List Nat) Unit,
        traverseBy twins callback 3 1 = recurse twins callback ⟨1, h⟩ none) ∧
    ∃ tree, naming.entry nameOrigin.path = .ok (.file nameSource) ∧
      Source.parseModule nameSource = .ok tree ∧
      (nameless.start tree nameOrigin).runIn
          { naming with log := .parsing nameOrigin.path :: naming.log } =
        (.ok 0, { naming with log := [.parsing nameOrigin.path] }) ∧
      ((calls tree).forM fun c => nameless.push nameOrigin c.1 c.2).runWith
          { naming with log := [.parsing nameOrigin.path] } 0 =
        (.error (.raised (.misuse .badPosition)),
          { naming with log := [.parsing nameOrigin.path] }, 2) ∧
      ((nameless.extract nameOrigin).runIn naming).1 =
        .error (.extraction (.badNode nameOrigin.path "Name" (.misuse .badPosition))) := by
  obtain ⟨htraversals, -, hextract⟩ := shown_in_order
  have hlength : (occurrences twins 1).length ≤ 3 := by
    rw [occurrences_twins]
    exact Nat.le_refl 3
  refine ⟨⟨isFinite_twins, hlength, fun callback => ?_⟩, ?_⟩
  · obtain ⟨-, -, hcalls⟩ := htraversals twins 1 isFinite_twins
    exact ((hcalls 3 hlength).1 callback).1
  · obtain ⟨tree, hparse, htypes⟩ := exists_nameSource
    have hfile : naming.entry nameOrigin.path = .ok (.file nameSource) :=
      Complaint.entry_alone nameSource
    have hpushes := runWith_nameless htypes { naming with log := [.parsing nameOrigin.path] }
    obtain ⟨-, hfails⟩ := hextract nameless nameOrigin naming
      { naming with log := [.parsing nameOrigin.path] } 0 nameSource tree hfile hparse rfl
    obtain ⟨before, c, line, excerpt, ⟨-, between, -, hc⟩, hending⟩ := hfails _ _ _ hpushes
    have hname : c.1.value.typeName = "Name" := by
      by_contra hother
      simp [nameless, hother, outcome_actionWith] at hc
    refine ⟨tree, hfile, hparse, rfl, hpushes, ?_⟩
    rw [hending, hname]
    rfl

end Extraction

end SourceDocs
