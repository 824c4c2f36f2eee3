import Mathlib.Data.List.Basic
import Mathlib.Order.Lattice
import SourceDocs.Proofs.Tree.Preorder

/-!
# Positions in a tree

A node may occur in a tree more than once, but each time at a position of its own: the numbers of
the children to go to from the root on.  `occurrences` lists the nodes below a root with their
positions and parents.  The main result is `mem_occurrences`, that these are all positions that lead
to a node, each with that node and its true parent; and they are in strictly increasing order
(`pairwise_occurrences`), which for positions means a node before what is below it, and that before
what is below the next child.
-/

namespace SourceDocs.Tree

variable {α : Type} {children : α → List α} {root : α}

/-- The node at a position below a root, if the position leads to one. -/
def nodeAt? (children : α → List α) : α → List Nat → Option α
  | v, [] => some v
  | v, i :: p => (children v)[i]?.bind fun c => nodeAt? children c p

/-- The node right above a position; there is none above the root. -/
def parentAt? (children : α → List α) (root : α) (p : List Nat) : Option α :=
  if p = [] then none else nodeAt? children root p.dropLast

/-- A node where it occurs: its position, and its parent. -/
structure Occurrence (α : Type) where
  position : List Nat
  node : α
  parent : Option α

namespace Occurrence

/-- The node occurs there, below a root, and that is its parent. -/
def IsIn (children : α → List α) (root : α) (o : Occurrence α) : Prop :=
  nodeAt? children root o.position = some o.node ∧ o.parent = parentAt? children root o.position

/-- The root of a tree. -/
def ofRoot (root : α) : Occurrence α := ⟨[], root, none⟩

/-- The children of a node where they occur. -/
def below (children : α → List α) (o : Occurrence α) : List (Occurrence α) :=
  (children o.node).zipIdx.map fun (c, i) => ⟨o.position ++ [i], c, some o.node⟩

/-- A node and its parent. -/
def pair (o : Occurrence α) : α × Option α := (o.node, o.parent)

end Occurrence

theorem pairsBelow_pair (o : Occurrence α) :
    pairsBelow children o.pair = (o.below children).map Occurrence.pair := by
  have hpair : (Occurrence.pair ∘ fun p : α × Nat => ⟨o.position ++ [p.2], p.1, some o.node⟩) =
      fun p => (p.1, some o.node) := rfl
  rw [Occurrence.below, List.map_map, hpair, pairsBelow]
  conv_lhs => rw [Occurrence.pair, ← List.zipIdx_map_fst 0 (children o.node), List.map_map]
  rfl

theorem mem_below {o c : Occurrence α} : c ∈ o.below children ↔
    ∃ i, (children o.node)[i]? = some c.node ∧ c.position = o.position ++ [i] ∧
      c.parent = some o.node := by
  rw [Occurrence.below, List.mem_map]
  constructor
  · rintro ⟨⟨v, i⟩, hmem, rfl⟩
    exact ⟨i, List.mem_zipIdx_iff_getElem?.1 hmem, rfl, rfl⟩
  · rintro ⟨i, hnode, hposition, hparent⟩
    refine ⟨(c.node, i), List.mem_zipIdx_iff_getElem?.2 hnode, ?_⟩
    cases c
    simp_all

theorem children_node (o : Occurrence α) :
    children o.node = (o.below children).map Occurrence.node := by
  rw [Occurrence.below, List.map_map]
  exact (List.zipIdx_map_fst 0 (children o.node)).symm

theorem Occurrence.isFinite {o : Occurrence α} (h : IsFinite children o.node) :
    IsFinite (Occurrence.below children) o := .of_map children_node h

/-- The nodes below a root where they occur, in order. -/
noncomputable def occurrences (children : α → List α) (root : α) : List (Occurrence α) :=
  order (Occurrence.below children) (.ofRoot root)

/-! ## Positions are those of nodes -/

/-- Above a position that leads through a child is the node itself, or a node below the child. -/
theorem nodeAt?_dropLast_cons {v c : α} {i : Nat} (hchild : (children v)[i]? = some c)
    (s : List Nat) : nodeAt? children v (i :: s).dropLast =
      if s = [] then some v else nodeAt? children c s.dropLast := by
  cases s with
  | nil => rfl
  | cons j s =>
    rw [if_neg (List.cons_ne_nil j s), List.dropLast_cons_cons, nodeAt?, hchild]
    rfl

/-- What is found from an occurrence on is what the rest of the position leads to. -/
theorem mem_order_below {o c : Occurrence α} (h : IsFinite (Occurrence.below children) o) :
    c ∈ order (Occurrence.below children) o ↔
      ∃ s, c.position = o.position ++ s ∧ nodeAt? children o.node s = some c.node ∧
        c.parent = if s = [] then o.parent else nodeAt? children o.node s.dropLast := by
  induction h with
  | intro o hbelow ih =>
    rw [order_eq (.intro o hbelow), List.mem_cons, List.mem_flatMap]
    -- The rest of the position is empty, or begins with the number of a child.
    constructor
    · rintro (rfl | ⟨d, hd, hc⟩)
      · exact ⟨[], (List.append_nil _).symm, rfl, rfl⟩
      · obtain ⟨s, hposition, hnode, hparent⟩ := (ih d hd).1 hc
        obtain ⟨i, hchild, hbehind, habove⟩ := mem_below.1 hd
        refine ⟨i :: s, ?_, ?_, ?_⟩
        · rw [hposition, hbehind, List.append_assoc, List.singleton_append]
        · rw [nodeAt?, hchild]
          exact hnode
        · rw [hparent, habove, if_neg (List.cons_ne_nil i s), nodeAt?_dropLast_cons hchild]
    · rintro ⟨s, hposition, hnode, hparent⟩
      cases s with
      | nil =>
        left
        cases c
        cases o
        simp_all [nodeAt?]
      | cons i s =>
        right
        rw [nodeAt?] at hnode
        obtain ⟨v, hchild, hrest⟩ := Option.bind_eq_some_iff.1 hnode
        have hmem : ⟨o.position ++ [i], v, some o.node⟩ ∈ o.below children :=
          mem_below.2 ⟨i, hchild, rfl, rfl⟩
        refine ⟨_, hmem, (ih _ hmem).2 ⟨s, ?_, hrest, ?_⟩⟩
        · rw [hposition, List.append_assoc, List.singleton_append]
        · rw [hparent, if_neg (List.cons_ne_nil i s), nodeAt?_dropLast_cons hchild]

/-- The occurrences are all positions that lead to a node, with that node and its parent. -/
theorem mem_occurrences (h : IsFinite children root) {o : Occurrence α} :
    o ∈ occurrences children root ↔ o.IsIn children root := by
  have hroot : IsFinite (Occurrence.below children) (.ofRoot root) := Occurrence.isFinite h
  rw [occurrences, mem_order_below hroot, Occurrence.IsIn, parentAt?]
  constructor
  · rintro ⟨s, hposition, hnode, hparent⟩
    rw [show o.position = s from hposition]
    exact ⟨hnode, hparent⟩
  · rintro ⟨hnode, hparent⟩
    exact ⟨o.position, rfl, hnode, hparent⟩

/-! ## Positions are in order -/

theorem pairwise_below (o : Occurrence α) :
    (o.below children).Pairwise fun c d => ∃ i j, i < j ∧ c.position = o.position ++ [i] ∧
      d.position = o.position ++ [j] := by
  have hnumbers : ((children o.node).zipIdx.map Prod.snd).Pairwise (· < ·) := by
    rw [List.zipIdx_map_snd]
    exact List.pairwise_lt_range'
  rw [Occurrence.below, List.pairwise_map]
  exact (List.pairwise_map.1 hnumbers).imp fun {c d} hlt => ⟨c.2, d.2, hlt, rfl, rfl⟩

/-- From an occurrence on, positions get greater. -/
theorem pairwise_order_below {o : Occurrence α} (h : IsFinite (Occurrence.below children) o) :
    (order (Occurrence.below children) o).Pairwise fun c d => c.position < d.position := by
  induction h with
  | intro o hbelow ih =>
    have hfinite : ∀ d ∈ o.below children, IsFinite (Occurrence.below children) d := hbelow
    rw [order_eq (.intro o hbelow), List.pairwise_cons, List.pairwise_flatMap]
    refine ⟨fun c hc => ?_, ih, ?_⟩
    · obtain ⟨d, hd, hc⟩ := List.mem_flatMap.1 hc
      obtain ⟨s, hposition, -⟩ := (mem_order_below (hfinite d hd)).1 hc
      obtain ⟨i, -, hbehind, -⟩ := mem_below.1 hd
      rw [hposition, hbehind, List.append_assoc, List.singleton_append]
      conv_lhs => rw [← List.append_nil o.position]
      exact List.append_left_lt (List.nil_lt_cons i s)
    · -- Below different children, the positions differ first in the number of the child.
      refine (pairwise_below o).imp_of_mem fun {c d} hc hd hlt x hx y hy => ?_
      obtain ⟨i, j, hij, hi, hj⟩ := hlt
      obtain ⟨s, hs, -⟩ := (mem_order_below (hfinite c hc)).1 hx
      obtain ⟨t, ht, -⟩ := (mem_order_below (hfinite d hd)).1 hy
      rw [hs, ht, hi, hj, List.append_assoc, List.append_assoc]
      exact List.append_left_lt (List.cons_lt_cons_iff.2 (Or.inl hij))

theorem pairwise_occurrences (h : IsFinite children root) :
    (occurrences children root).Pairwise fun c d => c.position < d.position :=
  pairwise_order_below (Occurrence.isFinite h)

/-! ## Traversals -/

theorem order_pairs (h : IsFinite children root) :
    order (pairsBelow children) (root, none) = (occurrences children root).map Occurrence.pair := by
  have hroot : IsFinite (pairsBelow children) (Occurrence.ofRoot root).pair := h.pairs none
  exact order_map pairsBelow_pair hroot

section

variable {m : Type → Type} [Monad m] [LawfulMonad m]

/-- The recursive traversal makes a call for each occurrence. -/
theorem recurse_eq_forM (callback : α → Option α → m Unit) (h : IsFinite children root) :
    recurse children callback ⟨root, h⟩ none =
      (occurrences children root).forM fun o => callback o.node o.parent := by
  rw [recurse_eq, order_pairs h, List.forM_eq_forM, List.forM_map, List.forM_eq_forM]
  rfl

/-- A traversal with a stack does so too, given enough steps. -/
theorem traverseBy_eq_forM (callback : α → Option α → m Unit) {steps : Nat}
    (h : IsFinite children root) (hsteps : (occurrences children root).length ≤ steps) :
    traverseBy children callback steps root =
      (occurrences children root).forM fun o => callback o.node o.parent := by
  have hlength : (order (pairsBelow children) (root, none)).length ≤ steps := by
    rwa [order_pairs h, List.length_map]
  rw [← recurse_eq_forM callback h, recurse_eq]
  exact workOff_root (fun c => callback c.1 c.2) (h.pairs none) hlength

end

/-- The calls of a traversal are made for the occurrences of the nodes. -/
theorem calls_eq_occurrences (tree : Value) :
    calls tree = (occurrences Node.children (.ofRoot tree)).map Occurrence.pair := by
  rw [calls_eq, order_pairs (isFinite_node _)]

/-- Their values are the occurrences in the tree of values. -/
theorem map_calls_occurrences (tree : Value) :
    (calls tree).map valuesOf = (occurrences Tree.children tree).map Occurrence.pair := by
  rw [map_calls_order, order_pairs (isFinite_value tree)]

end SourceDocs.Tree
