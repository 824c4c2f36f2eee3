import Mathlib
import SourceDocs.Proofs.Tree.Order

/-!
# Visits in order

`Tree.traverse` works off a stack with a bound on the number of steps.  Its calls are those of the
recursive order (`calls_eq`), whatever the callback does (`traverse_eq`), because the bound is no
less than their number (`length_order_le`).

A call knows no more than a node and its parent.  `visits` lists the nodes with all their ancestors,
by recursion over the tree: a node, then the visits of each child in turn.  They are the calls, seen
with all that stands around the nodes (`map_calls`).
-/

namespace SourceDocs.Tree

/-! ## Sizes -/

theorem size_pos (v : Value) : 0 < size v := by
  cases v <;> simp only [size] <;> omega

theorem sum_filter_le (test : Value → Bool) (vs : List Value) :
    ((vs.filter test).map size).sum ≤ sizeItems vs := by
  induction vs with
  | nil => simp [sizeItems]
  | cons v rest ih =>
    by_cases h : test v
    · simp only [List.filter_cons_of_pos h, List.map_cons, List.sum_cons, sizeItems]
      omega
    · simp only [List.filter_cons_of_neg h, sizeItems]
      omega

theorem sum_pick_le (test : Value → Bool) (v : Value) :
    ((pick test v).map size).sum ≤ size v := by
  unfold pick
  split
  · rename_i items
    have h := sum_filter_le test items
    simp only [size]
    omega
  · split <;> simp

theorem sum_fields_le (fields : List (String × Value)) :
    ((fields.flatMap fun f => pick Value.isNode f.2).map size).sum ≤ sizeFields fields := by
  induction fields with
  | nil => simp [sizeFields]
  | cons f rest ih =>
    have h := sum_pick_le Value.isNode f.2
    simp only [List.flatMap_cons, List.map_append, List.sum_append, sizeFields]
    omega

theorem sum_entries_le (entries : List (Value × Value)) :
    ((entries.flatMap fun e => if isPositionKey e.1 then [] else pick isTyped e.2).map size).sum ≤
      sizeEntries entries := by
  induction entries with
  | nil => simp [sizeEntries]
  | cons e rest ih =>
    have h := sum_pick_le isTyped e.2
    simp only [List.flatMap_cons, List.map_append, List.sum_append, sizeEntries]
    split
    · simp only [List.map_nil, List.sum_nil]
      omega
    · omega

/-- The children of a node are smaller than the node, even together. -/
theorem sum_children_lt (v : Value) : ((children v).map size).sum < size v := by
  cases v with
  | node kind fields attributes =>
    have h := sum_fields_le fields
    simp only [children, size]
    omega
  | mapping entries =>
    have h := sum_entries_le entries
    simp only [children, size]
    omega
  | _ => exact size_pos _

theorem size_lt_of_mem {v c : Value} (h : c ∈ children v) : size c < size v := by
  obtain ⟨before, after, heq⟩ := List.append_of_mem h
  have hsum := sum_children_lt v
  rw [heq] at hsum
  simp only [List.map_append, List.map_cons, List.sum_append, List.sum_cons] at hsum
  omega

/-! ## The calls of a traversal -/

theorem Node.map_children (n : Node) : n.children.map Node.value = Tree.children n.value := by
  refine List.ext_getElem? fun i => ?_
  rw [Node.children, List.getElem?_map, List.getElem?_mapIdx, Option.map_map]
  exact Option.map_id'

theorem Node.mem_children {n c : Node} (h : c ∈ n.children) :
    c.value ∈ Tree.children n.value := by
  rw [← Node.map_children]
  exact List.mem_map_of_mem h

theorem isFinite_node (n : Node) : IsFinite Node.children n :=
  Subrelation.accessible (fun hc => size_lt_of_mem (Node.mem_children hc))
    ((measure fun n : Node => size n.value).wf.apply n)

theorem sum_nodes_lt (n : Node) : (n.children.map fun c => size c.value).sum < size n.value := by
  have hvalues : (n.children.map fun c => size c.value) = (Tree.children n.value).map size := by
    rw [← Node.map_children, List.map_map]
    rfl
  rw [hvalues]
  exact sum_children_lt n.value

/-- There are at most as many nodes as values. -/
theorem length_order_le (n : Node) (parent : Option Node) :
    (order (pairsBelow Node.children) (n, parent)).length ≤ size n.value := by
  have hfinite := isFinite_node n
  induction hfinite generalizing parent with
  | intro n hbelow ih =>
    have hsum := List.sum_le_sum fun c hc => ih c hc (some n)
    have hnodes := sum_nodes_lt n
    rw [order_eq ((isFinite_node n).pairs parent), List.length_cons, List.length_flatMap,
      pairsBelow, List.map_map]
    simp only [Function.comp_def]
    omega

theorem traverse_eq_order {m : Type → Type} [Monad m] (tree : Value)
    (callback : Node → Option Node → m Unit) :
    traverse tree callback =
      (order (pairsBelow Node.children) (.ofRoot tree, none)).forM fun c => callback c.1 c.2 :=
  workOff_root (fun c : Node × Option Node => callback c.1 c.2) ((isFinite_node _).pairs none)
    (length_order_le (.ofRoot tree) none)

theorem calls_eq (tree : Value) :
    calls tree = order (pairsBelow Node.children) (.ofRoot tree, none) := by
  have hrun (cs acc : List (Node × Option Node)) :
      ((cs.forM fun c => modify ((c.1, c.2) :: ·) :
        StateM (List (Node × Option Node)) Unit).run acc).2 = cs.reverse ++ acc := by
    induction cs generalizing acc with
    | nil => rfl
    | cons c rest ih =>
      rw [List.reverse_cons, List.append_assoc, List.singleton_append, ← ih]
      rfl
  rw [calls, traverse_eq_order, hrun, List.append_nil, List.reverse_reverse]

/-- A traversal makes its calls one after another. -/
theorem traverse_eq {m : Type → Type} [Monad m] (tree : Value)
    (callback : Node → Option Node → m Unit) :
    traverse tree callback = (calls tree).forM fun c => callback c.1 c.2 := by
  rw [traverse_eq_order, calls_eq]

/-- What holds of a tree, and goes on to children, holds of all nodes that are called with. -/
theorem forall_mem_calls {P : Value → Prop} {tree : Value}
    (hdown : ∀ v, P v → ∀ c ∈ children v, P c) (h : P tree) : ∀ c ∈ calls tree, P c.1.value := by
  have hcalls : ∀ c : Node × Option Node, P c.1.value → ∀ d ∈ pairsBelow Node.children c,
      P d.1.value := by
    intro c hc d hd
    obtain ⟨n, hn, rfl⟩ := List.mem_map.1 hd
    exact hdown c.1.value hc n.value (Node.mem_children hn)
  rw [calls_eq]
  exact forall_mem_order ((isFinite_node _).pairs none) hcalls h

/-! ## The order of visits -/

namespace Visit

/-- The visit of a tree's root. -/
def ofRoot (v : Value) : Visit := ⟨v, []⟩

/-- The visits of the children. -/
def children (v : Visit) : List Visit :=
  (Tree.children v.node).map fun c => ⟨c, v.node :: v.ancestors⟩

end Visit

theorem Visit.mem_children {v c : Visit} (h : c ∈ v.children) : c.node ∈ Tree.children v.node := by
  obtain ⟨node, hmem, rfl⟩ := List.mem_map.1 h
  exact hmem

/-- The visits of a node and of all that is below it, in order. -/
def preorder (v : Visit) : List Visit := v :: v.children.attach.flatMap fun c => preorder c.1
termination_by size v.node
decreasing_by exact size_lt_of_mem (Visit.mem_children c.2)

theorem preorder_eq (v : Visit) : preorder v = v :: v.children.flatMap preorder := by
  rw [preorder]
  simp [List.flatMap_subtype]

/-- The nodes of a tree in order, with their ancestors. -/
def visits (tree : Value) : List Visit := preorder (.ofRoot tree)

theorem isFinite_children (v : Visit) : IsFinite Visit.children v :=
  Subrelation.accessible (fun hc => size_lt_of_mem (Visit.mem_children hc))
    ((measure fun v : Visit => size v.node).wf.apply v)

theorem order_children (v : Visit) : order Visit.children v = preorder v := by
  have hfinite := isFinite_children v
  induction hfinite with
  | intro v hbelow ih =>
    rw [order_eq (.intro v hbelow), preorder_eq, List.flatMap_congr ih]

/-- What holds of a tree, and goes on to children, holds of all nodes that are visited. -/
theorem forall_mem_visits {P : Value → Prop} {tree : Value}
    (hdown : ∀ v, P v → ∀ c ∈ children v, P c) (h : P tree) : ∀ u ∈ visits tree, P u.node := by
  intro u hu
  rw [visits, ← order_children] at hu
  have hvisits : ∀ v : Visit, P v.node → ∀ c ∈ v.children, P c.node :=
    fun v hv c hc => hdown v.node hv c.node (Visit.mem_children hc)
  exact forall_mem_order (isFinite_children _) hvisits h u hu

/-! ## Calls and visits -/

theorem isFinite_value (tree : Value) : IsFinite Tree.children tree :=
  Subrelation.accessible (fun hc => size_lt_of_mem hc) ((measure size).wf.apply tree)

/-- The values of a node and its parent. -/
def valuesOf (c : Node × Option Node) : Value × Option Value := (c.1.value, c.2.map Node.value)

theorem pairsBelow_valuesOf (c : Node × Option Node) :
    pairsBelow Tree.children (valuesOf c) = (pairsBelow Node.children c).map valuesOf := by
  rw [pairsBelow, pairsBelow, valuesOf, ← Node.map_children, List.map_map, List.map_map]
  rfl

/-- The values that are called with are those of the recursive order. -/
theorem map_calls_order (tree : Value) :
    (calls tree).map valuesOf = order (pairsBelow Tree.children) (tree, none) := by
  have hroot : IsFinite (pairsBelow Tree.children) (valuesOf (.ofRoot tree, none)) :=
    (isFinite_value tree).pairs none
  rw [calls_eq]
  exact (order_map pairsBelow_valuesOf hroot).symm

/-- The nodes that are called with, and their parents, are those that are visited. -/
theorem map_calls (tree : Value) :
    (calls tree).map valuesOf = (visits tree).map fun v => (v.node, v.parent?) := by
  have hpair (v : Visit) : pairsBelow Tree.children (v.node, v.parent?) =
      v.children.map fun v => (v.node, v.parent?) := by
    rw [pairsBelow, Visit.children, List.map_map]
    rfl
  have hroot : IsFinite (pairsBelow Tree.children)
      ((Visit.ofRoot tree).node, (Visit.ofRoot tree).parent?) := (isFinite_value tree).pairs none
  rw [map_calls_order, visits, ← order_children, ← order_map hpair hroot]
  rfl

end SourceDocs.Tree
