import SourceDocs.Proofs.Json.Expanded
import SourceDocs.Proofs.Tree.Preorder

/-!
# Walking expanded trees

A syntax tree and the tree of mappings that it is expanded to are walked by different rules: the
fields of a node that are nodes or have nodes in their lists, and the entries of a mapping that are
mappings with a `type`, but not those that tell a position.  Both find the same children
(`children_expanded`), so one walk makes its calls with the expansions of what the other calls with
(`traverse_expanded`).
-/

namespace SourceDocs.Tree

open Json

/-! ## Children -/

/-- The mapping of a node has a `type`, whether it is the name of its kind or a field. -/
theorem isTyped_expanded_node {v : Value} (h : IsTree v) : isTyped (expanded v) = true := by
  obtain @⟨kind, fields, attributes, hshape, -⟩ := h
  rw [expanded_node, isTyped, lookupText_map, lookup_type_nodeEntries hshape]
  rfl

theorem pick_isTyped_of_scalar {v : Value} {t : Except EncodeFault Text} (h : scalar? v = some t) :
    pick isTyped v = [] := by
  cases v with
  | null | bool | int | float | text => rfl
  | _ => cases h

/-- An item of a field stands for a child if it is one. -/
theorem isTyped_expanded_item {v : Value} (hitem : v.isItem) (h : v.isNode → IsTree v) :
    isTyped (expanded v) = v.isNode := by
  cases v with
  | null | text => rw [expanded_scalar rfl]; rfl
  | node => exact isTyped_expanded_node (h rfl)
  | _ => cases hitem

theorem pick_expanded_constant {v : Value} (h : v.isConstant) :
    pick isTyped (expanded v) = (pick Value.isNode v).map expanded := by
  obtain ⟨t, hscalar⟩ := exists_scalar_expanded h
  rw [pick_isTyped_of_scalar hscalar]
  cases v with
  | null | bool | int | float | complex | text | bytes | ellipsis => rfl
  | _ => cases h

/-- The children in a field are expanded to those in its expansion. -/
theorem pick_expanded {v : Value} (hfield : v.isFieldValue)
    (h : ∀ c ∈ pick Value.isNode v, IsTree c) :
    pick isTyped (expanded v) = (pick Value.isNode v).map expanded := by
  cases v with
  | list items =>
    have hitems : ∀ c ∈ items, (isTyped ∘ expanded) c = c.isNode := fun c hc =>
      isTyped_expanded_item (List.all_eq_true.1 hfield c hc) fun hnode =>
        h c (List.mem_filter.2 ⟨hc, hnode⟩)
    rw [expanded_list]
    simp only [pick, List.filter_map, List.filter_congr hitems]
  | node kind fields attributes =>
    have htree := h (.node kind fields attributes) (by simp [pick, Value.isNode])
    have htyped := isTyped_expanded_node htree
    rw [expanded_node] at htyped
    simp [pick, Value.isNode, htyped, expanded_node]
  | null | bool | int | float | complex | text | bytes | ellipsis =>
    exact pick_expanded_constant rfl
  | _ => cases hfield

/-- The children in what an entry holds, unless it tells a position. -/
def entryChildren (e : Value × Value) : List Value :=
  if isPositionKey e.1 then [] else pick isTyped (expanded e.2)

theorem children_expanded_node (kind : NodeKind) (fields attributes : List (String × Value)) :
    children (expanded (.node kind fields attributes)) =
      (nodeEntries kind fields attributes).flatMap entryChildren := by
  rw [expanded_node, children, List.flatMap_map]
  rfl

/-- The children of a tree are expanded to the children of its expansion. -/
theorem children_expanded {v : Value} (h : IsTree v) :
    children (expanded v) = (children v).map expanded := by
  obtain @⟨kind, fields, attributes, hshape, hchildren⟩ := h
  have hname : ∀ f ∈ fields ++ attributes, isPositionKey (nameEntry f).1 = false := fun f hf =>
    isPositionKey_eq_false (hshape.names.mem (List.mem_map_of_mem hf))
  have hkind : (kindEntries kind fields).flatMap entryChildren = [] := by
    rw [kindEntries]
    split_ifs
    · rfl
    · rw [List.flatMap_singleton, entryChildren, Value.ofString, Value.ofString, expanded_text]
      split_ifs <;> rfl
  have hfields : (fields.map nameEntry).flatMap entryChildren =
      (children (.node kind fields attributes)).map expanded := by
    rw [children, List.flatMap_map, List.map_flatMap]
    refine List.flatMap_congr fun f hf => ?_
    rw [entryChildren, hname f (List.mem_append_left _ hf)]
    exact pick_expanded (hshape.fieldValues f hf) fun c hc =>
      hchildren c (List.mem_flatMap.2 ⟨f, hf, hc⟩)
  have hattributes : (attributes.map nameEntry).flatMap entryChildren = [] := by
    rw [List.flatMap_map, List.flatMap_eq_nil_iff]
    intro a ha
    obtain ⟨t, hscalar⟩ := exists_scalar_expanded (hshape.attributeValues a ha)
    rw [entryChildren, hname a (List.mem_append_right _ ha)]
    exact pick_isTyped_of_scalar hscalar
  rw [children_expanded_node, nodeEntries_eq hshape, List.map_append, List.flatMap_append,
    List.flatMap_append, hkind, hfields, hattributes, List.nil_append, List.append_nil]

/-! ## Calls -/

/-- The expansion of a node where it stands. -/
def Node.expanded (n : Node) : Node := ⟨n.place, Json.expanded n.value⟩

/-- The expansions of a node and its parent. -/
def expandedCall (c : Node × Option Node) : Node × Option Node :=
  (c.1.expanded, c.2.map Node.expanded)

/-- The children of an expansion stand where the children stand. -/
theorem Node.children_expanded {n : Node} (h : IsTree n.value) :
    n.expanded.children = n.children.map Node.expanded := by
  rw [Node.children, Node.expanded, Tree.children_expanded h, Node.children]
  refine List.ext_getElem? fun i => ?_
  rw [List.getElem?_mapIdx, List.getElem?_map, List.getElem?_map, List.getElem?_mapIdx,
    Option.map_map, Option.map_map]
  rfl

/-- Below the expansion of a node, the calls are made with the expansions of what is below the
node. -/
theorem order_expanded {n : Node} (h : IsTree n.value) (parent : Option Node) :
    order (pairsBelow Node.children) (expandedCall (n, parent)) =
      (order (pairsBelow Node.children) (n, parent)).map expandedCall := by
  have hfinite := isFinite_node n
  induction hfinite generalizing parent with
  | intro n hbelow ih =>
    have hroot : IsFinite (pairsBelow Node.children) (expandedCall (n, parent)) :=
      (isFinite_node _).pairs _
    have hchildren : pairsBelow Node.children (expandedCall (n, parent)) =
        n.children.map fun c => expandedCall (c, some n) := by
      rw [pairsBelow, expandedCall, Node.children_expanded h, List.map_map]
      rfl
    rw [order_eq hroot, order_eq ((isFinite_node n).pairs parent), hchildren, pairsBelow,
      List.flatMap_map, List.flatMap_map, List.map_cons, List.map_flatMap]
    congr 1
    exact List.flatMap_congr fun c hc => ih c hc (h.child (Node.mem_children hc)) (some n)

theorem calls_expanded {tree : Value} (h : IsTree tree) :
    calls (expanded tree) = (calls tree).map expandedCall := by
  rw [calls_eq, calls_eq]
  exact order_expanded (n := Node.ofRoot tree) h none

/-- Walking the expansion of a tree makes the calls that walking the tree makes, in the same order,
each with the expansions of the node and of its parent. -/
theorem traverse_expanded {tree : Value} (h : IsTree tree) :
    (∀ (m : Type → Type) [Monad m] (callback : Node → Option Node → m Unit),
      traverse (expanded tree) callback =
        traverse tree fun n parent => callback n.expanded (parent.map Node.expanded)) ∧
    (calls (expanded tree)).length = (calls tree).length ∧
    ∀ i : Nat, (calls (expanded tree))[i]?.map (fun c => (c.1.value, c.2.map Node.value)) =
      (calls tree)[i]?.map fun c => (expanded c.1.value, c.2.map fun p => expanded p.value) := by
  refine ⟨fun m _ callback => ?_, ?_, fun i => ?_⟩
  · have hcalls (cs : List (Node × Option Node)) :
        ((cs.map expandedCall).forM fun c => callback c.1 c.2) =
          cs.forM fun c => callback c.1.expanded (c.2.map Node.expanded) := by
      induction cs with
      | nil => rfl
      | cons c rest ih =>
        rw [List.map_cons, List.forM, List.forM, ih]
        rfl
    rw [traverse_eq, traverse_eq, calls_expanded h]
    exact hcalls _
  · rw [calls_expanded h, List.length_map]
  · rw [calls_expanded h, List.getElem?_map, Option.map_map]
    congr 1
    funext c
    simp only [Function.comp_apply, expandedCall, Option.map_map]
    rfl

/-- The class of failures that a handler names. -/
def sampleClass : Value := .node .nameRef [("id", .ofString "E"), ("ctx", .node .load [] [])] []

/-- A handler of one class of failures, in whose mapping that class stands under `type`. -/
def sampleHandler : Value :=
  .node .exceptHandler
    [("type", sampleClass), ("name", .null), ("body", .list [.node .pass [] [("lineno", .int 3)]])]
    [("lineno", .int 2), ("col_offset", .int 0)]

theorem isTree_sampleHandler : IsTree sampleHandler := by
  have hload : IsTree (.node .load [] []) :=
    .node ⟨by decide, by decide, by decide, by decide⟩ (fun c hc => absurd hc List.not_mem_nil)
  have hpass : IsTree (.node .pass [] [("lineno", .int 3)]) :=
    .node ⟨by decide, by decide, by decide, by decide⟩ (fun c hc => absurd hc List.not_mem_nil)
  have hclass : IsTree sampleClass :=
    .node ⟨by decide, by decide, by decide, by decide⟩ fun c hc => List.mem_singleton.1 hc ▸ hload
  refine .node ⟨by decide, by decide, by decide, by decide⟩ fun c hc => ?_
  have hcases : c ∈ [sampleClass, .node .pass [] [("lineno", .int 3)]] := hc
  obtain rfl | rfl := List.mem_pair.1 hcases
  · exact hclass
  · exact hpass

theorem traverse_expanded_handler :
    (calls (expanded sampleHandler)).length = 4 ∧
      (calls (expanded sampleHandler))[1]?.map (fun c => (c.1.value, c.2.map Node.value)) =
        some (expanded sampleClass, some (expanded sampleHandler)) := by
  obtain ⟨-, hlength, hcall⟩ := traverse_expanded isTree_sampleHandler
  exact ⟨hlength.trans rfl, (hcall 1).trans rfl⟩

end SourceDocs.Tree
