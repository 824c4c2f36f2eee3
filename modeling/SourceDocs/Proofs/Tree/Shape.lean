import Mathlib.Data.List.Nodup
import SourceDocs.Tree.Traversal

/-!
# The shape of syntax trees

A syntax tree is a node whose fields and attributes are named as its kind says, whose fields hold
single values or flat lists, and whose children are such trees again.  What is said here of the
names of fields rests on a look at every kind of node.
-/

namespace SourceDocs

namespace Value

/-- Constants that may stand in a field. -/
def isConstant : Value → Bool
  | .null | .bool _ | .int _ | .float _ | .complex _ _ | .text _ | .bytes _ _ | .ellipsis => true
  | _ => false

/-- What may stand in the list of a field: nodes, texts, and nothing in place of either. -/
def isItem : Value → Bool
  | .null | .text _ | .node _ _ _ => true
  | _ => false

/-- What may stand in a field: a constant, a node, or a flat list. -/
def isFieldValue : Value → Bool
  | .list items => items.all isItem
  | v => v.isConstant || v.isNode

end Value

namespace Tree

/-- The names of the fields and attributes of a kind, in order. -/
def namesOf (kind : NodeKind) : List String :=
  kind.fields.map Prod.fst ++ Value.placeNames.map Prod.fst

/-- Fields and attributes are those of a kind, in order, and hold what such may hold. -/
structure HasShape (kind : NodeKind) (fields attributes : List (String × Value)) : Prop where
  fieldNames : (fields.map Prod.fst).Sublist (kind.fields.map Prod.fst)
  fieldValues : ∀ f ∈ fields, f.2.isFieldValue
  attributeNames : (attributes.map Prod.fst).Sublist (Value.placeNames.map Prod.fst)
  attributeValues : ∀ a ∈ attributes, a.2.isConstant

/-- Syntax trees of the shapes that a parser builds. -/
inductive IsTree : Value → Prop where
  | node {kind : NodeKind} {fields attributes : List (String × Value)} :
      HasShape kind fields attributes → (∀ c ∈ children (.node kind fields attributes), IsTree c) →
      IsTree (.node kind fields attributes)

theorem IsTree.isNode {v : Value} (h : IsTree v) : v.isNode = true := by
  cases h
  rfl

theorem IsTree.child {v c : Value} (h : IsTree v) (hc : c ∈ children v) : IsTree c := by
  obtain ⟨-, hchildren⟩ := h
  exact hchildren c hc

/-! ## Names -/

theorem mem_all (kind : NodeKind) : kind ∈ NodeKind.all := by
  cases kind <;> decide +kernel

/-- The fields and attributes of a kind have different names. -/
theorem nodup_namesOf (kind : NodeKind) : (namesOf kind).Nodup := by
  have hall : ∀ k ∈ NodeKind.all, (namesOf k).Nodup := by decide +kernel
  exact hall kind (mem_all kind)

/-- None of them is a key that tells where a mapping stands. -/
theorem isPositionKey_eq_false {kind : NodeKind} {name : String} (h : name ∈ namesOf kind) :
    isPositionKey (Value.ofString name) = false := by
  have hall : ∀ k ∈ NodeKind.all, ∀ n ∈ namesOf k, isPositionKey (Value.ofString n) = false := by
    decide +kernel
  exact hall kind (mem_all kind) name h

/-- Only handlers have a field that is called like the mark of the kind. -/
theorem type_mem_namesOf {kind : NodeKind} : "type" ∈ namesOf kind ↔ kind = .exceptHandler := by
  have hall : ∀ k ∈ NodeKind.all, "type" ∈ namesOf k ↔ k = .exceptHandler := by decide +kernel
  exact hall kind (mem_all kind)

/-- The names of a node are some of those of its kind. -/
theorem HasShape.names {kind : NodeKind} {fields attributes : List (String × Value)}
    (h : HasShape kind fields attributes) :
    ((fields ++ attributes).map Prod.fst).Sublist (namesOf kind) := by
  rw [List.map_append]
  exact h.fieldNames.append h.attributeNames

/-- No attribute is called like the mark of the kind. -/
theorem HasShape.type_notMem_attributes {kind : NodeKind}
    {fields attributes : List (String × Value)} (h : HasShape kind fields attributes) :
    "type" ∉ attributes.map Prod.fst := fun hmem =>
  absurd (h.attributeNames.mem hmem) (by decide)

/-- If a field is called like the mark of the kind, then it is the first one of a handler. -/
theorem HasShape.exists_type_cons {kind : NodeKind} {fields attributes : List (String × Value)}
    (h : HasShape kind fields attributes) (htype : "type" ∈ fields.map Prod.fst) :
    kind = .exceptHandler ∧ ∃ v rest, fields = ("type", v) :: rest := by
  have hkind : kind = .exceptHandler :=
    type_mem_namesOf.1 (List.mem_append_left _ (h.fieldNames.mem htype))
  refine ⟨hkind, ?_⟩
  subst hkind
  cases fields with
  | nil => cases htype
  | cons f rest =>
    obtain ⟨name, v⟩ := f
    have hnames := h.fieldNames
    rw [List.map_cons, show NodeKind.exceptHandler.fields.map Prod.fst = ["type", "name", "body"]
      from rfl] at hnames
    cases hnames with
    | cons _ hsub =>
      exact absurd (hsub.mem htype) (by decide)
    | cons_cons _ hsub => exact ⟨v, rest, rfl⟩

end Tree

end SourceDocs
