import Mathlib.Data.List.Basic
import SourceDocs.Proofs.Tree.Shape
import SourceDocs.Source.Tree

/-!
# The trees that are built

A syntax tree is built from the values of its fields, and each of them is a constant, a tree, or a
list of texts and trees (`IsPart`).  Nodes with such parts are trees again (`IsRead.placed`), and so
are trees whose contexts are replaced (`IsRead.withContext`).  A node of such a tree stands at
places of the source or nowhere (`IsSpan`), so that the number of its line, if it has one, is a
natural one (`IsRead.line`).
-/

namespace SourceDocs.Tree

open Source Value

/-- What is said of where a node stands: nothing, or two places. -/
inductive IsSpan : List (String × Value) → Prop where
  | nowhere : IsSpan []
  | places (start stop : Place) : IsSpan (span start stop)

/-- Syntax trees as they are read from a source: each node has the shape of its kind and stands
nowhere, or from one place to another. -/
inductive IsRead : Value → Prop where
  | node {kind : NodeKind} {fields attributes : List (String × Value)} :
      HasShape kind fields attributes → IsSpan attributes →
      (∀ c ∈ children (.node kind fields attributes), IsRead c) →
      IsRead (.node kind fields attributes)

/-- What may stand in the list of a field: nothing, a text or a tree. -/
inductive IsItem : Value → Prop where
  | null : IsItem .null
  | text (t : Text) : IsItem (.text t)
  | tree {v : Value} : IsRead v → IsItem v

/-- What may stand in a field: a constant, a tree, or a list. -/
inductive IsPart : Value → Prop where
  | constant {v : Value} : v.isConstant → IsPart v
  | tree {v : Value} : IsRead v → IsPart v
  | list {vs : List Value} : (∀ v ∈ vs, IsItem v) → IsPart (.list vs)

/-- Two items that belong together. -/
def IsPair (p : Value × Value) : Prop := IsItem p.1 ∧ IsItem p.2

/-- The statements of a block: a list of trees. -/
inductive IsBlock : Value → Prop where
  | list {vs : List Value} : (∀ v ∈ vs, IsRead v) → IsBlock (.list vs)

/-! ## Trees and where they stand -/

theorem IsSpan.names {attributes : List (String × Value)} (h : IsSpan attributes) :
    (attributes.map Prod.fst).Sublist (placeNames.map Prod.fst) := by
  cases h with
  | nowhere => exact List.nil_sublist _
  | places start stop => exact List.Sublist.refl _

theorem IsSpan.isConstant {attributes : List (String × Value)} (h : IsSpan attributes) :
    ∀ a ∈ attributes, a.2.isConstant := by
  cases h with
  | nowhere => exact nofun
  | places start stop => simp [span, Value.isConstant]

/-- What is read is a tree of the shapes that a parser builds. -/
theorem IsRead.isTree {v : Value} (h : IsRead v) : IsTree v := by
  induction h with
  | node hshape _ _ ih => exact .node hshape ih

/-- The children of what is read are read. -/
theorem IsRead.child {v c : Value} (h : IsRead v) (hc : c ∈ children v) : IsRead c := by
  obtain ⟨-, -, hchildren⟩ := h
  exact hchildren c hc

/-- The line on which a node begins has a natural number, if it has one. -/
theorem IsRead.line {v : Value} (h : IsRead v) :
    v.attribute? "lineno" = none ∨ ∃ line : Nat, v.attribute? "lineno" = some (.int line) := by
  obtain ⟨-, hspan, -⟩ := h
  cases hspan with
  | nowhere => exact .inl rfl
  | places start stop => exact .inr ⟨start.line, rfl⟩

/-! ## Parts -/

theorem IsItem.isPart {v : Value} : IsItem v → IsPart v
  | .null => .constant rfl
  | .text _ => .constant rfl
  | .tree h => .tree h

theorem IsBlock.isPart {v : Value} : IsBlock v → IsPart v
  | .list h => .list fun v hv => .tree (h v hv)

theorem isPart_nil : IsPart (.list []) := .list (List.forall_mem_nil _)

/-- The first items of pairs as a list. -/
theorem isPart_fst {ps : List (Value × Value)} (h : ∀ p ∈ ps, IsPair p) :
    IsPart (.list (ps.map Prod.fst)) := .list (List.forall_mem_map.2 fun p hp => (h p hp).1)

/-- The second items of pairs as a list. -/
theorem isPart_snd {ps : List (Value × Value)} (h : ∀ p ∈ ps, IsPair p) :
    IsPart (.list (ps.map Prod.snd)) := .list (List.forall_mem_map.2 fun p hp => (h p hp).2)

theorem IsBlock.items {v : Value} : IsBlock v → ∀ s ∈ items v, IsRead s
  | .list h => h

theorem isItem_iff {v : Value} : IsItem v ↔ v.isItem ∧ (v.isNode → IsRead v) := by
  constructor
  · rintro (- | t | h)
    · exact ⟨rfl, nofun⟩
    · exact ⟨rfl, nofun⟩
    · refine ⟨?_, fun _ => h⟩
      cases h
      rfl
  · rintro ⟨hitem, hnode⟩
    cases v with
    | null => exact .null
    | text t => exact .text t
    | node => exact .tree (hnode rfl)
    | _ => cases hitem

/-- A part is what a field may hold, with trees for the nodes in it. -/
theorem isPart_iff {v : Value} :
    IsPart v ↔ v.isFieldValue ∧ ∀ c ∈ pick Value.isNode v, IsRead c := by
  constructor
  · rintro (h | h | @⟨vs, h⟩)
    · cases v with
      | null | bool | int | float | complex | text | bytes | ellipsis =>
        exact ⟨rfl, List.forall_mem_nil _⟩
      | _ => cases h
    · obtain @⟨kind, fields, attributes, hshape, hspan, hchildren⟩ := h
      refine ⟨rfl, fun c hc => ?_⟩
      rw [show pick Value.isNode (.node kind fields attributes) = [.node kind fields attributes]
        from rfl, List.mem_singleton] at hc
      exact hc ▸ .node hshape hspan hchildren
    · refine ⟨List.all_eq_true.2 fun v hv => (isItem_iff.1 (h v hv)).1, fun c hc => ?_⟩
      obtain ⟨hmem, hnode⟩ := List.mem_filter.1 hc
      exact (isItem_iff.1 (h c hmem)).2 hnode
  · rintro ⟨hfield, hpick⟩
    cases v with
    | list vs =>
      refine .list fun v hv => isItem_iff.2 ⟨List.all_eq_true.1 hfield v hv, fun hnode => ?_⟩
      exact hpick v (List.mem_filter.2 ⟨hv, hnode⟩)
    | node => exact .tree (hpick _ List.mem_cons_self)
    | null | bool | int | float | complex | text | bytes | ellipsis => exact .constant rfl
    | _ => cases hfield

/-- A node is a tree if its fields are called as its kind says and hold parts, and it stands nowhere
or at places. -/
theorem isRead_node_iff {kind : NodeKind} {fields attributes : List (String × Value)} :
    IsRead (.node kind fields attributes) ↔
      (fields.map Prod.fst).Sublist (kind.fields.map Prod.fst) ∧ (∀ f ∈ fields, IsPart f.2) ∧
      IsSpan attributes := by
  constructor
  · rintro ⟨hshape, hspan, hchildren⟩
    refine ⟨hshape.fieldNames, fun f hf => isPart_iff.2 ⟨hshape.fieldValues f hf, fun c hc => ?_⟩,
      hspan⟩
    exact hchildren c (List.mem_flatMap.2 ⟨f, hf, hc⟩)
  · rintro ⟨hnames, hparts, hspan⟩
    have hshape : HasShape kind fields attributes :=
      ⟨hnames, fun f hf => (isPart_iff.1 (hparts f hf)).1, hspan.names, hspan.isConstant⟩
    refine .node hshape hspan fun c hc => ?_
    obtain ⟨f, hf, hpick⟩ := List.mem_flatMap.1 hc
    exact (isPart_iff.1 (hparts f hf)).2 c hpick

/-! ## Nodes from their parts -/

theorem map_fst_fieldsOf (kind : NodeKind) (values : List Value) :
    (fieldsOf kind values).map Prod.fst = kind.fields.map Prod.fst := by
  have hnames : (Prod.fst ∘ fun p : (String × Bool) × Nat => (p.1.1, values.getD p.2 Value.null)) =
      Prod.fst ∘ Prod.fst := rfl
  rw [fieldsOf, List.map_map, hnames, ← List.map_map, List.zipIdx_map_fst]

theorem isPart_of_mem_fieldsOf {kind : NodeKind} {values : List Value}
    (h : values.Forall IsPart) : ∀ f ∈ fieldsOf kind values, IsPart f.2 := by
  intro f hf
  obtain ⟨⟨⟨name, optional⟩, i⟩, -, rfl⟩ := List.mem_map.1 hf
  change IsPart (values.getD i .null)
  rw [List.getD_eq_getElem?_getD]
  cases hvalue : values[i]? with
  | none => exact .constant rfl
  | some v => exact List.forall_iff_forall_mem.1 h v (List.mem_of_getElem? hvalue)

/-- A placed node with parts for its fields is a tree. -/
theorem IsRead.placed {kind : NodeKind} {values : List Value} {start stop : Place}
    (h : values.Forall IsPart) : IsRead (placed kind values start stop) := by
  refine isRead_node_iff.2 ⟨?_, isPart_of_mem_fieldsOf h, .places start stop⟩
  rw [map_fst_fieldsOf]

/-- And so is one without a place. -/
theorem IsRead.bare {kind : NodeKind} {values : List Value} (h : values.Forall IsPart) :
    IsRead (bare kind values) := by
  refine isRead_node_iff.2 ⟨?_, isPart_of_mem_fieldsOf h, .nowhere⟩
  rw [map_fst_fieldsOf]

/-- Operators and contexts are nodes without fields. -/
theorem isPart_bare (kind : NodeKind) : IsPart (bare kind) := .tree (IsRead.bare trivial)

/-! ## Fields -/

theorem IsRead.fieldOf {v : Value} (h : IsRead v) (name : String) : IsPart (fieldOf v name) := by
  obtain @⟨kind, fields, attributes, hshape, hspan, hchildren⟩ := h
  rw [Source.fieldOf, Value.field?]
  cases hlookup : fields.lookup name with
  | none => exact .constant rfl
  | some part =>
    obtain ⟨before, after, rfl⟩ : ∃ before after, fields = before ++ (name, part) :: after := by
      obtain ⟨l, r, heq, -⟩ := List.lookup_eq_some_iff.1 hlookup
      exact ⟨l, r, heq⟩
    exact (isRead_node_iff.1 (.node hshape hspan hchildren)).2.1 (name, part)
      (List.mem_append_right _ List.mem_cons_self)

theorem IsPart.items {v : Value} (h : IsPart v) : ∀ c ∈ items v, IsItem c := by
  obtain h | h | h := h
  · cases v with
    | null | bool | int | float | complex | text | bytes | ellipsis =>
      exact List.forall_mem_nil _
    | _ => cases h
  · cases h
    exact nofun
  · exact h

/-- The list in a field of a tree. -/
theorem IsRead.itemsOf {v : Value} (h : IsRead v) (name : String) :
    ∀ c ∈ itemsOf v name, IsItem c := (h.fieldOf name).items

/-! ## Contexts -/

theorem fieldsWithContext_eq (context : NodeKind) (deep : Bool) (fields : List (String × Value)) :
    fieldsWithContext context deep fields = fields.map fun f =>
      (f.1, if f.1 = "ctx" then bare context
        else if deep then withContext context f.2 else f.2) := by
  induction fields with
  | nil => rw [fieldsWithContext]; rfl
  | cons f rest ih => rw [fieldsWithContext, ih, List.map_cons]

theorem itemsWithContext_eq (context : NodeKind) (vs : List Value) :
    itemsWithContext context vs = vs.map (withContext context) := by
  induction vs with
  | nil => rw [itemsWithContext]; rfl
  | cons v rest ih => rw [itemsWithContext, ih, List.map_cons]

/-- Replacing contexts makes a part of a part, if it makes trees of the trees in it. -/
theorem IsPart.withContext {v : Value} (context : NodeKind) (h : IsPart v)
    (hchildren : ∀ c ∈ pick Value.isNode v, IsRead (withContext context c)) :
    IsPart (withContext context v) := by
  obtain h | h | @⟨vs, h⟩ := h
  · cases v with
    | null | bool | int | float | complex | text | bytes | ellipsis =>
      exact .constant rfl
    | _ => cases h
  · cases h
    exact .tree (hchildren _ List.mem_cons_self)
  · rw [Source.withContext, itemsWithContext_eq]
    refine .list fun c hc => ?_
    obtain ⟨v, hv, rfl⟩ := List.mem_map.1 hc
    obtain - | t | hv' := h v hv
    · exact .null
    · exact .text t
    · exact .tree (hchildren v (List.mem_filter.2 ⟨hv, hv'.isTree.isNode⟩))

/-- A tree whose contexts are replaced is a tree. -/
theorem IsRead.withContext {v : Value} (context : NodeKind) (h : IsRead v) :
    IsRead (withContext context v) := by
  induction h with
  | @node kind fields attributes hshape hspan hchildren ih =>
    obtain ⟨hnames, hparts, -⟩ := isRead_node_iff.1 (.node hshape hspan hchildren)
    have hfields (deep : Bool) :
        IsRead (.node kind (fieldsWithContext context deep fields) attributes) := by
      rw [fieldsWithContext_eq]
      refine isRead_node_iff.2 ⟨?_, fun g hg => ?_, hspan⟩
      · rwa [List.map_map]
      · obtain ⟨f, hf, rfl⟩ := List.mem_map.1 hg
        dsimp only
        split_ifs
        · exact isPart_bare context
        · exact (hparts f hf).withContext context fun c hc =>
            ih c (List.mem_flatMap.2 ⟨f, hf, hc⟩)
        · exact hparts f hf
    rw [Source.withContext.eq_def]
    dsimp only
    split
    any_goals exact hfields _
    exact .node hshape hspan hchildren

end SourceDocs.Tree
