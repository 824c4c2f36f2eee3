import SourceDocs.Proofs.Json.Entries
import SourceDocs.Proofs.Tree.Shape

/-!
# Trees of mappings

`expanded` replaces whatever JSON does not know, at every depth, so that a syntax tree becomes a
tree of mappings.  It has the JSON text of the tree (`dumps_expanded`).  The mapping of a node
holds the kind, the fields and the attributes in this order (`nodeEntries_eq`); only the field
`type` of a handler stands in the place of the kind.
-/

namespace SourceDocs.Json

open Value

/-! ## Expansion at every depth -/

mutual

/-- A value in which everything that JSON does not know is replaced. -/
def expanded : Value → Value
  | .list items => .list (expandedAll items)
  | .tuple items => .tuple (expandedAll items)
  | .mapping entries => .mapping (expandedEntries entries)
  | v =>
    match _h : expand v with
    | .ok r => expanded r
    | .error _ => v
termination_by v => cost v
decreasing_by
  all_goals try simp only [cost, isKnown, weight, if_true]
  all_goals first | omega | exact cost_expand_lt _h

/-- Several values in which everything is replaced. -/
def expandedAll : List Value → List Value
  | [] => []
  | v :: rest => expanded v :: expandedAll rest
termination_by items => weightAll items + 1
decreasing_by
  all_goals have := cost_le v
  all_goals simp only [weightAll]
  all_goals omega

/-- The entries of a mapping in whose values everything is replaced. -/
def expandedEntries : List (Value × Value) → List (Value × Value)
  | [] => []
  | (key, v) :: rest => (key, expanded v) :: expandedEntries rest
termination_by entries => weightEntries entries + 1
decreasing_by
  all_goals have := cost_le v
  all_goals simp only [weightEntries]
  all_goals omega

end

theorem expandedAll_eq (items : List Value) : expandedAll items = items.map expanded := by
  induction items with
  | nil => rw [expandedAll]; rfl
  | cons v rest ih => rw [expandedAll, ih, List.map_cons]

theorem expandedEntries_eq (entries : List (Value × Value)) :
    expandedEntries entries = entries.map fun e => (e.1, expanded e.2) := by
  induction entries with
  | nil => rw [expandedEntries]; rfl
  | cons e rest ih => rw [expandedEntries, ih, List.map_cons]

theorem expanded_list (items : List Value) :
    expanded (.list items) = .list (items.map expanded) := by
  rw [expanded, expandedAll_eq]

theorem expanded_mapping (entries : List (Value × Value)) :
    expanded (.mapping entries) = .mapping (entries.map fun e => (e.1, expanded e.2)) := by
  rw [expanded, expandedEntries_eq]

/-- What is replaced at once is replaced at every depth of what it is replaced by. -/
theorem expanded_of_expand {v r : Value} (h : expand v = .ok r) : expanded v = expanded r := by
  have hother : (∀ items, v ≠ .list items) ∧ (∀ items, v ≠ .tuple items) ∧
      ∀ entries, v ≠ .mapping entries := by
    refine ⟨?_, ?_, ?_⟩ <;> rintro _ rfl <;> cases h
  rw [expanded]
  · split <;> rename_i heq <;> rw [h] at heq <;> cases heq
    rfl
  · exact hother.1
  · exact hother.2.1
  · exact hother.2.2

theorem expanded_node (kind : NodeKind) (fields attributes : List (String × Value)) :
    expanded (.node kind fields attributes) =
      .mapping ((nodeEntries kind fields attributes).map fun e => (e.1, expanded e.2)) := by
  rw [expanded_of_expand (r := .mapping (nodeEntries kind fields attributes)) rfl,
    expanded_mapping]

/-- What is not put together from values and has no replacement stays. -/
theorem expanded_of_error {v : Value} {f : EncodeFault} (h : expand v = .error f)
    (hlist : ∀ items, v ≠ .list items) (htuple : ∀ items, v ≠ .tuple items)
    (hmapping : ∀ entries, v ≠ .mapping entries) : expanded v = v := by
  rw [expanded]
  · split <;> rename_i heq
    · rw [h] at heq
      cases heq
    · rfl
  · exact hlist
  · exact htuple
  · exact hmapping

theorem expanded_scalar {v : Value} {t : Except EncodeFault Text} (h : scalar? v = some t) :
    expanded v = v := by
  cases v with
  | null | bool | int | float | text => exact expanded_of_error rfl (by simp) (by simp) (by simp)
  | _ => cases h

theorem expanded_text (t : Text) : expanded (.text t) = .text t := expanded_scalar rfl

/-- Constants become scalars. -/
theorem exists_scalar_expanded {v : Value} (h : v.isConstant) :
    ∃ t, scalar? (expanded v) = some t := by
  cases v with
  | null | bool | int | float | text => rw [expanded_scalar rfl]; exact ⟨_, rfl⟩
  | complex | bytes | ellipsis =>
    rw [expanded_of_expand rfl, expanded_text]
    exact ⟨_, rfl⟩
  | _ => cases h

/-! ## The text -/

theorem dumps_expanded (v : Value) : dumps (expanded v) = dumps v := by
  refine expanded.induct (fun v => dumps (expanded v) = dumps v)
    (fun entries => dumpsEntries (expandedEntries entries) = dumpsEntries entries)
    (fun items => dumpsAll (expandedAll items) = dumpsAll items)
    ?_ ?_ ?_ ?_ ?_ ?_ ?_ ?_ ?_ v
  case refine_1 =>
    intro items ih
    rw [expanded, dumps, dumps, ih]
  case refine_2 =>
    intro items ih
    rw [expanded, dumps, dumps, ih]
  case refine_3 =>
    intro entries ih
    rw [expanded, dumps, dumps, ih]
  case refine_4 =>
    intro v hlist htuple hmapping r h ih
    have hscalar : scalar? v = none := by cases v <;> cases h <;> rfl
    rw [expanded_of_expand h, ih, dumps_other hlist htuple hmapping, hscalar, h]
  case refine_5 =>
    intro v hlist htuple hmapping f h
    rw [expanded_of_error h hlist htuple hmapping]
  case refine_6 => rw [expandedEntries]
  case refine_7 =>
    intro key v rest ihv ih
    rw [expandedEntries, dumpsEntries, dumpsEntries, ihv, ih]
  case refine_8 => rw [expandedAll]
  case refine_9 =>
    intro v rest ihv ih
    rw [expandedAll, dumpsAll, dumpsAll, ihv, ih]

/-! ## The entries of a node -/

/-- A field or an attribute as an entry. -/
def nameEntry (f : String × Value) : Value × Value := (Value.ofString f.1, f.2)

theorem textKeys_map_nameEntry {named : List (String × Value)}
    (h : (named.map Prod.fst).Nodup) : TextKeys (named.map nameEntry) := by
  refine ⟨fun e he => ?_, ?_⟩
  · obtain ⟨f, -, rfl⟩ := List.mem_map.1 he
    exact ⟨_, rfl⟩
  · have hkeys : (named.map nameEntry).map Prod.fst = (named.map Prod.fst).map Value.ofString := by
      rw [List.map_map, List.map_map]
      rfl
    rw [hkeys]
    exact h.map ofString_injective

/-- The class name of a node, unless one of its fields takes its place. -/
def kindEntries (kind : NodeKind) (fields : List (String × Value)) : List (Value × Value) :=
  if "type" ∈ fields.map Prod.fst then [] else [(Value.ofString "type", Value.ofString kind.name)]

/-- The mapping of a node holds the name of its kind, unless a field takes its place, and then the
fields and attributes in order. -/
theorem nodeEntries_eq {kind : NodeKind} {fields attributes : List (String × Value)}
    (h : Tree.HasShape kind fields attributes) :
    nodeEntries kind fields attributes =
      kindEntries kind fields ++ (fields ++ attributes).map nameEntry := by
  have hnodup := h.names.nodup (Tree.nodup_namesOf kind)
  rw [kindEntries]
  split_ifs with htype
  · -- Only the first field of a handler is called so.
    obtain ⟨-, v, rest, rfl⟩ := h.exists_type_cons htype
    rw [List.nil_append]
    refine Eq.trans ?_ (ofEntries_eq (textKeys_map_nameEntry hnodup))
    exact ofEntries_replace _ _ _ _
  · refine ofEntries_eq
      (@textKeys_map_nameEntry (("type", Value.ofString kind.name) :: (fields ++ attributes)) ?_)
    rw [List.map_cons, List.nodup_cons, List.map_append, List.mem_append]
    exact ⟨not_or.2 ⟨htype, h.type_notMem_attributes⟩, by rwa [← List.map_append]⟩

/-- The keys of a node's mapping are different texts. -/
theorem textKeys_nodeEntries (kind : NodeKind) (fields attributes : List (String × Value)) :
    TextKeys (nodeEntries kind fields attributes) := by
  refine textKeys_foldl ⟨fun e he => absurd he List.not_mem_nil, List.nodup_nil⟩ fun e he => ?_
  rcases List.mem_cons.1 he with rfl | he
  · exact ⟨_, rfl⟩
  · obtain ⟨f, -, rfl⟩ := List.mem_map.1 he
    exact ⟨_, rfl⟩

/-- What the mapping of a node holds under `type`: the name of the kind, or the field of a handler
that is called so. -/
def typeValue (kind : NodeKind) (fields : List (String × Value)) : Value :=
  (fields.lookup "type").getD (Value.ofString kind.name)

theorem lookup_type_nodeEntries {kind : NodeKind} {fields attributes : List (String × Value)}
    (h : Tree.HasShape kind fields attributes) :
    Value.lookupText (nodeEntries kind fields attributes) "type" =
      some (typeValue kind fields) := by
  refine (textKeys_nodeEntries kind fields attributes).lookupText_eq ?_
  rw [nodeEntries_eq h, kindEntries, typeValue]
  split_ifs with htype
  · obtain ⟨-, v, rest, rfl⟩ := h.exists_type_cons htype
    exact List.mem_cons_self
  · have hnone : fields.lookup "type" = none := List.lookup_eq_none_iff.2 fun f hf =>
      bne_iff_ne.2 fun heq => htype (heq ▸ List.mem_map_of_mem hf)
    rw [hnone]
    exact List.mem_cons_self

end SourceDocs.Json
