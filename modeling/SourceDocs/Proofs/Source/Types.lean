import SourceDocs.Proofs.Json.Recursive
import SourceDocs.Proofs.Source.Module
import SourceDocs.Proofs.Tree.Expanded

/-!
# The types of nodes in a dump

The dump of a syntax tree is the text of the tree of mappings that it is expanded to, and the
mappings in that tree are those of the nodes (`mappings_expanded`).  Each of them tells the class
of its node under `type` (`dump_types`), but for the mapping of a handler: a handler has a field of
that name, which holds the class of failures that it is for, and which takes the place of the name
of its kind (`not_all_types`).
-/

namespace SourceDocs.Source

open Json SourceDocs.Tree Value

/-! ## The mappings in a value -/

mutual

/-- The mappings in a value in the order of its text, each before those in its values. -/
def mappings : Value → List Value
  | .list items => mappingsAll items
  | .tuple items => mappingsAll items
  | .mapping entries => .mapping entries :: mappingsEntries entries
  | _ => []

/-- The mappings in several values. -/
def mappingsAll : List Value → List Value
  | [] => []
  | v :: rest => mappings v ++ mappingsAll rest

/-- The mappings in the values of entries. -/
def mappingsEntries : List (Value × Value) → List Value
  | [] => []
  | (_, v) :: rest => mappings v ++ mappingsEntries rest

end

theorem mappings_list (items : List Value) : mappings (.list items) = items.flatMap mappings := by
  rw [mappings]
  induction items with
  | nil => rw [mappingsAll]; rfl
  | cons v rest ih => rw [mappingsAll, ih, List.flatMap_cons]

theorem mappings_mapping (entries : List (Value × Value)) :
    mappings (.mapping entries) =
      .mapping entries :: entries.flatMap fun e => mappings e.2 := by
  rw [mappings]
  congr 1
  induction entries with
  | nil => rw [mappingsEntries]; rfl
  | cons e rest ih => rw [mappingsEntries, ih, List.flatMap_cons]

theorem mappings_of_scalar {v : Value} {t : Except EncodeFault Text} (h : scalar? v = some t) :
    mappings v = [] := by
  cases v with
  | null | bool | int | float | text => rfl
  | _ => cases h

/-! ## The mappings of nodes -/

theorem mappings_expanded_constant {v : Value} (h : v.isConstant) : mappings (expanded v) = [] := by
  obtain ⟨t, hscalar⟩ := exists_scalar_expanded h
  exact mappings_of_scalar hscalar

/-- In a list, mappings come from nodes only. -/
theorem flatMap_mappings_items {items : List Value} (h : ∀ c ∈ items, c.isItem) :
    (items.flatMap fun c => mappings (expanded c)) =
      (items.filter isNode).flatMap fun c => mappings (expanded c) := by
  induction items with
  | nil => rfl
  | cons c rest ih =>
    have hitem := h c List.mem_cons_self
    rw [List.flatMap_cons, ih fun d hd => h d (List.mem_cons_of_mem _ hd)]
    cases c with
    | null | text =>
      rw [mappings_expanded_constant rfl]
      rfl
    | node => rfl
    | _ => cases hitem

/-- And so they do in whatever may stand in a field. -/
theorem mappings_expanded_part {v : Value} (h : v.isFieldValue) :
    mappings (expanded v) = (pick isNode v).flatMap fun c => mappings (expanded c) := by
  cases v with
  | list items =>
    rw [expanded_list, mappings_list, List.flatMap_map]
    exact flatMap_mappings_items (List.all_eq_true.1 h)
  | node => exact (List.append_nil _).symm
  | null | bool | int | float | complex | text | bytes | ellipsis =>
    exact mappings_expanded_constant rfl
  | _ => cases h

/-- The mapping of a node comes before those of its children. -/
theorem mappings_expanded_node {v : Value} (h : IsTree v) :
    mappings (expanded v) =
      expanded v :: (Tree.children v).flatMap fun c => mappings (expanded c) := by
  obtain @⟨kind, fields, attributes, hshape, -⟩ := h
  have hkind : (kindEntries kind fields).flatMap (fun e => mappings (expanded e.2)) = [] := by
    rw [kindEntries]
    split_ifs
    · rfl
    · rw [List.flatMap_singleton]
      exact mappings_expanded_constant rfl
  have hattributes :
      (attributes.map nameEntry).flatMap (fun e => mappings (expanded e.2)) = [] := by
    rw [List.flatMap_map, List.flatMap_eq_nil_iff]
    exact fun a ha => mappings_expanded_constant (hshape.attributeValues a ha)
  have hfields : (fields.map nameEntry).flatMap (fun e => mappings (expanded e.2)) =
      (Tree.children (.node kind fields attributes)).flatMap fun c => mappings (expanded c) := by
    rw [Tree.children, List.flatMap_map, List.flatMap_assoc]
    exact List.flatMap_congr fun f hf => mappings_expanded_part (hshape.fieldValues f hf)
  rw [expanded_node, mappings_mapping, List.flatMap_map]
  congr 1
  dsimp only
  rw [nodeEntries_eq hshape, List.map_append, List.flatMap_append, List.flatMap_append, hkind,
    hfields, hattributes, List.nil_append, List.append_nil]

/-- The nodes that are visited in a tree are trees. -/
theorem isTree_of_mem_visits {tree : Value} (h : IsTree tree) {u : Visit} (hu : u ∈ visits tree) :
    IsTree u.node := forall_mem_visits (fun _ hv _ hc => hv.child hc) h u hu

/-- The mappings in an expanded tree are those of the nodes, in the order of visits. -/
theorem mappings_expanded (v : Visit) (h : IsTree v.node) :
    mappings (expanded v.node) = (preorder v).map fun u => expanded u.node := by
  induction hsize : size v.node using Nat.strong_induction_on generalizing v with
  | _ n ih =>
    subst hsize
    rw [preorder_eq, mappings_expanded_node h, List.map_cons, List.map_flatMap, Visit.children,
      List.flatMap_map]
    congr 1
    exact List.flatMap_congr fun c hc => ih _ (size_lt_of_mem hc) ⟨c, _⟩ (h.child hc) rfl

/-! ## Types -/

/-- Only handlers have something else in the place of the name of their kind. -/
theorem typeValue_of_ne {kind : NodeKind} {fields attributes : List (String × Value)}
    (h : HasShape kind fields attributes) (hkind : kind ≠ .exceptHandler) :
    typeValue kind fields = ofString kind.name := by
  have hnone : fields.lookup "type" = none := List.lookup_eq_none_iff.2 fun f hf =>
    bne_iff_ne.2 fun heq => hkind (h.exists_type_cons (heq ▸ List.mem_map_of_mem hf)).1
  rw [typeValue, hnone]
  rfl

/-- What the mapping of a node holds under `type`: the name of its kind, or the field of a handler
that is called so. -/
theorem exists_type_expanded {v : Value} (h : IsTree v) :
    ∃ kind fields attributes entries,
      v = .node kind fields attributes ∧ expanded v = .mapping entries ∧
      (kind ≠ .exceptHandler → lookupText entries "type" = some (ofString kind.name)) ∧
      ∀ caught, v.field? "type" = some caught →
        lookupText entries "type" = some (expanded caught) := by
  obtain @⟨kind, fields, attributes, hshape, -⟩ := h
  have htype : lookupText
      ((nodeEntries kind fields attributes).map fun e => (e.1, expanded e.2)) "type" =
        some (expanded (typeValue kind fields)) := by
    rw [lookupText_map, lookup_type_nodeEntries hshape]
    rfl
  refine ⟨kind, fields, attributes, _, rfl, expanded_node kind fields attributes,
    fun hkind => ?_, fun caught hfield => ?_⟩
  · rw [htype, typeValue_of_ne hshape hkind, ofString, expanded_text]
  · have hlookup : fields.lookup "type" = some caught := hfield
    rw [htype, typeValue, hlookup]
    rfl

/-- The dump of a module that has been read is the text of a tree whose mappings are those of the
nodes of the module.  The mapping of a node that is no handler has the class of the node under
`type`; that of a handler has there what it catches. -/
theorem dump_types {bytes : List UInt8} {tree : Value} (h : parseModule bytes = .ok tree) :
    (∀ t, treeText tree = .ok t ↔ dumps (expanded tree) = .ok t) ∧
    mappings (expanded tree) = (visits tree).map (fun u => expanded u.node) ∧
    ∀ u ∈ visits tree, ∃ kind fields attributes entries,
      u.node = .node kind fields attributes ∧ expanded u.node = .mapping entries ∧
      (kind ≠ .exceptHandler → lookupText entries "type" = some (ofString kind.name)) ∧
      ∀ caught, u.node.field? "type" = some caught →
        lookupText entries "type" = some (expanded caught) := by
  have htree : IsTree tree := gives_parseModule bytes tree h
  refine ⟨fun t => ?_, ?_, fun u hu => exists_type_expanded (isTree_of_mem_visits htree hu)⟩
  · rw [dumps_expanded]
    exact treeText_ok_iff tree t
  · rw [visits]
    exact mappings_expanded (Visit.ofRoot tree) htree

/-! ## A handler -/

/-- A module whose handler catches all failures. -/
def handlerSource : List UInt8 :=
  "try:pass\nexcept:pass\n".toList.map fun c => UInt8.ofNat c.toNat

/-- A handler that names no class of failures. -/
def isCatchAll (v : Value) : Bool :=
  match v.kind?, v.field? "type" with
  | some .exceptHandler, some .null => true
  | _, _ => false

theorem exists_handlerSource : ∃ tree, parseModule handlerSource = .ok tree ∧
    tree.kind? = some .moduleRoot ∧ (visits tree).length = 5 ∧
    ∃ u ∈ visits tree, isCatchAll u.node := by
  have hread : ((parseModule handlerSource).toOption.any fun tree =>
      decide (tree.kind? = some .moduleRoot) && decide ((visits tree).length = 5) &&
        (visits tree).any fun u => isCatchAll u.node) = true := by decide +kernel
  obtain ⟨tree, hparsed, hpasses⟩ := (Option.any_eq_true _ _).1 hread
  simp only [Bool.and_eq_true, decide_eq_true_eq, List.any_eq_true] at hpasses
  obtain ⟨⟨hkind, hlength⟩, hcatchAll⟩ := hpasses
  exact ⟨tree, toOption_eq_some_iff.1 hparsed, hkind, hlength, hcatchAll⟩

/-- Its dump has five mappings, the first of which is that of the module. -/
theorem dump_types_handler : ∃ tree, parseModule handlerSource = .ok tree ∧
    (mappings (expanded tree)).length = 5 ∧
    ∃ entries, expanded tree = .mapping entries ∧
      lookupText entries "type" = some (ofString "Module") := by
  obtain ⟨tree, hread, hkind, hlength, -⟩ := exists_handlerSource
  obtain ⟨-, hmappings, htypes⟩ := dump_types hread
  have hroot : Visit.ofRoot tree ∈ visits tree := by
    rw [visits, preorder_eq]
    exact List.mem_cons_self
  obtain ⟨kind, fields, attributes, entries, hnode, hentries, htype, -⟩ := htypes _ hroot
  obtain rfl : kind = .moduleRoot := by
    rw [show tree = .node kind fields attributes from hnode] at hkind
    exact Option.some.inj hkind
  exact ⟨tree, hread, by rw [hmappings, List.length_map, hlength], entries, hentries,
    htype (by decide)⟩

/-- Not every mapping of a node has the class of the node under `type`: a handler that catches all
failures has null there. -/
theorem not_all_types : ¬ ∀ (bytes : List UInt8) (tree : Value), parseModule bytes = .ok tree →
    ∀ u ∈ visits tree, ∀ (kind : NodeKind) (entries : List (Value × Value)),
      u.node.kind? = some kind → expanded u.node = .mapping entries →
      lookupText entries "type" = some (ofString kind.name) := by
  intro hall
  obtain ⟨tree, hread, -, -, u, hu, hcatchAll⟩ := exists_handlerSource
  obtain ⟨kind, fields, attributes, entries, hnode, hentries, -, htype⟩ :=
    exists_type_expanded (isTree_of_mem_visits (gives_parseModule _ tree hread) hu)
  have hname : lookupText entries "type" = some (ofString kind.name) :=
    hall _ tree hread u hu kind entries (by rw [hnode]; rfl) hentries
  have hnull : u.node.field? "type" = some .null := by
    unfold isCatchAll at hcatchAll
    split at hcatchAll
    next hfield => exact hfield
    next => cases hcatchAll
  -- The field of the handler is there, so its expansion stands in the place of the name.
  have hexpanded : expanded .null = .null := expanded_scalar rfl
  rw [htype _ hnull, hexpanded] at hname
  cases hname

end SourceDocs.Source
