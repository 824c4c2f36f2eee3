import SourceDocs.Proofs.Extraction.Parts

/-!
# Documented symbols

The records of a tree by rules.  `Emits` has one rule for each kind of node and each place where it
may stand, `Passes` says where the children of a node stand then, and `Documents` goes down the tree
with both.  The main result, `records_exact`, is that extraction from a tree gives exactly these
records, numbered in order, and fails exactly if the rules give none.
-/

namespace SourceDocs.Extraction

open Source

variable {o : Origin} {s : Scope} {node : Value} {ds : List Draft}

/-- Whether classes and functions that stand here are documented. -/
def Scope.isOpen : Scope → Bool
  | .file | .members _ => true
  | .method _ _ | .hidden => false

/-! ## The rules -/

/-- The records of a class. -/
inductive ClassEmits (o : Origin) (node : Value) : Scope → List Draft → Prop where
  | top {d : Draft} {name path : Text} {told : List (String × Value)} :
      textOf node "name" = .ok name → ClassTells node told → IsImportPath o path →
      IsRecord d "class" name (o.relativePath ++ Text.ofChar '~' ++ name) true
        (told ++ [("memberof", .text o.relativePath), ("importPath", .text path)]) →
      ClassEmits o node .file [d]
  | inner {d : Draft} {owner name : Text} {told : List (String × Value)} :
      textOf node "name" = .ok name → ClassTells node told →
      IsRecord d "class" name (owner ++ Text.ofChar '.' ++ name) true
        (told ++ [("memberof", .text owner)]) →
      ClassEmits o node (.members owner) [d]
  | hidden {s : Scope} : s.isOpen = false → ClassEmits o node s []

/-- The records of a function.  What it tells must be known even where it is not documented. -/
inductive FunctionEmits (o : Origin) (node : Value) : Scope → List Draft → Prop where
  | top {d : Draft} {name path : Text} {decorators : List Text} {told : List (String × Value)} :
      FunctionTells node decorators told → textOf node "name" = .ok name → IsImportPath o path →
      IsRecord d "function" name (o.relativePath ++ Text.ofChar '~' ++ name) true
        (told ++ [("importPath", .text path), ("memberof", .text o.relativePath)]) →
      FunctionEmits o node .file [d]
  | method {d : Draft} {owner name : Text} {decorators : List Text} {kind : String} {static : Bool}
      {told : List (String × Value)} : FunctionTells node decorators told →
      (¬∃ t ∈ decorators, Text.ofString ".deleter" <:+ t) → textOf node "name" = .ok name →
      IsMethodKind name decorators kind →
      (static = true ↔ Text.ofString "staticmethod" ∈ decorators ∨
        Text.ofString "classmethod" ∈ decorators) →
      IsRecord d kind name (owner ++ Text.ofChar (if static then '.' else '#') ++ name) static
        (told ++ [("memberof", .text owner)]) →
      FunctionEmits o node (.members owner) [d]
  | deleter {owner : Text} {decorators : List Text} {told : List (String × Value)} :
      FunctionTells node decorators told → (∃ t ∈ decorators, Text.ofString ".deleter" <:+ t) →
      FunctionEmits o node (.members owner) []
  | hidden {s : Scope} {decorators : List Text} {told : List (String × Value)} :
      FunctionTells node decorators told → s.isOpen = false → FunctionEmits o node s []

/-- The records of an assignment to these targets, about which this is told. -/
inductive AssignmentEmits (o : Origin) (node : Value) (targets : List Value)
    (told : List (String × Value)) : Scope → List Draft → Prop where
  | top {ds : List Draft} {path : Text} {names : List Text} : IsTargetNames targets names →
      IsImportPath o path →
      List.Forall₂ (fun name d =>
        IsRecord d "variable" name (o.relativePath ++ Text.ofChar '~' ++ name) true
          (told ++ [("memberof", .text o.relativePath), ("importPath", .text path)])) names ds →
      AssignmentEmits o node targets told .file ds
  | inClass {ds : List Draft} {owner : Text} {declared : Bool} {names : List Text} :
      IsDeclaration node declared → IsTargetNames targets names →
      List.Forall₂ (fun name d => IsRecord d "member" name
        (owner ++ Text.ofChar (if declared then '#' else '.') ++ name) (!declared)
          (told ++ [("memberof", .text owner)])) names ds →
      AssignmentEmits o node targets told (.members owner) ds
  | inMethod {ds : List Draft} {owner receiver : Text} {func : Value} {names : List Text} :
      IsReceiver func (some receiver) → IsReceiverAttributes receiver targets names →
      List.Forall₂ (fun name d => IsRecord d "member" name (owner ++ Text.ofChar '#' ++ name) false
        (told ++ [("memberof", .text owner)])) names ds →
      AssignmentEmits o node targets told (.method owner func) ds
  /-- A method without parameters has no receiver. -/
  | noReceiver {owner : Text} {func : Value} : IsReceiver func none →
      AssignmentEmits o node targets told (.method owner func) []
  | hidden : AssignmentEmits o node targets told .hidden []

/-- The records of a node itself, by its kind and where it stands. -/
inductive Emits (o : Origin) (node : Value) : Scope → List Draft → Prop where
  | file {s : Scope} {d : Draft} {description : Value} : node.kind? = some .moduleRoot →
      descriptionOf node = .ok description →
      IsRecord d "file" o.relativePath o.relativePath true [("description", description)] →
      Emits o node s [d]
  | ofClass {s : Scope} {ds : List Draft} : node.kind? = some .classDef → ClassEmits o node s ds →
      Emits o node s ds
  | ofFunction {s : Scope} {ds : List Draft} :
      node.kind? = some .functionDef ∨ node.kind? = some .asyncFunctionDef →
      FunctionEmits o node s ds → Emits o node s ds
  | ofAssignment {s : Scope} {ds : List Draft} {targets : List Value}
      {told : List (String × Value)} :
      node.kind? = some .assign ∨ node.kind? = some .annAssign →
      AssignmentTells node targets told → AssignmentEmits o node targets told s ds →
      Emits o node s ds
  | other {s : Scope} : (∀ k ∈ [NodeKind.moduleRoot, .classDef, .functionDef, .asyncFunctionDef,
      .assign, .annAssign], node.kind? ≠ some k) → Emits o node s []

/-- Where the children of a class stand. -/
inductive ClassPasses (file : Text) (node : Value) : Scope → Scope → Prop where
  | top {name : Text} : textOf node "name" = .ok name →
      ClassPasses file node .file (.members (file ++ Text.ofChar '~' ++ name))
  | inner {owner name : Text} : textOf node "name" = .ok name →
      ClassPasses file node (.members owner) (.members (owner ++ Text.ofChar '.' ++ name))
  | hidden {s : Scope} : s.isOpen = false → ClassPasses file node s .hidden

/-- Where the children of a function stand. -/
inductive FunctionPasses (node : Value) : Scope → Scope → Prop where
  | method {owner : Text} {decorators : List Text} : IsDecorators node decorators →
      Text.ofString "staticmethod" ∉ decorators →
      FunctionPasses node (.members owner) (.method owner node)
  | staticMethod {owner : Text} {decorators : List Text} : IsDecorators node decorators →
      Text.ofString "staticmethod" ∈ decorators → FunctionPasses node (.members owner) .hidden
  | other {s : Scope} : (∀ owner, s ≠ .members owner) → FunctionPasses node s .hidden

/-- Where the children of a node stand, by its kind and where it stands itself. -/
inductive Passes (file : Text) (node : Value) : Scope → Scope → Prop where
  | file {s : Scope} : node.kind? = some .moduleRoot → Passes file node s .file
  | ofClass {s inner : Scope} : node.kind? = some .classDef → ClassPasses file node s inner →
      Passes file node s inner
  | ofFunction {s inner : Scope} :
      node.kind? = some .functionDef ∨ node.kind? = some .asyncFunctionDef →
      FunctionPasses node s inner → Passes file node s inner
  | lambda {s : Scope} : node.kind? = some .lambda → Passes file node s .hidden
  /-- Everything else leaves its children in a method. -/
  | within {owner : Text} {func : Value} : (∀ k ∈ [NodeKind.moduleRoot, .classDef, .functionDef,
      .asyncFunctionDef, .lambda], node.kind? ≠ some k) →
      Passes file node (.method owner func) (.method owner func)
  | other {s : Scope} : (∀ k ∈ [NodeKind.moduleRoot, .classDef, .functionDef,
      .asyncFunctionDef, .lambda], node.kind? ≠ some k) → (∀ owner func, s ≠ .method owner func) →
      Passes file node s .hidden

mutual

/-- The records of a node and of all that is below it, in order. -/
inductive Documents (o : Origin) : Scope → Value → List Draft → Prop where
  | intro {s inner : Scope} {node : Value} {own below : List Draft} : Emits o node s own →
      Passes o.relativePath node s inner → DocumentsAll o inner (Tree.children node) below →
      Documents o s node (own ++ below)

/-- The records of nodes one after another. -/
inductive DocumentsAll (o : Origin) : Scope → List Value → List Draft → Prop where
  | nil {s : Scope} : DocumentsAll o s [] []
  | cons {s : Scope} {node : Value} {rest : List Value} {ds more : List Draft} :
      Documents o s node ds → DocumentsAll o s rest more →
      DocumentsAll o s (node :: rest) (ds ++ more)

end

/-! ## Records of a node -/

theorem forall₂_isRecord {kind : String} {longname : Text → Text} {static : Bool}
    {told : List (String × Value)} {names : List Text} :
    List.Forall₂ (fun name d => IsRecord d kind name (longname name) static told) names ds ↔
      (names.map fun name => draft kind name (longname name) static told) = ds := by
  simp only [isRecord_iff]
  rw [← List.forall₂_map_left_iff (R := fun x d => x = d), List.forall₂_eq_eq_eq]

theorem classEmits_iff : ClassEmits o node s ds ↔ s.classDrafts o node = .ok ds := by
  constructor
  · intro h
    cases h with
    | top hname htold hpath hrecord =>
      rw [← isImportPath_iff.1 hpath] at hrecord
      rw [← isRecord_iff.1 hrecord]
      exact bind_eq_ok.2 ⟨_, hname, bind_eq_ok.2 ⟨_, classTells_iff.1 htold, rfl⟩⟩
    | inner hname htold hrecord =>
      rw [← isRecord_iff.1 hrecord]
      exact bind_eq_ok.2 ⟨_, hname, bind_eq_ok.2 ⟨_, classTells_iff.1 htold, rfl⟩⟩
    | hidden hclosed => cases s <;> first | rfl | cases hclosed
  · intro h
    cases s with
    | file =>
      obtain ⟨name, hname, h⟩ := exists_of_bind h
      obtain ⟨told, htold, h⟩ := exists_of_bind h
      cases h
      exact .top hname (classTells_iff.2 htold) (isImportPath_iff.2 rfl) (isRecord_iff.2 rfl)
    | members owner =>
      obtain ⟨name, hname, h⟩ := exists_of_bind h
      obtain ⟨told, htold, h⟩ := exists_of_bind h
      cases h
      exact .inner hname (classTells_iff.2 htold) (isRecord_iff.2 rfl)
    | method | hidden =>
      cases h
      exact .hidden rfl

theorem any_deleter {decorators : List Text} :
    (decorators.any fun d => (Text.ofString ".deleter").isSuffixOf d) = true ↔
      ∃ t ∈ decorators, Text.ofString ".deleter" <:+ t := by
  simp

theorem any_static {decorators : List Text} :
    (decorators.any fun d => d.isString "staticmethod" || d.isString "classmethod") = true ↔
      Text.ofString "staticmethod" ∈ decorators ∨ Text.ofString "classmethod" ∈ decorators := by
  simp only [List.any_eq_true, Bool.or_eq_true, Text.isString, decide_eq_true_eq, and_or_left,
    exists_or, exists_eq_right]

/-- The separator of a member. -/
theorem separator_eq (static : Bool) :
    (if static then Text.ofString "." else Text.ofString "#") =
      Text.ofChar (if static then '.' else '#') := by
  cases static <;> simp [Text.ofString, Text.ofChar]

/-- That of a name in a class, which may only be declared there. -/
theorem declared_separator_eq (declared : Bool) :
    (if declared then Text.ofString "#" else Text.ofString ".") =
      Text.ofChar (if declared then '#' else '.') := by
  cases declared <;> simp [Text.ofString, Text.ofChar]

theorem functionEmits_iff : FunctionEmits o node s ds ↔ s.functionDrafts o node = .ok ds := by
  constructor
  · intro h
    cases h with
    | top htold hname hpath hrecord =>
      rw [← isImportPath_iff.1 hpath] at hrecord
      rw [← isRecord_iff.1 hrecord]
      exact bind_eq_ok.2 ⟨_, functionTells_iff.1 htold, bind_eq_ok.2 ⟨_, hname, rfl⟩⟩
    | @method d owner name decorators kind static told htold hkept hname hkind hstatic hrecord =>
      refine bind_eq_ok.2 ⟨_, functionTells_iff.1 htold, ?_⟩
      obtain rfl : (decorators.any fun d => d.isString "staticmethod" || d.isString "classmethod") =
          static := Bool.eq_iff_iff.2 (any_static.trans hstatic.symm)
      rw [← isMethodKind_iff.1 hkind, ← separator_eq] at hrecord
      simp only [mt any_deleter.1 hkept, ← isRecord_iff.1 hrecord]
      exact bind_eq_ok.2 ⟨_, hname, rfl⟩
    | deleter htold hdeleter =>
      refine bind_eq_ok.2 ⟨_, functionTells_iff.1 htold, ?_⟩
      simp only [any_deleter.2 hdeleter, if_true]
      rfl
    | hidden htold hclosed =>
      refine bind_eq_ok.2 ⟨_, functionTells_iff.1 htold, ?_⟩
      cases s <;> first | rfl | cases hclosed
  · intro h
    obtain ⟨⟨decorators, told⟩, htold, h⟩ := exists_of_bind h
    have htells := functionTells_iff.2 htold
    cases s with
    | file =>
      obtain ⟨name, hname, h⟩ := exists_of_bind h
      cases h
      exact .top htells hname (isImportPath_iff.2 rfl) (isRecord_iff.2 rfl)
    | members owner =>
      by_cases hdeleter : (decorators.any fun d => (Text.ofString ".deleter").isSuffixOf d) = true
      · simp only [hdeleter, if_true] at h
        cases h
        exact .deleter htells (any_deleter.1 hdeleter)
      · simp only [hdeleter] at h
        obtain ⟨name, hname, h⟩ := exists_of_bind h
        cases h
        refine .method htells (mt any_deleter.2 hdeleter) hname (isMethodKind_iff.2 rfl)
          any_static ?_
        rw [← separator_eq]
        exact isRecord_iff.2 rfl
    | method | hidden =>
      cases h
      exact .hidden htells rfl

theorem assignmentEmits_iff {targets : List Value} {told : List (String × Value)}
    (h : assignmentFacts node = .ok (targets, told)) :
    AssignmentEmits o node targets told s ds ↔ s.assignmentDrafts o node = .ok ds := by
  constructor
  · intro hemits
    refine bind_eq_ok.2 ⟨_, h, ?_⟩
    cases hemits with
    | top hnames hpath hrecords =>
      rw [← isImportPath_iff.1 hpath] at hrecords
      rw [← forall₂_isRecord.1 hrecords]
      exact bind_eq_ok.2 ⟨_, isTargetNames_iff.1 hnames, rfl⟩
    | inClass hdeclared hnames hrecords =>
      rw [← forall₂_isRecord.1 hrecords]
      refine bind_eq_ok.2 ⟨_, isDeclaration_iff.1 hdeclared, ?_⟩
      refine bind_eq_ok.2 ⟨_, isTargetNames_iff.1 hnames, ?_⟩
      rw [← declared_separator_eq]
      rfl
    | inMethod hreceiver hnames hrecords =>
      rw [← forall₂_isRecord.1 hrecords]
      refine bind_eq_ok.2 ⟨_, isReceiver_iff.1 hreceiver, ?_⟩
      exact bind_eq_ok.2 ⟨_, isReceiverAttributes_iff.1 hnames, rfl⟩
    | noReceiver hreceiver => exact bind_eq_ok.2 ⟨_, isReceiver_iff.1 hreceiver, rfl⟩
    | hidden => rfl
  · intro hdrafts
    obtain ⟨⟨targets', told'⟩, hfacts, hdrafts⟩ := exists_of_bind hdrafts
    obtain ⟨rfl, rfl⟩ := Prod.mk.inj (Except.ok.inj (h.symm.trans hfacts))
    cases s with
    | file =>
      obtain ⟨names, hnames, hdrafts⟩ := exists_of_bind hdrafts
      cases hdrafts
      exact .top (isTargetNames_iff.2 hnames) (isImportPath_iff.2 rfl)
        (forall₂_isRecord.2 rfl)
    | members owner =>
      obtain ⟨declared, hdeclared, hdrafts⟩ := exists_of_bind hdrafts
      obtain ⟨names, hnames, hdrafts⟩ := exists_of_bind hdrafts
      cases hdrafts
      refine .inClass (isDeclaration_iff.2 hdeclared) (isTargetNames_iff.2 hnames)
        (forall₂_isRecord.2 ?_)
      rw [← declared_separator_eq]
    | method owner func =>
      obtain ⟨receiver?, hreceiver, hdrafts⟩ := exists_of_bind hdrafts
      have hwho := isReceiver_iff.2 hreceiver
      cases receiver? with
      | none =>
        cases hdrafts
        exact .noReceiver hwho
      | some receiver =>
        obtain ⟨names, hnames, hdrafts⟩ := exists_of_bind hdrafts
        cases hdrafts
        exact .inMethod hwho (isReceiverAttributes_iff.2 hnames) (forall₂_isRecord.2 rfl)
    | hidden =>
      cases hdrafts
      exact .hidden

theorem emits_iff : Emits o node s ds ↔ s.drafts o node = .ok ds := by
  constructor
  · intro h
    cases h with
    | file hkind hdescription hrecord =>
      rw [Scope.drafts, hkind, ← isRecord_iff.1 hrecord]
      exact bind_eq_ok.2 ⟨_, bind_eq_ok.2 ⟨_, hdescription, rfl⟩, rfl⟩
    | ofClass hkind hclass =>
      rw [Scope.drafts, hkind]
      exact classEmits_iff.1 hclass
    | ofFunction hkind hfunction =>
      rcases hkind with hkind | hkind <;> rw [Scope.drafts, hkind] <;>
        exact functionEmits_iff.1 hfunction
    | ofAssignment hkind htold hassignment =>
      have hdrafts := (assignmentEmits_iff ((assignmentTells_iff hkind).1 htold)).1 hassignment
      rcases hkind with hkind | hkind <;> rw [Scope.drafts, hkind] <;> exact hdrafts
    | other hother =>
      unfold Scope.drafts
      split
      case h_7 => rfl
      all_goals
        rename_i hkind
        exact absurd hkind (hother _ (by simp))
  · intro h
    rw [Scope.drafts] at h
    split at h
    case h_1 hkind =>
      obtain ⟨d, hd, h⟩ := exists_of_bind h
      obtain ⟨description, hdescription, hd⟩ := exists_of_bind hd
      cases hd
      cases h
      exact .file hkind hdescription (isRecord_iff.2 rfl)
    case h_2 hkind => exact .ofClass hkind (classEmits_iff.2 h)
    case h_3 hkind => exact .ofFunction (.inl hkind) (functionEmits_iff.2 h)
    case h_4 hkind => exact .ofFunction (.inr hkind) (functionEmits_iff.2 h)
    case h_5 hkind =>
      obtain ⟨⟨targets, told⟩, hfacts, -⟩ := exists_of_bind h
      exact .ofAssignment (.inl hkind) ((assignmentTells_iff (.inl hkind)).2 hfacts)
        ((assignmentEmits_iff hfacts).2 h)
    case h_6 hkind =>
      obtain ⟨⟨targets, told⟩, hfacts, -⟩ := exists_of_bind h
      exact .ofAssignment (.inr hkind) ((assignmentTells_iff (.inr hkind)).2 hfacts)
        ((assignmentEmits_iff hfacts).2 h)
    case h_7 hmodule hclass hfunction hasync hassign hannotated =>
      cases h
      refine .other fun k hk => ?_
      simp only [List.mem_cons, List.not_mem_nil, or_false] at hk
      rcases hk with rfl | rfl | rfl | rfl | rfl | rfl <;> assumption

/-! ## Places of children -/

theorem functionPasses_iff {inner : Scope} : FunctionPasses node s inner ↔
    (match s with
      | .members owner => do
        if (← decoratorNames node).any fun n => n.isString "staticmethod" then return .hidden
        else return .method owner node
      | .file | .method _ _ | .hidden => return .hidden : Except Fault Scope) = .ok inner := by
  have hany (names : List Text) : (names.any fun n => n.isString "staticmethod") = true ↔
      Text.ofString "staticmethod" ∈ names := by
    simp [Text.isString]
  constructor
  · intro h
    cases h with
    | method hdecorators hstatic =>
      refine bind_eq_ok.2 ⟨_, isDecorators_iff.1 hdecorators, ?_⟩
      rw [if_neg (mt (hany _).1 hstatic)]
      rfl
    | staticMethod hdecorators hstatic =>
      refine bind_eq_ok.2 ⟨_, isDecorators_iff.1 hdecorators, ?_⟩
      rw [if_pos ((hany _).2 hstatic)]
      rfl
    | other hother => cases s <;> first | rfl | exact absurd rfl (hother _)
  · intro h
    cases s with
    | members owner =>
      obtain ⟨decorators, hdecorators, h⟩ := exists_of_bind h
      split_ifs at h with hstatic
      · cases h
        exact .staticMethod (isDecorators_iff.2 hdecorators) ((hany _).1 hstatic)
      · cases h
        exact .method (isDecorators_iff.2 hdecorators) (mt (hany _).2 hstatic)
    | _ =>
      cases h
      exact .other (by simp)

theorem classPasses_iff {file : Text} {inner : Scope} : ClassPasses file node s inner ↔
    (match s with
      | .file => return .members (file ++ Text.ofChar '~' ++ (← textOf node "name"))
      | .members owner => return .members (owner ++ Text.ofChar '.' ++ (← textOf node "name"))
      | .method _ _ | .hidden => return .hidden : Except Fault Scope) = .ok inner := by
  constructor
  · intro h
    cases h with
    | top hname => exact bind_eq_ok.2 ⟨_, hname, rfl⟩
    | inner hname => exact bind_eq_ok.2 ⟨_, hname, rfl⟩
    | hidden hclosed => cases s <;> first | rfl | cases hclosed
  · intro h
    cases s with
    | file =>
      obtain ⟨name, hname, h⟩ := exists_of_bind h
      cases h
      exact .top hname
    | members owner =>
      obtain ⟨name, hname, h⟩ := exists_of_bind h
      cases h
      exact .inner hname
    | method | hidden =>
      cases h
      exact .hidden rfl

theorem passes_iff {file : Text} {inner : Scope} :
    Passes file node s inner ↔ s.inside file node = .ok inner := by
  constructor
  · intro h
    cases h with
    | file hkind =>
      rw [Scope.inside.eq_def, hkind]
      rfl
    | ofClass hkind hclass =>
      rw [Scope.inside.eq_def, hkind]
      exact classPasses_iff.1 hclass
    | ofFunction hkind hfunction =>
      rcases hkind with hkind | hkind <;> rw [Scope.inside.eq_def, hkind] <;>
        exact functionPasses_iff.1 hfunction
    | lambda hkind =>
      rw [Scope.inside.eq_def, hkind]
      rfl
    | within hother =>
      unfold Scope.inside
      split
      case h_6 => rfl
      all_goals
        rename_i hkind
        exact absurd hkind (hother _ (by simp))
    | other hother hmethod =>
      unfold Scope.inside
      split
      case h_6 => cases s <;> first | rfl | exact absurd rfl (hmethod _ _)
      all_goals
        rename_i hkind
        exact absurd hkind (hother _ (by simp))
  · intro h
    rw [Scope.inside.eq_def] at h
    split at h
    case h_1 hkind =>
      cases h
      exact .file hkind
    case h_2 hkind => exact .ofClass hkind (classPasses_iff.2 h)
    case h_3 hkind => exact .ofFunction (.inl hkind) (functionPasses_iff.2 h)
    case h_4 hkind => exact .ofFunction (.inr hkind) (functionPasses_iff.2 h)
    case h_5 hkind =>
      cases h
      exact .lambda hkind
    case h_6 hmodule hclass hfunction hasync hlambda =>
      have hother : ∀ k ∈ [NodeKind.moduleRoot, .classDef, .functionDef, .asyncFunctionDef,
          .lambda], node.kind? ≠ some k := by
        intro k hk
        simp only [List.mem_cons, List.not_mem_nil, or_false] at hk
        rcases hk with rfl | rfl | rfl | rfl | rfl <;> assumption
      cases s with
      | method owner func =>
        cases h
        exact .within hother
      | _ =>
        cases h
        exact .other hother (by simp)

/-! ## Whole trees -/

theorem documentsAll_iff {nodes : List Value}
    (h : ∀ c ∈ nodes, ∀ ds, Documents o s c ds ↔ symbolsOf o s c = .ok ds) :
    DocumentsAll o s nodes ds ↔
      ∃ below, nodes.mapM (symbolsOf o s) = .ok below ∧ below.flatten = ds := by
  induction nodes generalizing ds with
  | nil =>
    constructor
    · rintro ⟨⟩
      exact ⟨[], rfl, rfl⟩
    · rintro ⟨below, hbelow, rfl⟩
      cases hbelow
      exact .nil
  | cons c rest ih =>
    have hrest := fun d hd => h d (List.mem_cons_of_mem c hd)
    constructor
    · rintro ⟨⟩
      rename_i own more hown hmore
      obtain ⟨below, hbelow, rfl⟩ := (ih hrest).1 hmore
      refine ⟨own :: below, ?_, rfl⟩
      rw [List.mapM_cons, bind_eq_ok]
      exact ⟨own, (h c List.mem_cons_self own).1 hown, bind_eq_ok.2 ⟨below, hbelow, rfl⟩⟩
    · rintro ⟨below, hbelow, rfl⟩
      rw [List.mapM_cons] at hbelow
      obtain ⟨own, hown, hbelow⟩ := exists_of_bind hbelow
      obtain ⟨more, hmore, hbelow⟩ := exists_of_bind hbelow
      cases hbelow
      exact .cons ((h c List.mem_cons_self own).2 hown) ((ih hrest).2 ⟨more, hmore, rfl⟩)

/-- The rules give what the recursion with scopes computes. -/
theorem documents_iff : Documents o s node ds ↔ symbolsOf o s node = .ok ds := by
  induction s, node using symbolsOf.induct generalizing ds with
  | case1 s node ih =>
    rw [symbolsOf_eq]
    constructor
    · rintro ⟨hown, hinner, hall⟩
      refine bind_eq_ok.2 ⟨_, emits_iff.1 hown, bind_eq_ok.2 ⟨_, passes_iff.1 hinner, ?_⟩⟩
      obtain ⟨below, hbelow, rfl⟩ := (documentsAll_iff fun c hc ds => ih _ ⟨c, hc⟩).1 hall
      exact bind_eq_ok.2 ⟨below, hbelow, rfl⟩
    · intro h
      obtain ⟨own, hown, h⟩ := exists_of_bind h
      obtain ⟨inner, hinner, h⟩ := exists_of_bind h
      obtain ⟨below, hbelow, h⟩ := exists_of_bind h
      cases h
      exact .intro (emits_iff.2 hown) (passes_iff.2 hinner)
        ((documentsAll_iff fun c hc ds => ih _ ⟨c, hc⟩).2 ⟨below, hbelow, rfl⟩)

/-- Extraction from a tree gives the records that the rules give, numbered in order, and nothing
else; it fails if they give none. -/
theorem records_exact (o : Origin) (tree : Value) (w : World) :
    (∀ rs w', (recordsOf .symbols o tree).runIn w = (.ok rs, w') ↔
      ∃ ds, Documents o .hidden tree ds ∧ rs = numberDrafts w.nextId ds ∧
        w' = { w with nextId := w.nextId + ds.length }) ∧
    ((∃ f w', (recordsOf .symbols o tree).runIn w = (.error f, w')) ↔
      ¬∃ ds, Documents o .hidden tree ds) := by
  have hrun := runIn_recordsOf_symbols o tree w
  simp only [documents_iff]
  cases hsymbols : symbolsOf o .hidden tree with
  | ok ds =>
    rw [hsymbols] at hrun
    simp only at hrun
    rw [hrun]
    simp [eq_comm]
  | error f =>
    rw [hsymbols] at hrun
    obtain ⟨f', w', hrun⟩ := hrun
    rw [hrun]
    simp

end SourceDocs.Extraction
