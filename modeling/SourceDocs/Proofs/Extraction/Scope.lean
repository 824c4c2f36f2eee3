import SourceDocs.Proofs.Extraction.Numbering

/-!
# Symbols by their scope

`describe` finds out where a node stands by climbing through its ancestors, again for every node.
`symbolsOf` carries a `Scope` down the tree instead.  The main result, `describeTree_eq_symbolsOf`,
is that both give the same records, for every tree.  The invariant is `Stands`: what climbing finds
is what the scope says.
-/

namespace SourceDocs.Extraction

open Source

/-- Where a node stands. -/
inductive Scope where
  /-- It is a child of a module. -/
  | file
  /-- It is a child of a documented class with this long name. -/
  | members (owner : Text)
  /-- The nearest function around it is this method of a documented class, and neither a class nor a
  lambda expression stands between.  Static methods do not count, since they have no receiver. -/
  | method (owner : Text) (func : Value)
  /-- Nothing is documented here. -/
  | hidden

namespace Scope

/-- The records of a class in a scope. -/
def classDrafts (o : Origin) (node : Value) : Scope → Except Fault (List Draft)
  | .file => do
    let name ← textOf node "name"
    let facts ← classFacts node
    return [draft "class" name (o.relativePath ++ Text.ofChar '~' ++ name) true
      (facts ++ [("memberof", .text o.relativePath), ("importPath", .text (importPath o))])]
  | .members owner => do
    let name ← textOf node "name"
    let facts ← classFacts node
    return [draft "class" name (owner ++ Text.ofChar '.' ++ name) true
      (facts ++ [("memberof", .text owner)])]
  | .method _ _ | .hidden => return []

/-- The records of a function in a scope. -/
def functionDrafts (o : Origin) (node : Value) (s : Scope) : Except Fault (List Draft) := do
  let (decorators, facts) ← functionFacts node
  match s with
  | .file =>
    let name ← textOf node "name"
    return [draft "function" name (o.relativePath ++ Text.ofChar '~' ++ name) true
      (facts ++ [("importPath", .text (importPath o)), ("memberof", .text o.relativePath)])]
  | .members owner =>
    if decorators.any fun d => (Text.ofString ".deleter").isSuffixOf d then return []
    else
      let name ← textOf node "name"
      let static := decorators.any fun d => d.isString "staticmethod" || d.isString "classmethod"
      let separator : Text := if static then "." else "#"
      return [draft (methodKind name decorators) name (owner ++ separator ++ name) static
        (facts ++ [("memberof", .text owner)])]
  | .method _ _ | .hidden => return []

/-- The records of an assignment in a scope. -/
def assignmentDrafts (o : Origin) (node : Value) (s : Scope) : Except Fault (List Draft) := do
  let (targets, facts) ← assignmentFacts node
  match s with
  | .file =>
    return (← targetNames targets).map fun name =>
      draft "variable" name (o.relativePath ++ Text.ofChar '~' ++ name) true
        (facts ++ [("memberof", .text o.relativePath), ("importPath", .text (importPath o))])
  | .members owner =>
    let declared ← declaresInstanceAttribute node
    let separator : Text := if declared then "#" else "."
    return (← targetNames targets).map fun name =>
      draft "member" name (owner ++ separator ++ name) (!declared)
        (facts ++ [("memberof", .text owner)])
  | .method owner func =>
    match ← receiverName func with
    | none => return []
    | some receiver =>
      return (← receiverAttributes receiver targets).map fun name =>
        draft "member" name (owner ++ Text.ofString "#" ++ name) false
          (facts ++ [("memberof", .text owner)])
  | .hidden => return []

/-- The records of a node in a scope. -/
def drafts (o : Origin) (s : Scope) (node : Value) : Except Fault (List Draft) :=
  match node.kind? with
  | some .moduleRoot => do return [← describeModule o node]
  | some .classDef => s.classDrafts o node
  | some .functionDef | some .asyncFunctionDef => s.functionDrafts o node
  | some .assign | some .annAssign => s.assignmentDrafts o node
  | _ => .ok []

/-- The scope of the children of a node. -/
def inside (file : Text) (s : Scope) (node : Value) : Except Fault Scope :=
  match node.kind? with
  | some .moduleRoot => return .file
  | some .classDef =>
    match s with
    | .file => return .members (file ++ Text.ofChar '~' ++ (← textOf node "name"))
    | .members owner => return .members (owner ++ Text.ofChar '.' ++ (← textOf node "name"))
    | .method _ _ | .hidden => return .hidden
  | some .functionDef | some .asyncFunctionDef =>
    match s with
    | .members owner => do
      if (← decoratorNames node).any fun n => n.isString "staticmethod" then return .hidden
      else return .method owner node
    | .file | .method _ _ | .hidden => return .hidden
  | some .lambda => return .hidden
  | _ =>
    match s with
    | .method owner func => return .method owner func
    | .file | .members _ | .hidden => return .hidden

end Scope

/-- The records of a node in a scope, and those of all that is below it. -/
def symbolsOf (o : Origin) (s : Scope) (node : Value) : Except Fault (List Draft) := do
  let own ← s.drafts o node
  let inner ← s.inside o.relativePath node
  let below ← (Tree.children node).attach.mapM fun c => symbolsOf o inner c.1
  return own ++ below.flatten
termination_by Tree.size node
decreasing_by exact Tree.size_lt_of_mem c.2

theorem symbolsOf_eq (o : Origin) (s : Scope) (node : Value) :
    symbolsOf o s node = (do
      let own ← s.drafts o node
      let inner ← s.inside o.relativePath node
      let below ← (Tree.children node).mapM (symbolsOf o inner)
      return own ++ below.flatten) := by
  rw [symbolsOf]
  simp

/-! ## Climbing -/

/-- What climbing through ancestors finds is what a scope says. -/
inductive Stands (file : Text) : List Value → Scope → Prop where
  | file {m : Value} {rest : List Value} : m.kind? = some .moduleRoot →
      Stands file (m :: rest) .file
  | members {c : Value} {rest : List Value} {owner : Text} : c.kind? = some .classDef →
      classLongname file c rest = .ok (some owner) → owner ≠ [] →
      Stands file (c :: rest) (.members owner)
  | method {p : Value} {rest : List Value} {owner : Text} {func : Value} :
      p.kind? ≠ some .moduleRoot → p.kind? ≠ some .classDef →
      enclosingMethod file (p :: rest) = .ok (some (func, owner)) →
      Stands file (p :: rest) (.method owner func)
  /-- Nothing stands around a node. -/
  | nowhere : Stands file [] .hidden
  /-- A node stands in a class that is not documented. -/
  | inClass {c : Value} {rest : List Value} : c.kind? = some .classDef →
      classLongname file c rest = .ok none → Stands file (c :: rest) .hidden
  | hidden {p : Value} {rest : List Value} : p.kind? ≠ some .moduleRoot →
      p.kind? ≠ some .classDef → enclosingMethod file (p :: rest) = .ok none →
      Stands file (p :: rest) .hidden

variable {o : Origin} {file : Text} {ancestors : List Value} {s : Scope} {node : Value}

/-! ### Classes -/

theorem classLongname_module {m : Value} {rest : List Value} (h : m.kind? = some .moduleRoot) :
    classLongname file node (m :: rest) =
      (textOf node "name").map fun name => some (file ++ Text.ofChar '~' ++ name) := by
  simp only [classLongname, Value.isKind, h, decide_true, if_true]
  cases textOf node "name" <;> rfl

theorem classLongname_class {c : Value} {rest : List Value} {owner : Text}
    (h : c.kind? = some .classDef) (howner : classLongname file c rest = .ok (some owner))
    (hne : owner ≠ []) : classLongname file node (c :: rest) =
      (textOf node "name").map fun name => some (owner ++ Text.ofChar '.' ++ name) := by
  have hempty : owner.isEmpty = false := by simpa using hne
  simp only [classLongname, Value.isKind, h, howner, bind, Except.bind, hempty]
  cases textOf node "name" <;> rfl

theorem classLongname_inClass {c : Value} {rest : List Value} (h : c.kind? = some .classDef)
    (hnone : classLongname file c rest = .ok none) :
    classLongname file node (c :: rest) = .ok none := by
  simp only [classLongname, Value.isKind, h, hnone]
  rfl

theorem classLongname_other {p : Value} {rest : List Value} (hmodule : p.kind? ≠ some .moduleRoot)
    (hclass : p.kind? ≠ some .classDef) : classLongname file node (p :: rest) = .ok none := by
  simp [classLongname, Value.isKind, hmodule, hclass]

theorem ownerLongname_module {m : Value} {rest : List Value} (h : m.kind? = some .moduleRoot) :
    ownerLongname file (m :: rest) = .ok file := by
  simp [ownerLongname, Value.isKind, h]

theorem ownerLongname_class {c : Value} {rest : List Value} {owner : Text}
    (h : c.kind? = some .classDef) (howner : classLongname file c rest = .ok (some owner))
    (hne : owner ≠ []) : ownerLongname file (c :: rest) = .ok owner := by
  have hempty : owner.isEmpty = false := by simpa using hne
  simp [ownerLongname, Value.isKind, h, howner, Option.filter, hempty, bind, Except.bind, pure,
    Except.pure]

/-- Classes in a hidden scope or in a method are not documented. -/
theorem Stands.classLongname_eq_none (h : Stands file ancestors s)
    (hs : s = .hidden ∨ ∃ owner func, s = .method owner func) :
    classLongname file node ancestors = .ok none := by
  cases h with
  | nowhere => rfl
  | inClass hclass hnone => exact classLongname_inClass hclass hnone
  | method hmodule hclass _ => exact classLongname_other hmodule hclass
  | hidden hmodule hclass _ => exact classLongname_other hmodule hclass
  | file _ => simp at hs
  | members _ _ _ => simp at hs

theorem Stands.describeClass_eq (h : Stands o.relativePath ancestors s) :
    describeClass o ⟨node, ancestors⟩ = s.classDrafts o node := by
  have hhidden (hs : s = .hidden ∨ ∃ owner func, s = .method owner func) :
      describeClass o ⟨node, ancestors⟩ = .ok [] := by
    rw [describeClass, h.classLongname_eq_none hs]
    rfl
  cases h with
  | file hmodule =>
    simp only [describeClass, classLongname_module hmodule, ownerLongname_module hmodule,
      Tree.Visit.parent?, Scope.classDrafts]
    cases textOf node "name" with
    | error f => rfl
    | ok name =>
      cases classFacts node with
      | error f => rfl
      | ok facts => simp [Except.map, bind, Except.bind, pure, Except.pure, Value.isKind, hmodule]
  | members hclass howner hne =>
    simp only [describeClass, classLongname_class hclass howner hne,
      ownerLongname_class hclass howner hne, Tree.Visit.parent?, Scope.classDrafts]
    cases textOf node "name" with
    | error f => rfl
    | ok name =>
      cases classFacts node with
      | error f => rfl
      | ok facts => simp [Except.map, bind, Except.bind, pure, Except.pure, Value.isKind, hclass]
  | _ => exact hhidden (by simp)

/-! ### Functions -/

theorem Stands.describeFunction_eq (h : Stands o.relativePath ancestors s) :
    describeFunction o ⟨node, ancestors⟩ = s.functionDrafts o node := by
  rw [describeFunction, Scope.functionDrafts]
  cases functionFacts node with
  | error f => rfl
  | ok r =>
    obtain ⟨decorators, facts⟩ := r
    simp only [bind, Except.bind]
    cases h with
    | nowhere => rfl
    | file hmodule => simp [Value.isKind, hmodule]
    | members hclass howner _ => simp [Value.isKind, hclass, howner]
    | method hmodule hclass _ => simp [Value.isKind, hmodule, hclass]
    | inClass hclass hnone => simp [Value.isKind, hclass, hnone]
    | hidden hmodule hclass _ => simp [Value.isKind, hmodule, hclass]

theorem Stands.describeAssignment_eq (h : Stands o.relativePath ancestors s) :
    describeAssignment o ⟨node, ancestors⟩ = s.assignmentDrafts o node := by
  rw [describeAssignment, Scope.assignmentDrafts]
  cases assignmentFacts node with
  | error f => rfl
  | ok r =>
    obtain ⟨targets, facts⟩ := r
    simp only [bind, Except.bind]
    cases h with
    | nowhere => rfl
    | file hmodule => simp [Value.isKind, hmodule]
    | members hclass howner _ =>
      simp only [Value.isKind, hclass, howner]
      cases declaresInstanceAttribute node with
      | error f => rfl
      | ok declared => cases declared <;> simp
    | @method p rest owner func hmodule hclass hmethod =>
      simp only [Value.isKind, hmodule, hclass, hmethod]
      cases receiverName func with
      | error f => rfl
      | ok receiver => cases receiver <;> rfl
    | inClass hclass hnone => simp [Value.isKind, hclass, hnone]
    | hidden hmodule hclass hmethod => simp [Value.isKind, hmodule, hclass, hmethod]

/-- A node is described as its scope says. -/
theorem Stands.describe_eq (h : Stands o.relativePath ancestors s) :
    describe o ⟨node, ancestors⟩ = s.drafts o node := by
  rw [describe, h.describeClass_eq, h.describeFunction_eq, h.describeAssignment_eq]
  rfl

/-! ### Going down -/

theorem kind_of_isFunction (h : isFunction node = true) :
    node.kind? = some .functionDef ∨ node.kind? = some .asyncFunctionDef := by
  simpa [isFunction, Value.isKind] using h

/-- Climbing from a function that is no child of a documented class, or is static, ends there. -/
theorem enclosingMethod_function (file : Text) (ancestors : List Value)
    (h : isFunction node = true) :
    enclosingMethod file (node :: ancestors) =
      match ancestors with
      | [] => .ok none
      | cls :: rest =>
        if cls.isKind .classDef then do
          if (← decoratorNames node).any fun n => n.isString "staticmethod" then return none
          else return (← classLongname file cls rest).map fun owner => (node, owner)
        else .ok none := by
  cases ancestors with
  | nil => simp only [enclosingMethod, enclosingFunction, h, if_true]
  | cons cls rest => simp only [enclosingMethod, enclosingFunction, h, if_true]

theorem enclosingMethod_lambda (h : node.kind? = some .lambda) :
    enclosingMethod file (node :: ancestors) = .ok none := by
  simp [enclosingMethod, enclosingFunction, isFunction, Value.isKind, h]

/-- Climbing goes on through a node that is neither a scope of its own nor a lambda expression. -/
theorem enclosingMethod_other (file : Text) (ancestors : List Value)
    (hfunction : isFunction node = false) (hclass : node.kind? ≠ some .classDef)
    (hmodule : node.kind? ≠ some .moduleRoot) (hlambda : node.kind? ≠ some .lambda) :
    enclosingMethod file (node :: ancestors) = enclosingMethod file ancestors := by
  simp [enclosingMethod, enclosingFunction, hfunction, Value.isKind, hclass, hmodule, hlambda]

theorem Scope.drafts_class (hkind : node.kind? = some .classDef) :
    s.drafts o node = s.classDrafts o node := by
  rw [Scope.drafts, hkind]

theorem Scope.drafts_function (hkind : isFunction node = true) :
    s.drafts o node = s.functionDrafts o node := by
  rcases kind_of_isFunction hkind with h | h <;> rw [Scope.drafts, h]

/-- A class with records has a name. -/
theorem exists_name {f : Text → Except Fault (List Draft)} {ds : List Draft}
    (hd : (textOf node "name" >>= f) = .ok ds) : ∃ name, textOf node "name" = .ok name := by
  cases hname : textOf node "name" with
  | error e =>
    rw [hname] at hd
    cases hd
  | ok name => exact ⟨name, rfl⟩

/-- A function with records has decorators that can be named, even where they do not matter. -/
theorem exists_decoratorNames (hkind : isFunction node = true) {ds : List Draft}
    (hd : s.drafts o node = .ok ds) : ∃ names, decoratorNames node = .ok names := by
  rw [Scope.drafts_function hkind, Scope.functionDrafts, functionFacts] at hd
  cases hnames : decoratorNames node with
  | error e =>
    rw [hnames] at hd
    cases hd
  | ok names => exact ⟨names, rfl⟩

/-- The scope in a class. -/
theorem Stands.inside_class (h : Stands o.relativePath ancestors s)
    (hkind : node.kind? = some .classDef) {ds : List Draft} (hd : s.drafts o node = .ok ds) :
    ∃ s', s.inside o.relativePath node = .ok s' ∧ Stands o.relativePath (node :: ancestors) s' := by
  rw [Scope.drafts_class hkind] at hd
  have hhidden (hs : s = .hidden ∨ ∃ owner func, s = .method owner func) :
      Stands o.relativePath (node :: ancestors) .hidden :=
    .inClass hkind (h.classLongname_eq_none hs)
  cases h with
  | file hmodule =>
    obtain ⟨name, hname⟩ := exists_name hd
    refine ⟨.members (o.relativePath ++ Text.ofChar '~' ++ name), ?_, .members hkind ?_ ?_⟩
    · rw [Scope.inside, hkind]
      simp only [hname]
      rfl
    · rw [classLongname_module hmodule, hname]
      rfl
    · simp [Text.ofChar]
  | @members c rest owner hclass howner hne =>
    obtain ⟨name, hname⟩ := exists_name hd
    refine ⟨.members (owner ++ Text.ofChar '.' ++ name), ?_, .members hkind ?_ ?_⟩
    · rw [Scope.inside, hkind]
      simp only [hname]
      rfl
    · rw [classLongname_class hclass howner hne, hname]
      rfl
    · simp [Text.ofChar]
  | _ => exact ⟨.hidden, by rw [Scope.inside, hkind]; rfl, hhidden (by simp)⟩

/-- The scope in a function. -/
theorem Stands.inside_function (h : Stands o.relativePath ancestors s)
    (hkind : isFunction node = true) {ds : List Draft} (hd : s.drafts o node = .ok ds) :
    ∃ s', s.inside o.relativePath node = .ok s' ∧ Stands o.relativePath (node :: ancestors) s' := by
  obtain ⟨names, hnames⟩ := exists_decoratorNames hkind hd
  have hmodule : node.kind? ≠ some .moduleRoot := by
    rcases kind_of_isFunction hkind with h | h <;> simp [h]
  have hclass : node.kind? ≠ some .classDef := by
    rcases kind_of_isFunction hkind with h | h <;> simp [h]
  have hinside : s.inside o.relativePath node =
      match s with
      | .members owner =>
        if names.any fun n => n.isString "staticmethod" then .ok .hidden
        else .ok (.method owner node)
      | _ => .ok .hidden := by
    unfold Scope.inside
    rcases kind_of_isFunction hkind with hk | hk <;> rw [hk] <;> cases s <;> simp only [hnames] <;>
      rfl
  have hclimb := enclosingMethod_function o.relativePath ancestors hkind
  cases h with
  | nowhere => exact ⟨_, hinside, .hidden hmodule hclass hclimb⟩
  | file hfile =>
    refine ⟨_, hinside, .hidden hmodule hclass (hclimb.trans ?_)⟩
    simp [Value.isKind, hfile]
  | method hpm hpc _ =>
    refine ⟨_, hinside, .hidden hmodule hclass (hclimb.trans ?_)⟩
    simp [Value.isKind, hpc]
  | hidden hpm hpc _ =>
    refine ⟨_, hinside, .hidden hmodule hclass (hclimb.trans ?_)⟩
    simp [Value.isKind, hpc]
  | inClass hpc hnone =>
    refine ⟨_, hinside, .hidden hmodule hclass (hclimb.trans ?_)⟩
    simp [Value.isKind, hpc, hnames, hnone, bind, Except.bind, pure, Except.pure]
  | members hpc howner _ =>
    by_cases hstatic : names.any fun n => n.isString "staticmethod"
    · refine ⟨.hidden, by simpa [hstatic] using hinside, .hidden hmodule hclass (hclimb.trans ?_)⟩
      simp [Value.isKind, hpc, hnames, hstatic, bind, Except.bind, pure, Except.pure]
    · refine ⟨.method _ node, by simpa [hstatic] using hinside,
        .method hmodule hclass (hclimb.trans ?_)⟩
      simp [Value.isKind, hpc, hnames, hstatic, howner, bind, Except.bind, pure, Except.pure]

/-- The scope in a node that is neither a scope of its own nor a lambda expression. -/
theorem Stands.inside_other (h : Stands o.relativePath ancestors s)
    (hfunction : isFunction node = false) (hclass : node.kind? ≠ some .classDef)
    (hmodule : node.kind? ≠ some .moduleRoot) (hlambda : node.kind? ≠ some .lambda) :
    ∃ s', s.inside o.relativePath node = .ok s' ∧ Stands o.relativePath (node :: ancestors) s' := by
  have hclimb := enclosingMethod_other o.relativePath ancestors hfunction hclass hmodule hlambda
  have hinside : s.inside o.relativePath node =
      match s with
      | .method owner func => .ok (.method owner func)
      | _ => .ok .hidden := by
    have hdef : node.kind? ≠ some .functionDef ∧ node.kind? ≠ some .asyncFunctionDef := by
      simpa [isFunction, Value.isKind] using hfunction
    unfold Scope.inside
    split
    · exact absurd ‹_› hmodule
    · exact absurd ‹_› hclass
    · exact absurd ‹_› hdef.1
    · exact absurd ‹_› hdef.2
    · exact absurd ‹_› hlambda
    · cases s <;> rfl
  cases h with
  | nowhere => exact ⟨_, hinside, .hidden hmodule hclass hclimb⟩
  | file hfile =>
    refine ⟨_, hinside, .hidden hmodule hclass (hclimb.trans ?_)⟩
    simp [enclosingMethod, enclosingFunction, isFunction, Value.isKind, hfile]
  | members hpc _ _ =>
    refine ⟨_, hinside, .hidden hmodule hclass (hclimb.trans ?_)⟩
    simp [enclosingMethod, enclosingFunction, isFunction, Value.isKind, hpc]
  | inClass hpc _ =>
    refine ⟨_, hinside, .hidden hmodule hclass (hclimb.trans ?_)⟩
    simp [enclosingMethod, enclosingFunction, isFunction, Value.isKind, hpc]
  | hidden _ _ hnone => exact ⟨_, hinside, .hidden hmodule hclass (hclimb.trans hnone)⟩
  | method _ _ hmethod => exact ⟨_, hinside, .method hmodule hclass (hclimb.trans hmethod)⟩

/-- Once a node can be described, its children stand in the scope that it passes down. -/
theorem Stands.inside (h : Stands o.relativePath ancestors s) {ds : List Draft}
    (hd : s.drafts o node = .ok ds) :
    ∃ s', s.inside o.relativePath node = .ok s' ∧ Stands o.relativePath (node :: ancestors) s' := by
  by_cases hmodule : node.kind? = some .moduleRoot
  · exact ⟨.file, by unfold Scope.inside; rw [hmodule]; rfl, .file hmodule⟩
  by_cases hclass : node.kind? = some .classDef
  · exact h.inside_class hclass hd
  by_cases hfunction : isFunction node = true
  · exact h.inside_function hfunction hd
  by_cases hlambda : node.kind? = some .lambda
  · exact ⟨.hidden, by unfold Scope.inside; rw [hlambda]; rfl,
      .hidden hmodule hclass (enclosingMethod_lambda hlambda)⟩
  · exact h.inside_other (by simpa using hfunction) hclass hmodule hlambda

/-! ## The main result -/

theorem mapM_congr {α β ε : Type} {f g : α → Except ε β} {xs : List α} (h : ∀ x ∈ xs, f x = g x) :
    xs.mapM f = xs.mapM g := by
  induction xs with
  | nil => rfl
  | cons x rest ih =>
    rw [List.mapM_cons, List.mapM_cons, h x List.mem_cons_self,
      ih fun y hy => h y (List.mem_cons_of_mem x hy)]

theorem describeAll_flatMap {ε : Type} {d : Tree.Visit → Except ε (List Draft)}
    (below : Tree.Visit → List Tree.Visit) (vs : List Tree.Visit) :
    describeAll d (vs.flatMap below) =
      (do return (← vs.mapM fun v => describeAll d (below v)).flatten) := by
  induction vs with
  | nil => rfl
  | cons v rest ih =>
    rw [List.flatMap_cons, describeAll_append, ih, List.mapM_cons]
    simp

/-- What the visits below a node are described by is what its scope says. -/
theorem describeAll_preorder (v : Tree.Visit) (h : Stands o.relativePath v.ancestors s) :
    describeAll (describe o) (Tree.preorder v) = symbolsOf o s v.node := by
  induction v using Tree.preorder.induct generalizing s with
  | case1 v ih =>
    rw [Tree.preorder_eq, symbolsOf_eq]
    have hown : describe o v = s.drafts o v.node := h.describe_eq
    cases hd : s.drafts o v.node with
    | error f => exact describeAll_cons_error (hown.trans hd) _
    | ok own =>
      -- The node is described before what is below it, so the scope of its children is known.
      obtain ⟨inner, hinner, hstands⟩ := h.inside hd
      have hbelow : (v.children.mapM fun c => describeAll (describe o) (Tree.preorder c)) =
          (Tree.children v.node).mapM (symbolsOf o inner) := by
        rw [Tree.Visit.children, List.mapM_map]
        refine mapM_congr fun c hc => ?_
        exact ih ⟨⟨c, v.node :: v.ancestors⟩, List.mem_map.2 ⟨c, hc, rfl⟩⟩ hstands
      rw [describeAll_cons_ok (hown.trans hd), describeAll_flatMap, hinner, hbelow]
      simp only [bind, Except.bind]
      cases (Tree.children v.node).mapM (symbolsOf o inner) <;> rfl

theorem describeTree_eq_symbolsOf (o : Origin) (tree : Value) :
    describeTree o tree = symbolsOf o .hidden tree := by
  rw [describeTree_eq]
  exact describeAll_preorder (.ofRoot tree) .nowhere

/-- Extraction from a tree gives the records that the scopes say, numbered in order, and fails if a
node cannot be described. -/
theorem runIn_recordsOf_symbols (o : Origin) (tree : Value) (w : World) :
    match symbolsOf o .hidden tree with
    | .ok drafts => (recordsOf .symbols o tree).runIn w =
        (.ok (numberDrafts w.nextId drafts), { w with nextId := w.nextId + drafts.length })
    | .error _ => ∃ f w', (recordsOf .symbols o tree).runIn w = (.error f, w') := by
  have hdescribe : describeAll (Extractor.symbols.describe o) (Tree.visits tree) =
      (symbolsOf o .hidden tree).mapError .symbols := by
    rw [← describeTree_eq_symbolsOf, describeTree_eq]
    exact describeAll_mapError _ _
  cases hsymbols : symbolsOf o .hidden tree with
  | ok drafts =>
    rw [hsymbols] at hdescribe
    exact runIn_recordsOf hdescribe w
  | error f =>
    rw [hsymbols] at hdescribe
    exact runIn_recordsOf_error hdescribe w

/-- A constructor with a parameter `self` that assigns to `self.x`. -/
def assigningMethod : Value :=
  .node .functionDef
    [("name", .ofString "__init__"),
      ("args", .node .arguments [("posonlyargs", .list []),
        ("args", .list [.node .arg [("arg", .ofString "self")] []]), ("kwonlyargs", .list [])] []),
      ("body", .list [.node .assign [("targets", .list [.node .attributeRef
        [("value", .node .nameRef [("id", .ofString "self")] []), ("attr", .ofString "x")] []])]
        [("lineno", .int 3)]]),
      ("decorator_list", .list [])] [("lineno", .int 2)]

/-- A module with a class that has this constructor. -/
def assigningModule : Value :=
  .node .moduleRoot [("body", .list [.node .classDef
    [("name", .ofString "C"), ("bases", .list []), ("body", .list [assigningMethod]),
      ("decorator_list", .list [])] [("lineno", .int 1)]])] []

example : (symbolsOf { path := ⟨1, ["a.py"]⟩, relativePath := "a.py" } .hidden assigningModule).map
    (·.map Draft.longname) = .ok ["a.py", "a.py~C", "a.py~C#__init__", "a.py~C#x"] := by
  decide +kernel

end SourceDocs.Extraction
