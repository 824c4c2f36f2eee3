import SourceDocs.Extraction.Parents
import SourceDocs.Path
import SourceDocs.Record.Basic
import SourceDocs.Source.Docstring
import SourceDocs.Source.Printer

/-!
# Symbols of a module

`describe` gives the records of one visited node: one for a module, a documented class or function,
and one for each name that an assignment binds in the scope of a module or a class, or for each
attribute that a method assigns to its receiver.  Classes and functions inside functions are not
documented.
-/

namespace SourceDocs.Extraction

open Source

/-- What is known about the file that symbols are taken from. -/
structure Origin where
  path : Path
  relativePath : Text
  packageName : Option Text := none
  mainPath : Option Path := none
deriving Inhabited

/-- Why a node cannot be described. -/
inductive Fault where
  /-- An expression has no source text. -/
  | unprintable (f : PrintFault)
  /-- The node lacks a field or an attribute. -/
  | incomplete (name : String)
deriving DecidableEq

/-- The source text of an expression. -/
def sourceOf (v : Value) : Except Fault Text := (printExpression v).mapError .unprintable

/-- A field or an attribute that a node must have. -/
def demand (v : Value) (name : String) : Except Fault Value :=
  match (v.field? name).or (v.attribute? name) with
  | some x => .ok x
  | none => .error (.incomplete name)

/-- The text of a field, written if it is no text. -/
def textOf (v : Value) (name : String) : Except Fault Text := do return (← demand v name).display

/-- The items of a field that a node must have. -/
def demandItems (v : Value) (name : String) : Except Fault (List Value) := do
  return items (← demand v name)

/-- The documentation of a node that must have a body. -/
def descriptionOf (v : Value) : Except Fault Value := do
  match ← demandItems v "body" with
  | first :: _ =>
    if first.isKind .expr then
      let _ ← demand first "value"
    return documentation v
  | [] => return .null

/-! ## Parts of nodes -/

/-- Who may use a symbol, by the underscores around its name. -/
def accessOf (name : Text) : Text :=
  let mark := Text.ofString "__"
  if mark.isPrefixOf name then if mark.isSuffixOf name then "public" else "private"
  else if (Text.ofChar '_').isPrefixOf name then "protected"
  else "public"

/-- The names of decorators; of a call, that of the called function. -/
def decoratorNames (v : Value) : Except Fault (List Text) := do
  (← demandItems v "decorator_list").mapM fun d =>
    sourceOf (if d.isKind .call then fieldOf d "func" else d)

/-- The name of a parameter. -/
def parameterName (v : Value) : Except Fault Text := textOf v "arg"

/-- The parameters that can be given by position. -/
def positionalParameters (args : Value) : Except Fault (List Value) := do
  return (← demandItems args "posonlyargs") ++ (← demandItems args "args")

/-- The names of all parameters, with stars before those that collect the rest. -/
def parameterNames (args : Value) : Except Fault (List Text) := do
  let starred (stars : String) (v : Value) : Except Fault (List Text) :=
    if v.isTruthy then do return [Text.ofString stars ++ (← parameterName v)] else pure []
  let positional ← (← positionalParameters args).mapM parameterName
  let collecting ← starred "*" (fieldOf args "vararg")
  let named ← (← demandItems args "kwonlyargs").mapM parameterName
  let collectingNamed ← starred "**" (fieldOf args "kwarg")
  return positional ++ collecting ++ named ++ collectingNamed

mutual

/-- The single targets in a target: tuples, lists and stars are opened. -/
def flatten : Value → List Value
  | .node kind fields attributes =>
    match kind with
    | .tuple | .list => flattenField "elts" fields
    | .starred => flattenField "value" fields
    | _ => [.node kind fields attributes]
  | .list xs => flattenItems xs
  | v => [v]

/-- The single targets in a field. -/
def flattenField (field : String) : List (String × Value) → List Value
  | [] => []
  | (name, v) :: rest => if name = field then flatten v else flattenField field rest

/-- The single targets in a list. -/
def flattenItems : List Value → List Value
  | [] => []
  | v :: rest => flatten v ++ flattenItems rest

end

/-- The names among targets. -/
def targetNames (targets : List Value) : Except Fault (List Text) :=
  ((flattenItems targets).filter fun v => v.isKind .nameRef).mapM fun v => textOf v "id"

/-! ## Scopes -/

/-- Whether a node is a function. -/
def isFunction (v : Value) : Bool := v.isKind .functionDef || v.isKind .asyncFunctionDef

/-- The long name of a class with so many ancestors: that of a class outside the module's scope is
unknown. -/
def classLongname (file : Text) (node : Value) : List Value → Except Fault (Option Text)
  | [] => .ok none
  | parent :: rest =>
    if parent.isKind .moduleRoot then do
      return some (file ++ Text.ofChar '~' ++ (← textOf node "name"))
    else if parent.isKind .classDef then do
      match ← classLongname file parent rest with
      | none => return none
      | some owner =>
        if owner.isEmpty then return none
        else return some (owner ++ Text.ofChar '.' ++ (← textOf node "name"))
    else .ok none

/-- The long name of what a class stands in. -/
def ownerLongname (file : Text) (ancestors : List Value) : Except Fault Text :=
  match ancestors with
  | parent :: rest =>
    if parent.isKind .classDef then do
      return ((← classLongname file parent rest).filter fun t => !t.isEmpty).getD file
    else .ok file
  | [] => .ok file

/-- The nearest function around a node and its ancestors, unless a class, a module or a lambda
expression stands between. -/
def enclosingFunction : List Value → Option (Value × List Value)
  | [] => none
  | v :: rest =>
    if isFunction v then some (v, rest)
    else if v.isKind .classDef || v.isKind .moduleRoot || v.isKind .lambda then none
    else enclosingFunction rest

/-- The method around a node and the long name of its class.  Static methods have no receiver. -/
def enclosingMethod (file : Text) (ancestors : List Value) : Except Fault (Option (Value × Text)) :=
  match enclosingFunction ancestors with
  | none => .ok none
  | some (func, outer) =>
    match outer with
    | [] => .ok none
    | cls :: rest =>
      if cls.isKind .classDef then do
        if (← decoratorNames func).any fun n => n.isString "staticmethod" then return none
        else return (← classLongname file cls rest).map fun owner => (func, owner)
      else .ok none

/-- The first parameter of a function. -/
def receiverName (func : Value) : Except Fault (Option Text) := do
  match ← positionalParameters (fieldOf func "args") with
  | [] => return none
  | p :: _ => return some (← parameterName p)

/-- Under what name the symbols of a file are imported. -/
def importPath (o : Origin) : Text :=
  match o.packageName with
  | none => o.relativePath
  | some package =>
    if package.isEmpty then o.relativePath
    else if o.mainPath = some o.path then package
    else package ++ Text.ofChar '/' ++ o.relativePath

/-! ## Records of nodes -/

/-- A record of a kind. -/
def draft (kind : String) (name longname : Text) (static : Bool) (payload : List (String × Value)) :
    Draft :=
  { kind := Text.ofString kind, name := name, longname := longname, static := static,
    access := accessOf name, payload := payload.map fun e => (Text.ofString e.1, e.2) }

/-- A list of texts as a value. -/
def textList (ts : List Text) : Value := .list (ts.map .text)

/-- The record of a module. -/
def describeModule (o : Origin) (node : Value) : Except Fault Draft := do
  let description ← descriptionOf node
  return draft "file" o.relativePath o.relativePath true [("description", description)]

/-- What is known about a class by itself. -/
def classFacts (node : Value) : Except Fault (List (String × Value)) := do
  let description ← descriptionOf node
  let line ← demand node "lineno"
  let bases ← (← demandItems node "bases").mapM sourceOf
  let decorators ← decoratorNames node
  return [("description", description), ("lineNumber", line), ("extends", textList bases),
    ("decorators", textList decorators)]

/-- The record of a class. -/
def describeClass (o : Origin) (v : Tree.Visit) : Except Fault (List Draft) := do
  let node := v.node
  match ← classLongname o.relativePath node v.ancestors with
  | none => return []
  | some longname =>
    let facts ← classFacts node
    let owner ← ownerLongname o.relativePath v.ancestors
    let exported := match v.parent? with
      | some p => if p.isKind .moduleRoot then [("importPath", Value.text (importPath o))] else []
      | none => []
    return [draft "class" (← textOf node "name") longname true
      (facts ++ [("memberof", .text owner)] ++ exported)]

/-- The decorators that make a function a readable attribute. -/
def getterDecorators : List String :=
  ["property", "cached_property", "functools.cached_property", "abc.abstractproperty",
   "abstractproperty"]

/-- The kind of a method: by its decorators, then by its name. -/
def methodKind (name : Text) (decorators : List Text) : String :=
  if decorators.any fun d => (Text.ofString ".setter").isSuffixOf d then "setter"
  else if decorators.any fun d => getterDecorators.any d.isString then "getter"
  else if name.isString "__init__" then "constructor"
  else "method"

/-- The decorators of a function, and what is known about it by itself. -/
def functionFacts (node : Value) : Except Fault (List Text × List (String × Value)) := do
  let decorators ← decoratorNames node
  let description ← descriptionOf node
  let line ← demand node "lineno"
  let params ← parameterNames (← demand node "args")
  let returns ← match fieldOf node "returns" with
    | .null => pure []
    | r => do pure [("return", Value.text (← sourceOf r))]
  return (decorators, [("description", description), ("lineNumber", line),
    ("params", textList params), ("async", .bool (node.isKind .asyncFunctionDef)),
    ("decorators", textList decorators)] ++ returns)

/-- The record of a function or a method. -/
def describeFunction (o : Origin) (v : Tree.Visit) : Except Fault (List Draft) := do
  let node := v.node
  let (decorators, facts) ← functionFacts node
  match v.ancestors with
  | [] => return []
  | parent :: rest =>
    if parent.isKind .moduleRoot then
      let name ← textOf node "name"
      return [draft "function" name (o.relativePath ++ Text.ofChar '~' ++ name) true
        (facts ++ [("importPath", .text (importPath o)), ("memberof", .text o.relativePath)])]
    else if parent.isKind .classDef then
      match ← classLongname o.relativePath parent rest with
      | none => return []
      | some owner =>
        if decorators.any fun d => (Text.ofString ".deleter").isSuffixOf d then return []
        else
          let static :=
            decorators.any fun d => d.isString "staticmethod" || d.isString "classmethod"
          let name ← textOf node "name"
          let separator : Text := if static then "." else "#"
          return [draft (methodKind name decorators) name (owner ++ separator ++ name) static
            (facts ++ [("memberof", .text owner)])]
    else return []

/-- Whether an assignment only declares attributes of instances: it has an annotation that does not
mention `ClassVar`, and no value. -/
def declaresInstanceAttribute (node : Value) : Except Fault Bool :=
  if node.isKind .annAssign then
    match fieldOf node "value" with
    | .null => do return !Text.contains (← sourceOf (fieldOf node "annotation")) "ClassVar"
    | _ => .ok false
  else .ok false

/-- The attributes of a receiver among targets. -/
def receiverAttributes (receiver : Text) (targets : List Value) : Except Fault (List Text) :=
  let isReceivers (v : Value) : Bool :=
    v.isKind .attributeRef &&
      let base := fieldOf v "value"
      base.isKind .nameRef && match base.field? "id" with
        | some (.text t) => t = receiver
        | _ => false
  ((flattenItems targets).filter isReceivers).mapM fun v => textOf v "attr"

/-- The targets of an assignment, and what is known about it by itself. -/
def assignmentFacts (node : Value) : Except Fault (List Value × List (String × Value)) := do
  let targets ← if node.isKind .assign then do pure (items (← demand node "targets"))
    else do pure [← demand node "target"]
  let line ← demand node "lineno"
  let annotation ← if node.isKind .annAssign then do
      pure [("type", Value.text (← sourceOf (← demand node "annotation")))]
    else pure []
  return (targets, ("lineNumber", line) :: annotation)

/-- The records of an assignment. -/
def describeAssignment (o : Origin) (v : Tree.Visit) : Except Fault (List Draft) := do
  let node := v.node
  let (targets, facts) ← assignmentFacts node
  let memberOf (owner separator : Text) (static : Bool) (name : Text) : Draft :=
    draft "member" name (owner ++ separator ++ name) static (facts ++ [("memberof", .text owner)])
  let file := o.relativePath
  match v.ancestors with
  | [] => return []
  | parent :: rest =>
    if parent.isKind .moduleRoot then
      return (← targetNames targets).map fun name =>
        draft "variable" name (file ++ Text.ofChar '~' ++ name) true
          (facts ++ [("memberof", .text file), ("importPath", .text (importPath o))])
    else if parent.isKind .classDef then
      match ← classLongname file parent rest with
      | none => return []
      | some owner =>
        let static := !(← declaresInstanceAttribute node)
        let separator : Text := if static then "." else "#"
        return (← targetNames targets).map (memberOf owner separator static)
    else
      match ← enclosingMethod file (parent :: rest) with
      | none => return []
      | some (func, owner) =>
        match ← receiverName func with
        | none => return []
        | some receiver =>
          return (← receiverAttributes receiver targets).map (memberOf owner "#" false)

/-- The records of a visited node. -/
def describe (o : Origin) (v : Tree.Visit) : Except Fault (List Draft) :=
  match v.node.kind? with
  | some .moduleRoot => do return [← describeModule o v.node]
  | some .classDef => describeClass o v
  | some .functionDef | some .asyncFunctionDef => describeFunction o v
  | some .assign | some .annAssign => describeAssignment o v
  | _ => .ok []

/-- The records of a tree, or why one of its nodes cannot be described.  Of every node that is
shown, the parent is noted first. -/
def describeTree (o : Origin) (tree : Value) : Except Fault (List Draft) :=
  let push (n : Tree.Node) (parent : Option Tree.Node) :
      StateT (Parents × List Draft) (Except Fault) Unit := do
    modify fun s => (s.1.note n parent, s.2)
    let s ← get
    let drafts ← (describe o (s.1.visit n) : Except Fault (List Draft))
    set (s.1, s.2 ++ drafts)
  ((Tree.traverse tree push).run ([], [])).map fun r => r.2.2

end SourceDocs.Extraction
