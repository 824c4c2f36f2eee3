import SourceDocs.Source.Token
import SourceDocs.Value.Basic

/-!
# Building syntax trees

Nodes are built from the values of their fields in order.  A placed node carries the four attributes
that say where it begins and ends.
-/

namespace SourceDocs.Source

/-- The fields of a kind with their values; values left out are null. -/
def fieldsOf (kind : NodeKind) (values : List Value) : List (String × Value) :=
  kind.fields.zipIdx.map fun ((name, _), i) => (name, values.getD i .null)

/-- The attributes of a node from one place to another. -/
def span (start stop : Place) : List (String × Value) :=
  [("lineno", .int start.line), ("col_offset", .int start.column),
   ("end_lineno", .int stop.line), ("end_col_offset", .int stop.column)]

/-- A node from one place to another. -/
def placed (kind : NodeKind) (values : List Value) (start stop : Place) : Value :=
  .node kind (fieldsOf kind values) (span start stop)

/-- A node without a place. -/
def bare (kind : NodeKind) (values : List Value := []) : Value :=
  .node kind (fieldsOf kind values) []

/-- The line on which a placed node begins. -/
def lineOf (v : Value) : Nat :=
  match v.attribute? "lineno" with
  | some (.int n) => n.toNat
  | _ => 0

/-- The items of a list value. -/
def items : Value → List Value
  | .list xs => xs
  | _ => []

/-- The value of a field of a node, or null. -/
def fieldOf (v : Value) (name : String) : Value := (v.field? name).getD .null

/-- The items of a field of a node. -/
def itemsOf (v : Value) (name : String) : List Value := items (fieldOf v name)

mutual

/-- An expression as a target: the contexts of it and of the targets in it are replaced. -/
def withContext (context : NodeKind) : Value → Value
  | .node kind fields attributes =>
    match kind with
    | .nameRef | .attributeRef | .subscript =>
      .node kind (fieldsWithContext context false fields) attributes
    | .tuple | .list | .starred => .node kind (fieldsWithContext context true fields) attributes
    | _ => .node kind fields attributes
  | .list xs => .list (itemsWithContext context xs)
  | v => v

/-- Replaces the context among fields and, if `deep`, the contexts of the parts. -/
def fieldsWithContext (context : NodeKind) (deep : Bool) :
    List (String × Value) → List (String × Value)
  | [] => []
  | (name, v) :: rest =>
    let v' := if name = "ctx" then bare context else if deep then withContext context v else v
    (name, v') :: fieldsWithContext context deep rest

/-- Replaces the contexts of the items of a list. -/
def itemsWithContext (context : NodeKind) : List Value → List Value
  | [] => []
  | v :: rest => withContext context v :: itemsWithContext context rest

end

/-- The purposes for which an expression may be a target. -/
inductive TargetUse where
  | assignment
  | deletion
  | iteration
deriving DecidableEq

mutual

/-- The first part of an expression that cannot be a target. -/
def badTarget (use : TargetUse) : Value → Option Value
  | .node kind fields attributes =>
    match kind with
    | .list | .tuple => badTargetInFields use "elts" fields
    | .starred =>
      if use = .deletion then some (.node kind fields attributes)
      else badTargetInFields use "value" fields
    | .compare =>
      if use = .iteration then
        -- `a in b` has been read as a comparison
        match fields.lookup "ops" with
        | some (.list (.node .inOp _ _ :: _)) => badTargetInFields use "left" fields
        | _ => none
      else some (.node kind fields attributes)
    | .nameRef | .subscript | .attributeRef => none
    | _ => some (.node kind fields attributes)
  | .list xs => badTargetInItems use xs
  | _ => none

/-- The first bad target in a certain field. -/
def badTargetInFields (use : TargetUse) (field : String) : List (String × Value) → Option Value
  | [] => none
  | (name, v) :: rest =>
    if name = field then badTarget use v else badTargetInFields use field rest

/-- The first bad target in a list. -/
def badTargetInItems (use : TargetUse) : List Value → Option Value
  | [] => none
  | v :: rest => (badTarget use v).or (badTargetInItems use rest)

end

end SourceDocs.Source
