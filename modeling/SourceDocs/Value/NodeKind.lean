/-!
# Kinds of syntax tree nodes

The kinds of nodes in the syntax tree of a module, with the name, the fields in order, the fields
that may be left out and whether a node of the kind has a place in the source.
-/

namespace SourceDocs

/-- The kind of a syntax tree node. -/
inductive NodeKind where
  | moduleRoot | interactive | expression
  | functionDef | asyncFunctionDef | classDef | returnStmt | delete | assign | augAssign | annAssign
  | forStmt | asyncFor | whileStmt | ifStmt | withStmt | asyncWith | matchStmt | raise | tryStmt
  | tryStar | assert | importStmt | importFrom | global | nonlocal | expr | pass | breakStmt
  | continueStmt
  | boolOp | namedExpr | binOp | unaryOp | lambda | ifExp | dict | set | listComp | setComp
  | dictComp | generatorExp | await | yield | yieldFrom | compare | call | formattedValue
  | joinedStr | constant | attributeRef | subscript | starred | nameRef | list | tuple | slice
  | comprehension | exceptHandler | arguments | arg | keyword | importName | withItem | matchCase
  | matchValue | matchSingleton | matchSequence | matchMapping | matchClass | matchStar | matchAs
  | matchOr
  | load | store | del | andOp | orOp
  | add | sub | mult | matMult | div | mod | pow | lShift | rShift | bitOr | bitXor | bitAnd
  | floorDiv
  | invert | notOp | uAdd | uSub
  | eq | notEq | lt | ltE | gt | gtE | isOp | isNotOp | inOp | notInOp
deriving DecidableEq, Inhabited

namespace NodeKind

/-- The name of a kind in tree dumps and in messages. -/
def name : NodeKind → String
  | moduleRoot => "Module" | interactive => "Interactive" | expression => "Expression"
  | functionDef => "FunctionDef" | asyncFunctionDef => "AsyncFunctionDef" | classDef => "ClassDef"
  | returnStmt => "Return" | delete => "Delete" | assign => "Assign" | augAssign => "AugAssign"
  | annAssign => "AnnAssign" | forStmt => "For" | asyncFor => "AsyncFor" | whileStmt => "While"
  | ifStmt => "If" | withStmt => "With" | asyncWith => "AsyncWith" | matchStmt => "Match"
  | raise => "Raise" | tryStmt => "Try" | tryStar => "TryStar" | assert => "Assert"
  | importStmt => "Import" | importFrom => "ImportFrom" | global => "Global"
  | nonlocal => "Nonlocal" | expr => "Expr" | pass => "Pass" | breakStmt => "Break"
  | continueStmt => "Continue" | boolOp => "BoolOp" | namedExpr => "NamedExpr" | binOp => "BinOp"
  | unaryOp => "UnaryOp" | lambda => "Lambda" | ifExp => "IfExp" | dict => "Dict" | set => "Set"
  | listComp => "ListComp" | setComp => "SetComp" | dictComp => "DictComp"
  | generatorExp => "GeneratorExp" | await => "Await" | yield => "Yield" | yieldFrom => "YieldFrom"
  | compare => "Compare" | call => "Call" | formattedValue => "FormattedValue"
  | joinedStr => "JoinedStr" | constant => "Constant" | attributeRef => "Attribute"
  | subscript => "Subscript" | starred => "Starred" | nameRef => "Name" | list => "List"
  | tuple => "Tuple" | slice => "Slice" | comprehension => "comprehension"
  | exceptHandler => "ExceptHandler" | arguments => "arguments" | arg => "arg"
  | keyword => "keyword" | importName => "alias" | withItem => "withitem"
  | matchCase => "match_case"
  | matchValue => "MatchValue" | matchSingleton => "MatchSingleton"
  | matchSequence => "MatchSequence" | matchMapping => "MatchMapping" | matchClass => "MatchClass"
  | matchStar => "MatchStar" | matchAs => "MatchAs" | matchOr => "MatchOr"
  | load => "Load" | store => "Store" | del => "Del" | andOp => "And" | orOp => "Or" | add => "Add"
  | sub => "Sub" | mult => "Mult" | matMult => "MatMult" | div => "Div" | mod => "Mod"
  | pow => "Pow" | lShift => "LShift" | rShift => "RShift" | bitOr => "BitOr" | bitXor => "BitXor"
  | bitAnd => "BitAnd" | floorDiv => "FloorDiv" | invert => "Invert" | notOp => "Not"
  | uAdd => "UAdd" | uSub => "USub" | eq => "Eq" | notEq => "NotEq" | lt => "Lt" | ltE => "LtE"
  | gt => "Gt" | gtE => "GtE" | isOp => "Is" | isNotOp => "IsNot" | inOp => "In"
  | notInOp => "NotIn"

/-- All kinds, in the order of their declaration. -/
def all : List NodeKind :=
  [moduleRoot, interactive, expression, functionDef, asyncFunctionDef, classDef, returnStmt, delete,
   assign, augAssign, annAssign, forStmt, asyncFor, whileStmt, ifStmt, withStmt, asyncWith,
   matchStmt, raise, tryStmt, tryStar, assert, importStmt, importFrom, global, nonlocal, expr, pass,
   breakStmt, continueStmt, boolOp, namedExpr, binOp, unaryOp, lambda, ifExp, dict, set, listComp,
   setComp, dictComp, generatorExp, await, yield, yieldFrom, compare, call, formattedValue,
   joinedStr, constant, attributeRef, subscript, starred, nameRef, list, tuple, slice,
   comprehension, exceptHandler, arguments, arg, keyword, importName, withItem, matchCase,
   matchValue, matchSingleton, matchSequence, matchMapping, matchClass, matchStar, matchAs, matchOr,
   load, store, del, andOp, orOp, add, sub, mult, matMult, div, mod, pow, lShift, rShift, bitOr,
   bitXor, bitAnd, floorDiv, invert, notOp, uAdd, uSub, eq, notEq, lt, ltE, gt, gtE, isOp,
   isNotOp, inOp, notInOp]

/-- The kind with a name. -/
def ofName? (s : String) : Option NodeKind := all.find? fun k => k.name = s

/-- The fields of a kind in order; a field marked `true` may be left out and is then empty. -/
def fields : NodeKind → List (String × Bool)
  | moduleRoot => [("body", false), ("type_ignores", false)]
  | interactive => [("body", false)]
  | expression => [("body", false)]
  | functionDef | asyncFunctionDef =>
    [("name", false), ("args", false), ("body", false), ("decorator_list", false),
     ("returns", true), ("type_comment", true)]
  | classDef =>
    [("name", false), ("bases", false), ("keywords", false), ("body", false),
     ("decorator_list", false)]
  | returnStmt => [("value", true)]
  | delete => [("targets", false)]
  | assign => [("targets", false), ("value", false), ("type_comment", true)]
  | augAssign => [("target", false), ("op", false), ("value", false)]
  | annAssign => [("target", false), ("annotation", false), ("value", true), ("simple", false)]
  | forStmt | asyncFor =>
    [("target", false), ("iter", false), ("body", false), ("orelse", false), ("type_comment", true)]
  | whileStmt | ifStmt => [("test", false), ("body", false), ("orelse", false)]
  | withStmt | asyncWith => [("items", false), ("body", false), ("type_comment", true)]
  | matchStmt => [("subject", false), ("cases", false)]
  | raise => [("exc", true), ("cause", true)]
  | tryStmt | tryStar =>
    [("body", false), ("handlers", false), ("orelse", false), ("finalbody", false)]
  | assert => [("test", false), ("msg", true)]
  | importStmt => [("names", false)]
  | importFrom => [("module", true), ("names", false), ("level", true)]
  | global | nonlocal => [("names", false)]
  | expr => [("value", false)]
  | pass | breakStmt | continueStmt => []
  | boolOp => [("op", false), ("values", false)]
  | namedExpr => [("target", false), ("value", false)]
  | binOp => [("left", false), ("op", false), ("right", false)]
  | unaryOp => [("op", false), ("operand", false)]
  | lambda => [("args", false), ("body", false)]
  | ifExp => [("test", false), ("body", false), ("orelse", false)]
  | dict => [("keys", false), ("values", false)]
  | set => [("elts", false)]
  | listComp | setComp | generatorExp => [("elt", false), ("generators", false)]
  | dictComp => [("key", false), ("value", false), ("generators", false)]
  | await => [("value", false)]
  | yield => [("value", true)]
  | yieldFrom => [("value", false)]
  | compare => [("left", false), ("ops", false), ("comparators", false)]
  | call => [("func", false), ("args", false), ("keywords", false)]
  | formattedValue => [("value", false), ("conversion", false), ("format_spec", true)]
  | joinedStr => [("values", false)]
  | constant => [("value", false), ("kind", true)]
  | attributeRef => [("value", false), ("attr", false), ("ctx", false)]
  | subscript => [("value", false), ("slice", false), ("ctx", false)]
  | starred => [("value", false), ("ctx", false)]
  | nameRef => [("id", false), ("ctx", false)]
  | list | tuple => [("elts", false), ("ctx", false)]
  | slice => [("lower", true), ("upper", true), ("step", true)]
  | comprehension => [("target", false), ("iter", false), ("ifs", false), ("is_async", false)]
  | exceptHandler => [("type", true), ("name", true), ("body", false)]
  | arguments =>
    [("posonlyargs", false), ("args", false), ("vararg", true), ("kwonlyargs", false),
     ("kw_defaults", false), ("kwarg", true), ("defaults", false)]
  | arg => [("arg", false), ("annotation", true), ("type_comment", true)]
  | keyword => [("arg", true), ("value", false)]
  | importName => [("name", false), ("asname", true)]
  | withItem => [("context_expr", false), ("optional_vars", true)]
  | matchCase => [("pattern", false), ("guard", true), ("body", false)]
  | matchValue => [("value", false)]
  | matchSingleton => [("value", false)]
  | matchSequence => [("patterns", false)]
  | matchMapping => [("keys", false), ("patterns", false), ("rest", true)]
  | matchClass =>
    [("cls", false), ("patterns", false), ("kwd_attrs", false), ("kwd_patterns", false)]
  | matchStar => [("name", true)]
  | matchAs => [("pattern", true), ("name", true)]
  | matchOr => [("patterns", false)]
  | _ => []

/-- Whether nodes of a kind have a place in the source: statements, expressions, patterns and the
parts of them that are written out. -/
def isPlaced : NodeKind → Bool
  | moduleRoot | interactive | expression | comprehension | arguments | withItem
  | matchCase => false
  | load | store | del | andOp | orOp | add | sub | mult | matMult | div | mod | pow | lShift
  | rShift | bitOr | bitXor | bitAnd | floorDiv | invert | notOp | uAdd | uSub | eq | notEq | lt
  | ltE | gt | gtE | isOp | isNotOp | inOp | notInOp => false
  | _ => true

end NodeKind

end SourceDocs
