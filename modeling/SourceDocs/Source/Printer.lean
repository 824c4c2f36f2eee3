import SourceDocs.Json.Scalar
import SourceDocs.Source.Tree
import SourceDocs.Value.Written

/-!
# Expressions as source text

`printExpression` writes the tree of an expression as source text.  Operands are put in brackets
where they bind less tightly than their place demands.
-/

namespace SourceDocs.Source

/-- Why an expression has no source text. -/
inductive PrintFault where
  /-- A replacement field would need a backslash. -/
  | backslash
  /-- A replacement field has an unknown conversion. -/
  | conversion
  /-- A part of a formatted string is no text. -/
  | piece
  /-- An integer has too many digits. -/
  | digits
  /-- An operator stands in an operation that does not know it. -/
  | operator
  /-- A node lacks a field, or has one of the wrong kind. -/
  | shape
deriving DecidableEq

/-! ## How tightly operators bind -/

/-- Ranks of expressions, from the loosest to the tightest. -/
inductive Rank where
  | named | tuple | yield | test | or | and | not | comparison | bitOr | bitXor | bitAnd | shift
  | sum | term | factor | power | await | atom
deriving DecidableEq

/-- The rank one tighter than another. -/
def Rank.next : Rank → Rank
  | .named => .tuple | .tuple => .yield | .yield => .test | .test => .or | .or => .and
  | .and => .not | .not => .comparison | .comparison => .bitOr | .bitOr => .bitXor
  | .bitXor => .bitAnd | .bitAnd => .shift | .shift => .sum | .sum => .term | .term => .factor
  | .factor => .power | .power => .await | .await => .atom | .atom => .atom

/-- The operator of a binary operation and its rank. -/
def binaryOperator : NodeKind → Option (String × Rank)
  | .add => some ("+", .sum)
  | .sub => some ("-", .sum)
  | .mult => some ("*", .term)
  | .matMult => some ("@", .term)
  | .div => some ("/", .term)
  | .mod => some ("%", .term)
  | .floorDiv => some ("//", .term)
  | .lShift => some ("<<", .shift)
  | .rShift => some (">>", .shift)
  | .bitOr => some ("|", .bitOr)
  | .bitXor => some ("^", .bitXor)
  | .bitAnd => some ("&", .bitAnd)
  | .pow => some ("**", .power)
  | _ => none

/-- The operator of a unary operation and its rank. -/
def unaryOperator : NodeKind → Option (String × Rank)
  | .invert => some ("~", .factor)
  | .notOp => some ("not ", .not)
  | .uAdd => some ("+", .factor)
  | .uSub => some ("-", .factor)
  | _ => none

/-- The word of a junction of conditions and its rank. -/
def junction : NodeKind → Option (String × Rank)
  | .orOp => some ("or", .or)
  | .andOp => some ("and", .and)
  | _ => none

/-- The operator of a comparison. -/
def comparisonWord : NodeKind → Option String
  | .eq => some "==" | .notEq => some "!=" | .lt => some "<" | .ltE => some "<=" | .gt => some ">"
  | .gtE => some ">=" | .isOp => some "is" | .isNotOp => some "is not" | .inOp => some "in"
  | .notInOp => some "not in" | _ => none

/-- Puts a text in brackets if its place demands a tighter rank. -/
def bracketIf (place rank : Rank) (t : Text) : Text :=
  if rank.ctorIdx < place.ctorIdx then "(" ++ t ++ ")" else t

/-! ## Quotes -/

/-- The quotes a string can stand in, the preferred ones first. -/
def allQuotes : List String := ["'", "\"", "\"\"\"", "'''"]

/-- A text escaped for a string literal, and the quotes it can stand in.  Line ends and tabs are
escaped only if `escapeBlank`. -/
def quotable (quotes : List String) (escapeBlank : Bool) (t : Text) : Text × List String :=
  let keep (c : CodePoint) : Bool := !escapeBlank && (c.toChar = '\n' || c.toChar = '\t')
  let escaped := t.flatMap fun c => if keep c then [c] else Quoted.escape '\\' c
  let possible := if escaped.any (· = CodePoint.ofChar '\n') then
    quotes.filter (·.length = 3) else quotes
  let possible := possible.filter fun q => !Text.contains escaped (Text.ofString q)
  match possible with
  | [] =>
    -- no quotes fit: escape them
    let written := Quoted.text t
    let first := (written.head?.map CodePoint.toChar).getD '\''
    let quote := (quotes.find? fun q => q.toList.contains first).getD (String.ofList [first])
    ((written.drop 1).dropLast, [quote])
  | _ =>
    match escaped.getLast? with
    | none => (escaped, possible)
    | some last =>
      let clashes (q : String) : Bool := q.toList.head? = some last.toChar
      let sorted := possible.filter (fun q => !clashes q) ++ possible.filter clashes
      if (sorted.head?.map clashes).getD false then
        (escaped.dropLast ++ Text.ofChar '\\' ++ [last], sorted)
      else (escaped, sorted)

/-- A text in the preferred quotes, with as few backslashes as possible. -/
def quoteWithoutBackslash (t : Text) : Text :=
  let (body, quotes) := quotable allQuotes false t
  let quote := Text.ofString (quotes.headD "'")
  quote ++ body ++ quote

/-! ## Expressions -/

/-- The text of a float whose infinities are written as numbers out of range. -/
def floatText (t : Text) : Text :=
  let s := t.map CodePoint.toChar
  let rec go : Nat → List Char → List Char
    | 0, cs => cs
    | _, [] => []
    | fuel + 1, 'i' :: 'n' :: 'f' :: rest => "1e309".toList ++ go fuel rest
    | fuel + 1, 'n' :: 'a' :: 'n' :: rest => "(1e309-1e309)".toList ++ go fuel rest
    | fuel + 1, c :: rest => c :: go fuel rest
  (go (s.length + 1) s).map CodePoint.ofChar

/-- The text of a constant. -/
def constantText (avoidBackslash : Bool) (v : Value) : Except PrintFault Text :=
  match v with
  | .float _ | .complex _ _ => .ok (floatText v.written)
  | .text t => .ok (if avoidBackslash then quoteWithoutBackslash t else v.written)
  | .int n =>
    if Json.digitLimit < (Text.ofNat n.natAbs).length then .error .digits else .ok v.written
  | _ => .ok v.written

/-- Items with commas between them, and one behind a single item. -/
def itemsView (items : List Text) : Text :=
  match items with
  | [one] => one ++ Text.ofChar ','
  | _ => Text.join ", " items

/-- Whether a node is a constant number, which a dot may not follow directly. -/
def isIntegerConstant (v : Value) : Bool :=
  v.isKind .constant && match v.field? "value" with
    | some (.int _) | some (.bool _) => true
    | _ => false

/-- A field that holds a text. -/
def textField (v : Value) (name : String) : Except PrintFault Text :=
  match v.field? name with
  | some (.text t) => .ok t
  | _ => .error .shape

/-- The items of a field that a node must have. -/
def listField (v : Value) (name : String) : Except PrintFault (List Value) :=
  match v.field? name with
  | some (.list xs) | some (.tuple xs) => .ok xs
  | _ => .error .shape

/-- A printer of nodes at a place. -/
abbrev NodePrinter := Rank → Value → Except PrintFault Text

/-- Prints an optional part behind a text. -/
def printAfter (p : NodePrinter) (lead : String) (v : Value) : Except PrintFault Text :=
  match v with
  | .null => .ok []
  | v => do return lead ++ (← p .test v)

/-- A parameter with its annotation. -/
def printParameter (p : NodePrinter) (v : Value) : Except PrintFault Text := do
  let name ← textField v "arg"
  return name ++ (← printAfter p ": " (fieldOf v "annotation"))

/-- Parameters in order. -/
def printParameters (p : NodePrinter) (v : Value) : Except PrintFault Text := do
  let byPosition ← listField v "posonlyargs"
  let positional := byPosition ++ (← listField v "args")
  let given ← listField v "defaults"
  let defaults := List.replicate (positional.length - given.length) Value.null ++ given
  let plain ← (positional.zip defaults).zipIdx.mapM fun ((a, d), i) => do
    let text := (← printParameter p a) ++ (← printAfter p "=" d)
    return if i + 1 = byPosition.length then text ++ Text.ofString ", /" else text
  let collecting := fieldOf v "vararg"
  let named ← listField v "kwonlyargs"
  let star ← match collecting with
    | .null => pure (if named.isEmpty then [] else [Text.ofChar '*'])
    | a => do pure [Text.ofChar '*' ++ (← printParameter p a)]
  let defaults ← if named.isEmpty then pure [] else listField v "kw_defaults"
  let byName ← (named.zip defaults).mapM fun (a, d) => do
    return (← printParameter p a) ++ (← printAfter p "=" d)
  let rest ← match fieldOf v "kwarg" with
    | .null => pure []
    | a => do pure [Text.ofString "**" ++ (← printParameter p a)]
  return Text.join ", " (plain ++ star ++ byName ++ rest)

/-- The loops of a comprehension. -/
def printLoops (p : NodePrinter) (loops : List Value) : Except PrintFault Text := do
  let texts ← loops.mapM fun l => do
    let isAsync ← match l.field? "is_async" with
      | some mark => pure mark.isTruthy
      | none => .error .shape
    let target ← p .tuple (fieldOf l "target")
    let iter ← p .or (fieldOf l "iter")
    let ifs ← (← listField l "ifs").mapM fun c => do return Text.ofString " if " ++ (← p .or c)
    let lead : Text := if isAsync then " async for " else " for "
    return lead ++ target ++ Text.ofString " in " ++ iter ++ ifs.flatten
  return texts.flatten

/-- Prints the operands of a boolean operator, each at a tighter place than the one before. -/
def printRising (p : NodePrinter) : Rank → List Value → Except PrintFault (List Text)
  | _, [] => .ok []
  | rank, v :: rest => do
    let t ← p rank.next v
    return t :: (← printRising p rank.next rest)

/-- The parts of a formatted string as they stand between its quotes, before escaping.  `inner`
prints expressions without backslashes, `format` the parts of a format. -/
def printPart (inner : NodePrinter) (format : Value → Except PrintFault Text) (v : Value) :
    Except PrintFault Text :=
  match v.kind? with
  | some .constant =>
    match v.field? "value" with
    | some (.text t) =>
      .ok (t.flatMap fun c =>
        if c.toChar = '\x7b' || c.toChar = '\x7d' then [c, c] else [c])
    | _ => .error .piece
  | some .formattedValue => do
    let t ← inner .or (fieldOf v "value")
    if t.any (· = CodePoint.ofChar '\\') then .error .backslash
    let gap : Text := if t.head? = some (CodePoint.ofChar '\x7b') then " " else []
    let conversion : Text ← match v.field? "conversion" with
      | some (.int (-1)) => pure []
      | some (.int n) =>
        if n = 115 ∨ n = 114 ∨ n = 97 then
          pure (Text.ofString (String.ofList ['!', Char.ofNat n.toNat]))
        else .error .conversion
      | _ => .error .shape
    let spec : Text ← match fieldOf v "format_spec" with
      | .null => pure []
      | f => do pure (Text.ofChar ':' ++ (← format f))
    return Text.ofChar '\x7b' ++ gap ++ t ++ conversion ++ spec ++ Text.ofChar '\x7d'
  | some .joinedStr => format v
  | _ => .error .shape

/-- The parts of a format, nested at most so deep. -/
def printFormat (inner : NodePrinter) : Nat → Value → Except PrintFault Text
  | 0, _ => .error .shape
  | depth + 1, v =>
    match v.kind? with
    | some .joinedStr => do
      let parts ← listField v "values"
      return (← parts.mapM (printPart inner (printFormat inner depth))).flatten
    | _ => printPart inner (printFormat inner depth) v

/-- A formatted string. -/
def printFormatted (inner : NodePrinter) (depth : Nat) (avoidBackslash : Bool)
    (parts : List Value) :
    Except PrintFault Text := do
  let texts ← parts.mapM fun v => do
    return (← printPart inner (printFormat inner depth) v, v.isKind .constant)
  if avoidBackslash then
    return Text.ofChar 'f' ++ quoteWithoutBackslash (texts.map Prod.fst).flatten
  else
    let (body, quotes) := texts.foldl (fun (done, quotes) (t, isConstant) =>
      let (t, quotes) := quotable quotes isConstant t
      (done ++ t, quotes)) (([] : Text), allQuotes)
    let quote := Text.ofString (quotes.headD "'")
    return Text.ofChar 'f' ++ quote ++ body ++ quote

/-- Prints a node whose parts are printed by `p`; `inner` prints without backslashes. -/
def printNode (p inner : NodePrinter) (depth : Nat) (avoidBackslash : Bool) (place : Rank)
    (v : Value) :
    Except PrintFault Text := do
  let part (name : String) : Value := fieldOf v name
  let parts (name : String) : Except PrintFault (List Value) := listField v name
  let commaParts (name : String) : Except PrintFault Text := do
    return Text.join ", " (← (← parts name).mapM (p .test))
  match v.kind? with
  | some .nameRef => textField v "id"
  | some .attributeRef =>
    let value := part "value"
    let gap : Text := if isIntegerConstant value then " " else []
    return (← p .atom value) ++ gap ++ Text.ofChar '.' ++ (← textField v "attr")
  | some .call =>
    let func ← p .atom (part "func")
    let args ← ((← parts "args") ++ (← parts "keywords")).mapM (p .test)
    return func ++ Text.ofChar '(' ++ Text.join ", " args ++ Text.ofChar ')'
  | some .keyword =>
    let value ← p .test (part "value")
    match part "arg" with
    | .text t => return t ++ Text.ofChar '=' ++ value
    | _ => return Text.ofString "**" ++ value
  | some .subscript =>
    let value ← p .atom (part "value")
    let slice := part "slice"
    let items ← if slice.isKind .tuple then listField slice "elts" else pure []
    let index ← if items.isEmpty then p .test slice
      else do pure (itemsView (← items.mapM (p .test)))
    return value ++ Text.ofChar '[' ++ index ++ Text.ofChar ']'
  | some .starred => return Text.ofChar '*' ++ (← p .bitOr (part "value"))
  | some .slice =>
    let lower ← printAfter p "" (part "lower")
    let upper ← printAfter p "" (part "upper")
    let step ← printAfter p ":" (part "step")
    return lower ++ Text.ofChar ':' ++ upper ++ step
  | some .constant =>
    match part "value" with
    | .tuple items =>
      let texts ← items.mapM (constantText avoidBackslash)
      return Text.ofChar '(' ++ itemsView texts ++ Text.ofChar ')'
    | value =>
      let mark : Text := match part "kind" with
        | .text k => if k.isString "u" then "u" else []
        | _ => []
      match value with
      | .ellipsis => return "..."
      | _ => return mark ++ (← constantText avoidBackslash value)
  | some .joinedStr => printFormatted inner depth avoidBackslash (← parts "values")
  | some .formattedValue => return Text.ofChar 'f' ++ Quoted.text (← printFormat inner depth v)
  | some .list => return Text.ofChar '[' ++ (← commaParts "elts") ++ Text.ofChar ']'
  | some .tuple =>
    let items ← (← parts "elts").mapM (p .test)
    return if items.isEmpty then "()" else bracketIf place .tuple (itemsView items)
  | some .set =>
    if (← parts "elts").isEmpty then return "\x7b*()\x7d"
    else return Text.ofChar '\x7b' ++ (← commaParts "elts") ++ Text.ofChar '\x7d'
  | some .dict =>
    let entries ← ((← parts "keys").zip (← parts "values")).mapM fun (k, x) => do
      match k with
      | .null => return Text.ofString "**" ++ (← p .bitOr x)
      | k => return (← p .test k) ++ Text.ofString ": " ++ (← p .test x)
    return Text.ofChar '\x7b' ++ Text.join ", " entries ++ Text.ofChar '\x7d'
  | some .listComp =>
    return Text.ofChar '[' ++ (← p .test (part "elt")) ++ (← printLoops p (← parts "generators"))
      ++ Text.ofChar ']'
  | some .generatorExp =>
    return Text.ofChar '(' ++ (← p .test (part "elt")) ++ (← printLoops p (← parts "generators"))
      ++ Text.ofChar ')'
  | some .setComp =>
    return Text.ofChar '\x7b' ++ (← p .test (part "elt")) ++ (← printLoops p (← parts "generators"))
      ++ Text.ofChar '\x7d'
  | some .dictComp =>
    return Text.ofChar '\x7b' ++ (← p .test (part "key")) ++ Text.ofString ": "
      ++ (← p .test (part "value")) ++ (← printLoops p (← parts "generators")) ++ Text.ofChar '\x7d'
  | some .ifExp =>
    let body ← p .or (part "body")
    let test ← p .or (part "test")
    let orelse ← p .test (part "orelse")
    return bracketIf place .test
      (body ++ Text.ofString " if " ++ test ++ Text.ofString " else " ++ orelse)
  | some .lambda =>
    let params ← printParameters p (part "args")
    let lead : Text := if params.isEmpty then [] else " "
    let body ← p .test (part "body")
    return bracketIf place .test
      (Text.ofString "lambda" ++ lead ++ params ++ Text.ofString ": " ++ body)
  | some .unaryOp =>
    match (part "op").kind?.bind unaryOperator with
    | some (word, rank) =>
      return bracketIf place rank (Text.ofString word ++ (← p rank (part "operand")))
    | none => .error .operator
  | some .binOp =>
    match (part "op").kind?.bind binaryOperator with
    | some (word, rank) =>
      let groupsRight : Bool := rank = .power
      let left ← p (if groupsRight then rank.next else rank) (part "left")
      let right ← p (if groupsRight then rank else rank.next) (part "right")
      return bracketIf place rank (left ++ Text.ofString (" " ++ word ++ " ") ++ right)
    | none => .error .operator
  | some .compare =>
    let left ← p .bitOr (part "left")
    let rest ← ((← parts "ops").zip (← parts "comparators")).mapM fun (op, x) => do
      match op.kind?.bind comparisonWord with
      | some word => return Text.ofString (" " ++ word ++ " ") ++ (← p .bitOr x)
      | none => .error .operator
    return bracketIf place .comparison (left ++ rest.flatten)
  | some .boolOp =>
    match (part "op").kind?.bind junction with
    | some (word, rank) =>
      let operands ← printRising p rank (← parts "values")
      return bracketIf place rank (Text.join (Text.ofString (" " ++ word ++ " ")) operands)
    | none => .error .operator
  | some .await =>
    return bracketIf place .await (Text.ofString "await " ++ (← p .atom (part "value")))
  | some .yield =>
    let value ← match part "value" with
      | .null => pure []
      | x => do pure (Text.ofChar ' ' ++ (← p .atom x))
    return bracketIf place .yield (Text.ofString "yield" ++ value)
  | some .yieldFrom =>
    return bracketIf place .yield (Text.ofString "yield from " ++ (← p .atom (part "value")))
  | some .namedExpr =>
    let target ← p .atom (part "target")
    let value ← p .atom (part "value")
    return bracketIf place .named (target ++ Text.ofString " := " ++ value)
  | some .arguments => printParameters p v
  | some .arg => printParameter p v
  | _ => .error .shape

/-- Prints an expression that nests at most so deep. -/
def printDepth : Nat → Bool → NodePrinter
  | 0, _ => fun _ _ => .error .shape
  | depth + 1, avoidBackslash =>
    printNode (printDepth depth avoidBackslash) (printDepth depth true) depth avoidBackslash

mutual

/-- How deep a value nests. -/
def depthOf : Value → Nat
  | .list xs => 1 + depthOfItems xs
  | .tuple xs => 1 + depthOfItems xs
  | .node _ fields _ => 1 + depthOfFields fields
  | _ => 1

/-- How deep the items of a list nest. -/
def depthOfItems : List Value → Nat
  | [] => 0
  | v :: rest => max (depthOf v) (depthOfItems rest)

/-- How deep the fields of a node nest. -/
def depthOfFields : List (String × Value) → Nat
  | [] => 0
  | (_, v) :: rest => max (depthOf v) (depthOfFields rest)

end

/-- The source text of an expression. -/
def printExpression (v : Value) : Except PrintFault Text := printDepth (depthOf v + 1) false .test v

end SourceDocs.Source
