import SourceDocs.Source.Grammar.Parameters

/-!
# Expressions

Expressions from the loosest operators to the tightest: named and conditional expressions, lambda
expressions, boolean operators, comparisons, bitwise and arithmetic operators, attributes, calls and
subscripts.
-/

namespace SourceDocs.Source.Parser

/-! ## Sequences of expressions -/

/-- An expression that may be starred. -/
def starExpression (g : Grammar) : Parser Value :=
  firstOf
    [spanning .starred do
       let _ ← word .star
       let v ← g.call .bitwiseOr
       return [v, bare .load],
     g.call .expression]

/-- Expressions that may be starred; several of them are a tuple. -/
def starExpressions (g : Grammar) : Parser Value := tupleOf .load (g.call .starExpression)

/-- Expressions; several of them are a tuple. -/
def expressions (g : Grammar) : Parser Value := tupleOf .load (g.call .expression)

/-- An item of a display: a named expression that may be starred. -/
def starNamedExpression (g : Grammar) : Parser Value :=
  firstOf
    [spanning .starred do
       let _ ← word .star
       let v ← g.call .bitwiseOr
       return [v, bare .load],
     g.call .namedExpression]

/-- Items of a display. -/
def starNamedExpressions (g : Grammar) : Parser (List Value) := commaList (starNamedExpression g)

/-- A starred argument. -/
def starredExpression (g : Grammar) : Parser Value :=
  spanning .starred do
    let _ ← word .star
    let v ← g.call .expression
    return [v, bare .load]

/-- A name and the value it takes. -/
def assignmentExpression (g : Grammar) : Parser Value :=
  spanning .namedExpr do
    let target ← nameIn .store
    let _ ← word .walrus
    let v ← g.call .expression
    return [target, v]

/-- An expression that does not stand before `:=`. -/
def unnamedExpression (g : Grammar) : Parser Value := do
  let v ← g.call .expression
  notAheadWord [.walrus]
  return v

/-- An expression that may be given a name. -/
def namedExpression (g : Grammar) : Parser Value :=
  firstOf
    [assignmentExpression g, diagnosis (g.call .badNamedExpression), unnamedExpression g]

/-- Mistakes around `:=` and `=`. -/
def badNamedExpression (g : Grammar) : Parser Value :=
  firstOf
    [do
       let v ← g.call .expression
       let _ ← word .walrus
       let _ ← g.call .expression
       faultAtNode v "cannot use assignment expressions with expression",
     do
       let t ← name
       let _ ← word .equals
       let _ ← g.call .bitwiseOr
       notAheadWord [.equals, .walrus]
       faultAtToken t "invalid syntax. Maybe you meant '==' or ':=' instead of '='?",
     do
       notAhead (firstOf
         [do let _ ← g.call .list,
          do let _ ← g.call .tuple,
          do let _ ← g.call .generator,
          do let _ ← anyWord [.kTrue, .kNone, .kFalse]])
       let v ← g.call .bitwiseOr
       let _ ← word .equals
       let _ ← g.call .bitwiseOr
       notAheadWord [.equals, .walrus]
       faultAtNode v "cannot assign to expression here. Maybe you meant '==' instead of '='?"]

/-! ## Conditional and lambda expressions -/

/-- A conditional expression. -/
def conditional (g : Grammar) : Parser Value :=
  spanning .ifExp do
    let body ← g.call .disjunction
    let _ ← word .kIf
    let test ← g.call .disjunction
    let _ ← word .kElse
    let orelse ← g.call .expression
    return [test, body, orelse]

/-- A lambda expression. -/
def lambdaExpression (g : Grammar) : Parser Value :=
  spanning .lambda do
    let _ ← word .kLambda
    let params ← optional (parameters g .lambda)
    let _ ← word .colon
    let body ← g.call .expression
    return [params.getD noParameters, body]

/-- An expression read without descriptions of mistakes. -/
def plainExpression (g : Grammar) : Parser Value :=
  withoutDiagnosis (firstOf [conditional g, g.call .disjunction, g.call .lambda])

/-- Whether an expression is the name of a former statement. -/
def isFormerStatement (v : Value) : Bool :=
  match v.kind?, v.field? "id" with
  | some .nameRef, some (.text t) => t.isString "print" || t.isString "exec"
  | _, _ => false

/-- Two expressions side by side, or a condition without alternative. -/
def badExpression (g : Grammar) : Parser Value :=
  firstOf
    [do
       notAhead (firstOf
         [do
            let _ ← name
            let _ ← ofKind .string,
          do let _ ← anyWord [.underscore, .softCase, .softMatch]])
       let a ← g.call .disjunction
       let _ ← plainExpression g
       let t ← previous
       if isFormerStatement a || t.depth = 0 then fail
       else faultAtNode a "invalid syntax. Perhaps you forgot a comma?",
     do
       let a ← g.call .disjunction
       let _ ← word .kIf
       let _ ← g.call .disjunction
       notAheadWord [.kElse, .colon]
       faultAtNode a "expected 'else' after 'if' expression"]

/-- A former statement, written without brackets. -/
def badFormerStatement (g : Grammar) : Parser Value := do
  let a ← nameIn .load
  notAheadWord [.openParen]
  let _ ← g.call .starExpressions
  if isFormerStatement a then faultAtNode a "Missing parentheses in call" else fail

/-- An expression. -/
def expression (g : Grammar) : Parser Value :=
  firstOf
    [diagnosis (badExpression g), diagnosis (badFormerStatement g), conditional g,
     g.call .disjunction, g.call .lambda]

/-- A yield expression. -/
def yieldExpression (g : Grammar) : Parser Value :=
  firstOf
    [spanning .yieldFrom do
       let _ ← word .kYield
       let _ ← word .kFrom
       return [← g.call .expression],
     spanning .yield do
       let _ ← word .kYield
       return [← orNull (g.call .starExpressions)]]

/-- A yield expression or expressions that may be starred. -/
def yieldOrStar (g : Grammar) : Parser Value := firstOf [yieldExpression g, g.call .starExpressions]

/-! ## Boolean operators and comparisons -/

/-- Operands of one boolean operator. -/
def booleanOperation (operator : Word) (kind : NodeKind) (operand : Parser Value) :
    Parser Value := do
  let start ← startPlace
  let first ← operand
  let rest ← many (do let _ ← word operator; operand)
  if rest.isEmpty then return first
  else return placed .boolOp [bare kind, .list (first :: rest)] start (← stopPlace)

/-- Operands of `or`. -/
def disjunction (g : Grammar) : Parser Value := booleanOperation .kOr .orOp (g.call .conjunction)

/-- Operands of `and`. -/
def conjunction (g : Grammar) : Parser Value := booleanOperation .kAnd .andOp (g.call .inversion)

/-- A negated operand. -/
def inversion (g : Grammar) : Parser Value :=
  firstOf
    [spanning .unaryOp do
       let _ ← word .kNot
       return [bare .notOp, ← g.call .inversion],
     g.call .comparison]

/-- A comparison operator. -/
def comparisonOperator : Parser NodeKind :=
  let single (w : Word) (k : NodeKind) : Parser NodeKind := do
    let _ ← word w
    return k
  firstOf
    [single .equal .eq, single .notEqual .notEq, single .lessEqual .ltE, single .less .lt,
     single .greaterEqual .gtE, single .greater .gt,
     do
       let _ ← word .kNot
       single .kIn .notInOp,
     single .kIn .inOp,
     do
       let _ ← word .kIs
       single .kNot .isNotOp,
     single .kIs .isOp]

/-- Operands compared in a chain. -/
def comparison (g : Grammar) : Parser Value := do
  let start ← startPlace
  let left ← g.call .bitwiseOr
  let pairs ← many do
    let op ← comparisonOperator
    let right ← g.call .bitwiseOr
    return (op, right)
  if pairs.isEmpty then return left
  else
    let stop ← stopPlace
    return placed .compare
      [left, .list (pairs.map fun p => bare p.1), .list (pairs.map Prod.snd)] start stop

/-! ## Bitwise and arithmetic operators -/

/-- One of several operators. -/
def operatorOf (table : List (Word × NodeKind)) : Parser NodeKind := do
  let t ← anyWord (table.map Prod.fst)
  return (table.lookup t.word).getD .add

/-- Operands of operators that group to the left. -/
def leftGrouped (operators : List (Word × NodeKind)) (operand : Parser Value) : Parser Value := do
  let start ← startPlace
  let first ← operand
  grow (fun left => do
    let op ← operatorOf operators
    let right ← operand
    let stop ← stopPlace
    return placed .binOp [left, bare op, right] start stop) first

/-- Operands of `|`. -/
def bitwiseOr (g : Grammar) : Parser Value := leftGrouped [(.bar, .bitOr)] (g.call .bitwiseXor)

/-- Operands of `^`. -/
def bitwiseXor (g : Grammar) : Parser Value := leftGrouped [(.caret, .bitXor)] (g.call .bitwiseAnd)

/-- Operands of `&`. -/
def bitwiseAnd (g : Grammar) : Parser Value := leftGrouped [(.ampersand, .bitAnd)] (g.call .shift)

/-- Operands of shifts. -/
def shiftExpression (g : Grammar) : Parser Value :=
  leftGrouped [(.leftShift, .lShift), (.rightShift, .rShift)] (g.call .sum)

/-- Summands. -/
def sumExpression (g : Grammar) : Parser Value :=
  leftGrouped [(.plus, .add), (.minus, .sub)] (g.call .term)

/-- Factors. -/
def termExpression (g : Grammar) : Parser Value :=
  leftGrouped
    [(.star, .mult), (.slash, .div), (.doubleSlash, .floorDiv), (.percent, .mod),
     (.atSign, .matMult)]
    (g.call .factor)

/-- A power, whose exponent is a factor again. -/
def powerExpression (g : Grammar) : Parser Value := do
  let start ← startPlace
  let base ← g.call .awaitPrimary
  match ← optional (do let _ ← word .doubleStar; g.call .factor) with
  | none => return base
  | some exponent => return placed .binOp [base, bare .pow, exponent] start (← stopPlace)

/-- An operand with a sign. -/
def factorExpression (g : Grammar) : Parser Value :=
  firstOf
    [spanning .unaryOp do
       let op ← operatorOf [(.plus, .uAdd), (.minus, .uSub), (.tilde, .invert)]
       return [bare op, ← g.call .factor],
     powerExpression g]

/-! ## Primaries -/

/-- An awaited primary. -/
def awaitPrimary (g : Grammar) : Parser Value :=
  firstOf
    [spanning .await do
       let _ ← word .kAwait
       return [← g.call .primary],
     g.call .primary]

/-- A slice, or an index. -/
def slice (g : Grammar) : Parser Value :=
  firstOf
    [spanning .slice do
       let lower ← orNull (g.call .expression)
       let _ ← word .colon
       let upper ← orNull (g.call .expression)
       let step ← orNull (do let _ ← word .colon; orNull (g.call .expression))
       return [lower, upper, step],
     g.call .namedExpression]

/-- The index of a subscript; several are a tuple. -/
def slices (g : Grammar) : Parser Value :=
  firstOf
    [do
       let s ← slice g
       notAheadWord [.comma]
       return s,
     spanning .tuple do
       let found ← commaList (firstOf [slice g, starredExpression g])
       return [.list found, bare .load]]

/-- The node of a call with the arguments collected before. -/
def callNode (func : Value) (arguments : Option Value) (start stop : Place) : Value :=
  let part (field : String) : Value := .list ((arguments.map fun a => itemsOf a field).getD [])
  placed .call [func, part "args", part "keywords"] start stop

/-- An attribute of a primary that begins at a place. -/
def attributeTrailer (start : Place) (v : Value) : Parser Value := do
  let _ ← word .dot
  let t ← name
  return placed .attributeRef [v, identifier t, bare .load] start (← stopPlace)

/-- A call with a bare generator. -/
def generatorTrailer (g : Grammar) (start : Place) (v : Value) : Parser Value := do
  let a ← g.call .generator
  return placed .call [v, .list [a], .list []] start (← stopPlace)

/-- A call. -/
def callTrailer (g : Grammar) (start : Place) (v : Value) : Parser Value := do
  let a ← enclosed .openParen .closeParen (optional (g.call .arguments))
  return callNode v a start (← stopPlace)

/-- A subscript. -/
def subscriptTrailer (g : Grammar) (start : Place) (v : Value) : Parser Value := do
  let s ← enclosed .openBracket .closeBracket (slices g)
  return placed .subscript [v, s, bare .load] start (← stopPlace)

/-- An atom with attributes, calls and subscripts. -/
def primary (g : Grammar) : Parser Value := do
  let start ← startPlace
  let first ← g.call .atom
  grow (fun v => firstOf
    [attributeTrailer start v, generatorTrailer g start v, callTrailer g start v,
     subscriptTrailer g start v]) first

end SourceDocs.Source.Parser
