import SourceDocs.Source.Grammar.Pattern
import SourceDocs.Source.Grammar.Simple

/-!
# Compound statements

Statements with blocks: conditions, loops, contexts, handlers, cases, functions and classes.
-/

namespace SourceDocs.Source.Parser

/-- The statements of a block. -/
def blockItems (g : Grammar) : Parser Value := g.call .block

/-- A block: indented statements, or simple statements on the same line. -/
def block (g : Grammar) : Parser Value :=
  firstOf
    [do
       let _ ← ofKind .newline
       let _ ← ofKind .indent
       let body ← g.call .statements
       let _ ← ofKind .dedent
       return body,
     do return .list (← simpleStatements g),
     diagnosis do
       let _ ← ofKind .newline
       notAhead (ofKind .indent)
       faultHere "expected an indented block" .indentation]

/-- A line end where a colon is missing. -/
def missingColon {α : Type} : Parser α := do
  let _ ← ofKind .newline
  faultHere "expected ':'"

/-- A colon behind which no block follows. -/
def missingBlock {α : Type} : Parser α := do
  let _ ← word .colon
  let _ ← ofKind .newline
  notAhead (ofKind .indent)
  faultHere "expected an indented block" .indentation

/-- The head of a statement that lacks its colon or its block. -/
def badHead {α β : Type} (head : Parser β) : Parser α :=
  firstOf [do let _ ← head; missingColon, do let _ ← head; missingBlock]

/-! ## Conditions and loops -/

/-- The part of a statement that begins with `else`. -/
def elseBlock (g : Grammar) : Parser Value :=
  firstOf
    [diagnosis do
       let _ ← word .kElse
       missingBlock,
     do
       let _ ← word .kElse
       let _ ← required .colon
       blockItems g]

/-- The items of an optional part. -/
def orEmpty (x : Parser Value) : Parser Value := do return (← optional x).getD (.list [])

/-- A condition with its block and alternatives. -/
def conditionFrom (g : Grammar) (w : Word) : Parser Value :=
  let head : Parser Value := do
    let _ ← word w
    g.call .namedExpression
  firstOf
    [diagnosis (badHead head),
     spanning .ifStmt do
       let test ← head
       let _ ← word .colon
       let body ← blockItems g
       let other ← g.call .elifClause
       return [test, body, .list [other]],
     spanning .ifStmt do
       let test ← head
       let _ ← word .colon
       let body ← blockItems g
       return [test, body, ← orEmpty (elseBlock g)]]

/-- A loop with a condition. -/
def whileStatement (g : Grammar) : Parser Value :=
  let head : Parser Value := do
    let _ ← word .kWhile
    g.call .namedExpression
  firstOf
    [diagnosis (badHead head),
     spanning .whileStmt do
       let test ← head
       let _ ← word .colon
       let body ← blockItems g
       return [test, body, ← orEmpty (elseBlock g)]]

/-- A loop over items. -/
def forStatement (g : Grammar) : Parser Value := do
  let start ← startPlace
  let head : Parser Value := do
    let _ ← word .kFor
    let target ← starTargets g
    let _ ← word .kIn
    return target
  let rest (kind : NodeKind) (target : Value) : Parser Value := do
    let iter ← g.call .starExpressions
    let _ ← word .colon
    let body ← blockItems g
    let orelse ← orEmpty (elseBlock g)
    return placed kind [target, iter, body, orelse, .null] start (← stopPlace)
  firstOf
    [diagnosis (badHead do
       optionalWord .kAsync
       let _ ← head
       g.call .starExpressions),
     committed head (rest .forStmt)
       (committed (do let _ ← word .kAsync; head) (rest .asyncFor)
         (diagnosis (badLoopTarget g)))]

/-! ## Contexts -/

/-- A context and what it is bound to. -/
def contextItem (g : Grammar) : Parser Value :=
  let ends : List Word := [.comma, .closeParen, .colon]
  firstOf
    [do
       let v ← g.call .expression
       let _ ← word .kAs
       let target ← g.call .starTarget
       aheadWord ends
       return bare .withItem [v, target],
     diagnosis do
       let _ ← g.call .expression
       let _ ← word .kAs
       let v ← g.call .expression
       aheadWord ends
       checkTarget .assignment v,
     do return bare .withItem [← g.call .expression, .null]]

/-- The heads of statements with contexts, for the search for mistakes. -/
def contextHeads (g : Grammar) : List (Parser Unit) :=
  let binding (x : Parser Value) : Parser Unit := do
    let _ ← x
    let _ ← optional (do let _ ← word .kAs; g.call .starTarget)
  let start : Parser Unit := do
    optionalWord .kAsync
    let _ ← word .kWith
  [do
     start
     let _ ← separated (binding (g.call .expression)) (word .comma),
   do
     start
     enclosed .openParen .closeParen do
       let _ ← separated (binding (expressions g)) (word .comma)
       optionalWord .comma]

/-- A statement with contexts. -/
def withStatement (g : Grammar) : Parser Value := do
  let start ← startPlace
  let items := separated (contextItem g) (word .comma)
  let inBrackets := enclosed .openParen .closeParen (commaList (contextItem g))
  let rest (kind : NodeKind) (items : Parser (List Value)) : Parser Value := do
    let _ ← word .kWith
    let found ← items
    let _ ← word .colon
    let body ← blockItems g
    return placed kind [.list found, body, .null] start (← stopPlace)
  let asyncRest (items : Parser (List Value)) : Parser Value := do
    let _ ← word .kAsync
    rest .asyncWith items
  firstOf
    [diagnosis (firstOf ((contextHeads g).map fun head => do head; missingBlock)),
     rest .withStmt inBrackets, rest .withStmt items, asyncRest inBrackets, asyncRest items,
     diagnosis (firstOf ((contextHeads g).map fun head => do head; missingColon))]

/-! ## Handlers -/

/-- An optional name behind `as`. -/
def boundName : Parser Value := orNull (do let _ ← word .kAs; return identifier (← name))

/-- Handlers with a mistake in their first line. -/
def badHandler (g : Grammar) : Parser Value :=
  firstOf
    [do
       let _ ← word .kExcept
       optionalWord .star
       let v ← g.call .expression
       let _ ← word .comma
       let _ ← expressions g
       let _ ← boundName
       let _ ← word .colon
       faultAtNode v "multiple exception types must be parenthesized",
     do
       let _ ← word .kExcept
       optionalWord .star
       let _ ← g.call .expression
       let _ ← boundName
       missingColon,
     do
       let _ ← word .kExcept
       missingColon,
     do
       let _ ← word .kExcept
       let _ ← word .star
       firstOf [do let _ ← ofKind .newline, do let _ ← word .colon]
       faultHere "expected one or more exception types"]

/-- The first line of a handler with a type, up to the colon. -/
def handlerHead (g : Grammar) (starred : Bool) : Parser (List Value) := do
  let _ ← word .kExcept
  if starred then
    let _ ← word .star
  let v ← g.call .expression
  let n ← boundName
  return [v, n]

/-- A handler with a type. -/
def typedHandler (g : Grammar) (starred : Bool) : Parser Value :=
  spanning .exceptHandler do
    let head ← handlerHead g starred
    let _ ← word .colon
    return head ++ [← blockItems g]

/-- A handler. -/
def handler (g : Grammar) : Parser Value :=
  firstOf
    [diagnosis (firstOf
       [do
          let _ ← handlerHead g false
          missingBlock,
        do
          let _ ← word .kExcept
          missingBlock]),
     typedHandler g false,
     spanning .exceptHandler do
       let _ ← word .kExcept
       let _ ← word .colon
       return [.null, .null, ← blockItems g],
     diagnosis (badHandler g)]

/-- A handler of groups. -/
def groupHandler (g : Grammar) : Parser Value :=
  firstOf
    [diagnosis do
       let _ ← handlerHead g true
       missingBlock,
     typedHandler g true,
     diagnosis (badHandler g)]

/-- The block that runs at last. -/
def finallyBlock (g : Grammar) : Parser Value :=
  firstOf
    [diagnosis do
       let _ ← word .kFinally
       missingBlock,
     do
       let _ ← word .kFinally
       let _ ← required .colon
       blockItems g]

/-- A statement with handlers that has a mistake. -/
def badTry (g : Grammar) : Parser Value :=
  firstOf
    [do
       let _ ← word .kTry
       missingBlock,
     do
       let _ ← word .kTry
       let _ ← word .colon
       let _ ← blockItems g
       notAheadWord [.kExcept, .kFinally]
       faultHere "expected 'except' or 'finally' block",
     do
       let _ ← word .kTry
       let _ ← word .colon
       let _ ← many (blockItems g)
       firstOf
         [do
            let _ ← many1 (handler g)
            let _ ← groupHandler g,
          do
            let _ ← many1 (groupHandler g)
            let _ ← handler g]
       let _ ← many (blockItems g)
       faultHere "cannot have both 'except' and 'except*' on the same 'try'"]

/-- A statement with handlers. -/
def tryStatement (g : Grammar) : Parser Value :=
  let head : Parser Value := do
    let _ ← word .kTry
    let _ ← required .colon
    blockItems g
  let withHandlers (kind : NodeKind) (one : Parser Value) : Parser Value :=
    spanning kind do
      let body ← head
      let handlers ← many1 one
      let orelse ← orEmpty (elseBlock g)
      let last ← orEmpty (finallyBlock g)
      return [body, .list handlers, orelse, last]
  firstOf
    [diagnosis (badTry g),
     spanning .tryStmt do
       let body ← head
       let last ← finallyBlock g
       return [body, .list [], .list [], last],
     withHandlers .tryStmt (handler g),
     withHandlers .tryStar (groupHandler g)]

/-! ## Cases -/

/-- What a match statement looks at. -/
def matchSubject (g : Grammar) : Parser Value :=
  firstOf
    [spanning .tuple do
       let first ← starNamedExpression g
       let _ ← word .comma
       let rest ← optional (starNamedExpressions g)
       return [.list (first :: rest.getD []), bare .load],
     g.call .namedExpression]

/-- A case with its block. -/
def caseBlock (g : Grammar) : Parser Value :=
  let head : Parser (List Value) := do
    let _ ← word .softCase
    let p ← patterns g
    let guard ← orNull (do let _ ← word .kIf; g.call .namedExpression)
    return [p, guard]
  firstOf
    [diagnosis (badHead head),
     do
       let values ← head
       let _ ← word .colon
       let body ← blockItems g
       return bare .matchCase (values ++ [body])]

/-- A match statement. -/
def matchStatement (g : Grammar) : Parser Value :=
  let head : Parser Value := do
    let _ ← word .softMatch
    matchSubject g
  firstOf
    [spanning .matchStmt do
       let subject ← head
       let _ ← word .colon
       let _ ← ofKind .newline
       let _ ← ofKind .indent
       let cases ← many1 (caseBlock g)
       let _ ← ofKind .dedent
       return [subject, .list cases],
     diagnosis (badHead head)]

/-! ## Definitions -/

/-- The decorators before a definition. -/
def decorators (g : Grammar) : Parser (List Value) :=
  many1 do
    let _ ← word .atSign
    let v ← g.call .namedExpression
    let _ ← ofKind .newline
    return v

/-- A definition with optional decorators. -/
def decorated (g : Grammar) (definition : List Value → Parser Value) : Parser Value :=
  firstOf
    [do
       let found ← decorators g
       definition found,
     definition []]

/-- A function, given its decorators. -/
def functionDefinition (g : Grammar) (decorators : List Value) : Parser Value :=
  let returns := orNull (do let _ ← word .arrow; g.call .expression)
  let params : Parser Value := do return (← optional (parameters g .function)).getD noParameters
  let definition (kind : NodeKind) (start : Parser Unit) : Parser Value :=
    spanning kind do
      start
      let _ ← word .kDef
      let t ← name
      let _ ← required .openParen
      let p ← params
      let _ ← word .closeParen
      let r ← returns
      let _ ← required .colon
      let body ← blockItems g
      return [identifier t, p, body, .list decorators, r, .null]
  firstOf
    [diagnosis do
       optionalWord .kAsync
       let _ ← word .kDef
       let _ ← name
       let _ ← enclosed .openParen .closeParen params
       let _ ← returns
       missingBlock,
     definition .functionDef (pure ()),
     definition .asyncFunctionDef (do let _ ← word .kAsync)]

/-- A class, given its decorators. -/
def classDefinition (g : Grammar) (decorators : List Value) : Parser Value :=
  let head : Parser (Token × Option Value) := do
    let _ ← word .kClass
    let t ← name
    let a ← optional (enclosed .openParen .closeParen (optional (g.call .arguments)))
    return (t, a.join)
  firstOf
    [diagnosis (badHead head),
     spanning .classDef do
       let (t, a) ← head
       let _ ← word .colon
       let body ← blockItems g
       let part (field : String) : Value := .list ((a.map fun c => itemsOf c field).getD [])
       return [identifier t, part "args", part "keywords", body, .list decorators]]

/-! ## Statements -/

/-- A compound statement. -/
def compoundStatement (g : Grammar) : Parser Value :=
  let guarded (ws : List Word) (x : Parser Value) : Parser Value := do
    aheadWord ws
    x
  firstOf
    [guarded [.kDef, .atSign, .kAsync] (decorated g (functionDefinition g)),
     guarded [.kIf] (conditionFrom g .kIf),
     guarded [.kClass, .atSign] (decorated g (classDefinition g)),
     guarded [.kWith, .kAsync] (withStatement g),
     guarded [.kFor, .kAsync] (forStatement g),
     guarded [.kTry] (tryStatement g),
     guarded [.kWhile] (whileStatement g),
     matchStatement g]

/-- A statement, or the simple statements of a line. -/
def statement (g : Grammar) : Parser Value :=
  firstOf
    [do return .list [← compoundStatement g],
     do return .list (← simpleStatements g)]

/-- Statements, at least one. -/
def statements (g : Grammar) : Parser Value := do
  let found ← many1 (g.call .statement)
  return .list (found.flatMap items)

/-- A whole file. -/
def file (g : Grammar) : Parser Value := do
  let body ← orEmpty (g.call .statements)
  let _ ← ofKind .endOfFile
  return bare .moduleRoot [body, .list []]

/-- A single expression with nothing behind it. -/
def expressionFile (g : Grammar) : Parser Value := do
  let v ← expressions g
  let _ ← many (ofKind .newline)
  let _ ← ofKind .endOfFile
  return bare .expression [v]

end SourceDocs.Source.Parser
