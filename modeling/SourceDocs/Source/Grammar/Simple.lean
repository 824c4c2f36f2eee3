import SourceDocs.Source.Grammar.Target

/-!
# Simple statements

Statements that stand on one line: assignments, expressions, imports, and those that begin with a
keyword of their own.
-/

namespace SourceDocs.Source.Parser

/-! ## Assignments -/

/-- The operators of augmented assignments. -/
def augmentedOperators : List (Word × NodeKind) :=
  [(.plusEquals, .add), (.minusEquals, .sub), (.starEquals, .mult), (.atEquals, .matMult),
   (.slashEquals, .div), (.percentEquals, .mod), (.ampersandEquals, .bitAnd), (.barEquals, .bitOr),
   (.caretEquals, .bitXor), (.leftShiftEquals, .lShift), (.rightShiftEquals, .rShift),
   (.doubleStarEquals, .pow), (.doubleSlashEquals, .floorDiv)]

/-- An assignment with an annotation, whose value may be missing. -/
def annotatedAssignment (g : Grammar) (target : Parser Value) (simple : Int) : Parser Value :=
  spanning .annAssign do
    let t ← target
    let _ ← word .colon
    let annotation ← g.call .expression
    let v ← orNull (do let _ ← word .equals; yieldOrStar g)
    return [t, annotation, v, .int simple]

/-- A target and the sign behind it. -/
def targetEquals (g : Grammar) : Parser Value := do
  let t ← starTargets g
  let _ ← word .equals
  return t

/-- Assignments to what cannot be a target. -/
def badAssignment (g : Grammar) : Parser Value :=
  firstOf
    [do
       let v ← g.call .badAnnotatedTarget
       let _ ← word .colon
       let _ ← g.call .expression
       faultAtNode v "only single target can be annotated",
     do
       let v ← starNamedExpression g
       let _ ← word .comma
       let _ ← many (starNamedExpressions g)
       let _ ← word .colon
       let _ ← g.call .expression
       faultAtNode v "only single target (not tuple) can be annotated",
     do
       let v ← g.call .expression
       let _ ← word .colon
       let _ ← g.call .expression
       faultAtNode v "illegal target for annotation",
     do
       let _ ← many (targetEquals g)
       let v ← g.call .starExpressions
       let _ ← word .equals
       checkTarget .assignment v,
     do
       let _ ← many (targetEquals g)
       let v ← yieldExpression g
       let _ ← word .equals
       faultAtNode v "assignment to yield expression not possible",
     do
       let v ← g.call .starExpressions
       let _ ← operatorOf augmentedOperators
       let _ ← yieldOrStar g
       faultAtNode v "illegal expression for augmented assignment"]

/-- An assignment. -/
def assignment (g : Grammar) : Parser Value :=
  firstOf
    [annotatedAssignment g (nameIn .store) 1,
     annotatedAssignment g
       (firstOf
         [enclosed .openParen .closeParen (g.call .singleTarget), memberTarget g .store]) 0,
     spanning .assign do
       let targets ← many1 (targetEquals g)
       let v ← yieldOrStar g
       notAheadWord [.equals]
       return [.list targets, v, .null],
     do
       let start ← startPlace
       committed
         (do
            let target ← g.call .singleTarget
            let op ← operatorOf augmentedOperators
            return (target, op))
         (fun (target, op) => do
            let v ← yieldOrStar g
            return placed .augAssign [target, bare op, v] start (← stopPlace))
         (diagnosis (badAssignment g))]

/-! ## Imports -/

/-- Names with dots between them, as one name. -/
def dottedName : Parser Value := do
  let names ← separated (do return identifier (← name)) (word .dot)
  let texts := names.map fun v => match v with
    | .text t => t
    | _ => []
  return .text (Text.join "." texts)

/-- An imported name, perhaps under another one. -/
def importedName (x : Parser Value) : Parser Value :=
  spanning .importName do
    let imported ← x
    let other ← orNull (do let _ ← word .kAs; return identifier (← name))
    return [imported, other]

/-- Names imported from a module. -/
def importedNames : Parser (List Value) :=
  separated (importedName (do return identifier (← name))) (word .comma)

/-- What is imported from a module. -/
def importTargets : Parser (List Value) :=
  firstOf
    [enclosed .openParen .closeParen do
       let found ← importedNames
       optionalWord .comma
       return found,
     do
       let found ← importedNames
       notAheadWord [.comma]
       return found,
     do
       let v ← spanning .importName do
         let _ ← word .star
         return [Value.ofString "*", .null]
       return [v],
     diagnosis do
       let _ ← importedNames
       let _ ← word .comma
       let _ ← ofKind .newline
       faultHere "trailing comma not allowed without surrounding parentheses"]

/-- The number of leading dots. -/
def leadingDots (x : Parser (List Token)) : Parser Int := do
  let dots ← x
  return dots.foldl (fun n t => n + if t.word = .dots then 3 else 1) 0

/-- An import statement. -/
def importStatement : Parser Value :=
  let dot := anyWord [.dot, .dots]
  firstOf
    [spanning .importStmt do
       let _ ← word .kImport
       return [.list (← separated (importedName dottedName) (word .comma))],
     spanning .importFrom do
       let _ ← word .kFrom
       let level ← leadingDots (many dot)
       let m ← dottedName
       let _ ← word .kImport
       return [m, .list (← importTargets), .int level],
     spanning .importFrom do
       let _ ← word .kFrom
       let level ← leadingDots (many1 dot)
       let _ ← word .kImport
       return [.null, .list (← importTargets), .int level]]

/-! ## Statements with a keyword of their own -/

/-- A statement that is one word. -/
def wordStatement (w : Word) (kind : NodeKind) : Parser Value :=
  spanning kind do
    let _ ← word w
    return []

/-- A statement that names variables of an outer scope. -/
def scopeStatement (w : Word) (kind : NodeKind) : Parser Value :=
  spanning kind do
    let _ ← word w
    return [.list (← separated (do return identifier (← name)) (word .comma))]

/-- A return statement. -/
def returnStatement (g : Grammar) : Parser Value :=
  spanning .returnStmt do
    let _ ← word .kReturn
    return [← orNull (g.call .starExpressions)]

/-- A raise statement. -/
def raiseStatement (g : Grammar) : Parser Value :=
  firstOf
    [spanning .raise do
       let _ ← word .kRaise
       let v ← g.call .expression
       let cause ← orNull (do let _ ← word .kFrom; g.call .expression)
       return [v, cause],
     wordStatement .kRaise .raise]

/-- A deletion. -/
def deleteStatement (g : Grammar) : Parser Value :=
  firstOf
    [spanning .delete do
       let _ ← word .kDel
       let targets ← deletionTargets g
       ahead (firstOf [do let _ ← word .semicolon, do let _ ← ofKind .newline])
       return [.list targets],
     diagnosis do
       let _ ← word .kDel
       let v ← g.call .starExpressions
       checkTarget .deletion v]

/-- An assertion. -/
def assertStatement (g : Grammar) : Parser Value :=
  spanning .assert do
    let _ ← word .kAssert
    let test ← g.call .expression
    let message ← orNull (do let _ ← word .comma; g.call .expression)
    return [test, message]

/-- An expression as a statement. -/
def expressionStatement (x : Parser Value) : Parser Value := spanning .expr do return [← x]

/-- A simple statement. -/
def simpleStatement (g : Grammar) : Parser Value :=
  let guarded (ws : List Word) (x : Parser Value) : Parser Value := do
    aheadWord ws
    x
  firstOf
    [assignment g,
     expressionStatement (g.call .starExpressions),
     guarded [.kReturn] (returnStatement g),
     guarded [.kImport, .kFrom] importStatement,
     guarded [.kRaise] (raiseStatement g),
     wordStatement .kPass .pass,
     guarded [.kDel] (deleteStatement g),
     guarded [.kYield] (expressionStatement (yieldExpression g)),
     guarded [.kAssert] (assertStatement g),
     wordStatement .kBreak .breakStmt,
     wordStatement .kContinue .continueStmt,
     guarded [.kGlobal] (scopeStatement .kGlobal .global),
     guarded [.kNonlocal] (scopeStatement .kNonlocal .nonlocal)]

/-- Simple statements on one line. -/
def simpleStatements (g : Grammar) : Parser (List Value) :=
  firstOf
    [do
       let s ← g.call .simpleStatement
       notAheadWord [.semicolon]
       let _ ← ofKind .newline
       return [s],
     do
       let found ← separated (g.call .simpleStatement) (word .semicolon)
       optionalWord .semicolon
       let _ ← ofKind .newline
       return found]

end SourceDocs.Source.Parser
