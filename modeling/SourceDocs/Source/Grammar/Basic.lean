import SourceDocs.Source.Literal.Formatted
import SourceDocs.Source.Literal.Number
import SourceDocs.Source.Parser
import SourceDocs.Source.Tree
import SourceDocs.Text.Compatibility

/-!
# Rules of the grammar

The grammar is a family of parsers, one for each `Rule`, which call each other through a `Grammar`.
A piece of syntax begins with its first token and ends with the last token that is not layout.
-/

namespace SourceDocs.Source

/-- The rules that other rules call. -/
inductive Rule where
  | statements | statement | simpleStatement | block | elifClause
  | starExpressions | starExpression | expression | namedExpression | badNamedExpression
  | disjunction | conjunction | inversion | comparison
  | bitwiseOr | bitwiseXor | bitwiseAnd | shift | sum | term | factor | awaitPrimary | primary
  | atom | strings | list | tuple | generator | arguments | positionalArguments | lambda
  | starTarget | starAtomTarget | targetPrimary | singleTarget | deletionTarget | badAnnotatedTarget
  | pattern | closedPattern | starPattern

/-- What a rule with descriptions of mistakes finds may be recalled where they take no part, and the
other way round, if the rule is one of these. -/
def Rule.isShared : Rule → Bool
  | .simpleStatement | .block | .starExpression | .expression | .badNamedExpression | .disjunction
  | .conjunction | .inversion | .bitwiseOr | .bitwiseXor | .bitwiseAnd | .shift | .sum | .term
  | .factor | .awaitPrimary | .primary | .strings | .arguments | .starTarget | .starAtomTarget
  | .targetPrimary | .deletionTarget | .closedPattern | .starPattern => true
  | _ => false

/-- The parsers of the rules, and the reader of source texts inside string literals. -/
structure Grammar where
  call : Rule → Parser Value
  embedded : Place → Text → Except Fault Value

namespace Parser

/-- A node of what a parser reads, from the values of its fields. -/
def spanning (kind : NodeKind) (x : Parser (List Value)) : Parser Value := do
  let start ← startPlace
  let values ← x
  let stop ← stopPlace
  return placed kind values start stop

/-- The identifier of a name token: compatible characters are unified. -/
def identifier (t : Token) : Value :=
  .text (if t.text.all fun p => p.val < 0x80 then t.text else Compatibility.compose t.text)

/-- A name as an expression in a context. -/
def nameIn (context : NodeKind) : Parser Value := do
  let t ← name
  return placed .nameRef [identifier t, bare context] t.start t.stop

/-- Reads what stands between two words. -/
def enclosed {α : Type} (opening closing : Word) (x : Parser α) : Parser α := do
  let _ ← word opening
  let a ← x
  let _ ← word closing
  return a

/-- Reads a separator, if there is one. -/
def optionalWord (w : Word) : Parser Unit := do
  let _ ← optional (word w)

/-- Succeeds if one of several words follows, without reading it. -/
def aheadWord (ws : List Word) : Parser Unit := ahead (anyWord ws)

/-- Succeeds if none of several words follows. -/
def notAheadWord (ws : List Word) : Parser Unit := notAhead (anyWord ws)

/-- Reads results with commas between them and perhaps one behind them. -/
def commaList {α : Type} (x : Parser α) : Parser (List α) := do
  let found ← separated x (word .comma)
  optionalWord .comma
  return found

/-- A fault on the line of a node. -/
def faultAtNode {α : Type} (v : Value) (what : String) : Parser α := faultAt (lineOf v) what

/-- A fault on the line of a token. -/
def faultAtToken {α : Type} (t : Token) (what : String) : Parser α := faultAt t.start.line what

/-- A fault if an expression cannot be a target. -/
def checkTarget {α : Type} (use : TargetUse) (v : Value) : Parser α :=
  match badTarget use v with
  | some bad =>
    faultAtNode bad
      (if use = .deletion then "cannot delete expression" else "cannot assign to expression")
  | none => fail

/-- An expression, or several with commas between them, as a tuple. -/
def tupleOf (context : NodeKind) (x : Parser Value) : Parser Value := do
  let start ← startPlace
  let first ← x
  let rest ← many (do let _ ← word .comma; x)
  if rest.isEmpty then
    match ← optional (word .comma) with
    | none => return first
    | some _ => return placed .tuple [.list [first], bare context] start (← stopPlace)
  else
    optionalWord .comma
    return placed .tuple [.list (first :: rest), bare context] start (← stopPlace)

end Parser

end SourceDocs.Source
