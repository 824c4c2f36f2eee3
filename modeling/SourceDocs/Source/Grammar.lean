import SourceDocs.Source.Coding
import SourceDocs.Source.Grammar.Compound

/-!
# Reading source files

`parseModule` reads the bytes of a source file into the tree of its module.
-/

namespace SourceDocs.Source

/-- The parser of a rule, given those of the rules that it calls. -/
def Rule.parser (g : Grammar) : Rule → Parser Value
  | .statements => Parser.statements g
  | .statement => Parser.statement g
  | .simpleStatement => Parser.simpleStatement g
  | .block => Parser.block g
  | .elifClause => Parser.conditionFrom g .kElif
  | .starExpressions => Parser.starExpressions g
  | .starExpression => Parser.starExpression g
  | .expression => Parser.expression g
  | .namedExpression => Parser.namedExpression g
  | .badNamedExpression => Parser.badNamedExpression g
  | .disjunction => Parser.disjunction g
  | .conjunction => Parser.conjunction g
  | .inversion => Parser.inversion g
  | .comparison => Parser.comparison g
  | .bitwiseOr => Parser.bitwiseOr g
  | .bitwiseXor => Parser.bitwiseXor g
  | .bitwiseAnd => Parser.bitwiseAnd g
  | .shift => Parser.shiftExpression g
  | .sum => Parser.sumExpression g
  | .term => Parser.termExpression g
  | .factor => Parser.factorExpression g
  | .awaitPrimary => Parser.awaitPrimary g
  | .primary => Parser.primary g
  | .atom => Parser.atom g
  | .strings => Parser.strings g
  | .list => Parser.listDisplay g
  | .tuple => Parser.tupleDisplay g
  | .generator => Parser.generatorExpression g
  | .arguments => Parser.arguments g
  | .positionalArguments => Parser.positionalArguments g
  | .lambda => Parser.lambdaExpression g
  | .starTarget => Parser.starTarget g
  | .starAtomTarget => Parser.starAtomTarget g
  | .targetPrimary => Parser.targetPrimary g
  | .singleTarget => Parser.singleTarget g
  | .deletionTarget => Parser.deletionTarget g
  | .badAnnotatedTarget => Parser.badAnnotatedTarget g
  | .pattern => Parser.pattern g
  | .closedPattern => Parser.closedPattern g
  | .starPattern => Parser.starPattern

/-- The parser of a rule in which rules nest so deep. -/
def Rule.run (embedded : Place → Text → Except Fault Value) : Nat → Rule → Parser Value
  | 0, _ => Parser.fail
  | depth + 1, r =>
    Parser.remembered r.ctorIdx r.isShared (r.parser ⟨Rule.run embedded depth, embedded⟩)

/-- The number of rules that may nest in a text of so many tokens: between two tokens each rule
occurs at most once. -/
def nesting (tokens : Tokens) : Nat := 50 * (tokens.tokens.size + 2)

/-- Reads an expression inside a string literal; literals nest at most `depth` deep in it. -/
def readEmbedded : Nat → Place → Text → Except Fault Value
  | 0, place, _ => .error ⟨"string literals nested too deeply", some place.line, .form⟩
  | depth + 1, place, t =>
    let tokens := lexAt place t
    parseTokens (Rule.run (readEmbedded depth) (nesting tokens) .starExpressions) tokens

/-- Reads a source text by a parser of the grammar. -/
def readText (x : Grammar → Parser Value) (t : Text) : Except Fault Value :=
  let tokens := lex t
  let embedded := readEmbedded (t.length + 1)
  parseTokens (x ⟨Rule.run embedded (nesting tokens), embedded⟩) tokens

/-- Why a file is no source file. -/
inductive SourceFault where
  | coding (f : CodingFault)
  | grammar (f : Fault)

/-- The line of a fault, if it is known. -/
def SourceFault.line? : SourceFault → Option Nat
  | .coding _ => none
  | .grammar f => f.line

/-- Reads bytes by a parser of the grammar. -/
def readBytes (x : Grammar → Parser Value) (bytes : List UInt8) : Except SourceFault Value :=
  match decode bytes with
  | .error f => .error (.coding f)
  | .ok t =>
    match readText x t with
    | .error f => .error (.grammar f)
    | .ok v => .ok v

/-- Reads a source text that stands in no file by a parser of the grammar. -/
def readGiven (x : Grammar → Parser Value) (t : Text) : Except SourceFault Value := do
  let t ← (givenText t).mapError .coding
  (readText x t).mapError .grammar

/-- The tree of the module in a source file. -/
def parseModule (bytes : List UInt8) : Except SourceFault Value := readBytes Parser.file bytes

/-- The tree of a module given as a text. -/
def parseModuleText (t : Text) : Except SourceFault Value := readGiven Parser.file t

/-- The tree of a single expression given as a text. -/
def parseExpression (t : Text) : Except SourceFault Value := readGiven Parser.expressionFile t

end SourceDocs.Source
