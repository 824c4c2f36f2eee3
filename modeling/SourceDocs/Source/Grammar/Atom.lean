import SourceDocs.Source.Grammar.Expression

/-!
# Atoms

Names, constants, literals, bracketed expressions, displays and comprehensions, and the arguments of
calls.
-/

namespace SourceDocs.Source.Parser

/-! ## Comprehensions -/

/-- The names that a comprehension or a loop binds; several are a tuple. -/
def starTargets (g : Grammar) : Parser Value := tupleOf .store (g.call .starTarget)

/-- A loop over something that cannot be a target. -/
def badLoopTarget {α : Type} (g : Grammar) : Parser α := do
  optionalWord .kAsync
  let _ ← word .kFor
  let v ← g.call .starExpressions
  checkTarget .iteration v

/-- One loop of a comprehension with its conditions. -/
def comprehensionLoop (g : Grammar) : Parser Value :=
  let head : Parser Value := do
    let _ ← word .kFor
    let target ← starTargets g
    let _ ← word .kIn
    return target
  let rest (isAsync : Int) (target : Value) : Parser Value := do
    let iter ← g.call .disjunction
    let ifs ← many (do let _ ← word .kIf; g.call .disjunction)
    return bare .comprehension [target, iter, .list ifs, .int isAsync]
  committed (do let _ ← word .kAsync; head) (rest 1)
    (committed head (rest 0) (diagnosis (badLoopTarget g)))

/-- The loops of a comprehension. -/
def comprehensionLoops (g : Grammar) : Parser (List Value) := many1 (comprehensionLoop g)

/-- A comprehension whose item needs brackets. -/
def badComprehension (g : Grammar) : Parser Value :=
  firstOf
    [do
       let _ ← anyWord [.openBracket, .openParen, .openBrace]
       let v ← starredExpression g
       let _ ← comprehensionLoops g
       faultAtNode v "iterable unpacking cannot be used in comprehension",
     do
       let _ ← anyWord [.openBracket, .openBrace]
       let v ← starNamedExpression g
       let _ ← word .comma
       let _ ← starNamedExpressions g
       let _ ← comprehensionLoops g
       faultAtNode v "did you forget parentheses around the comprehension target?",
     do
       let _ ← anyWord [.openBracket, .openBrace]
       let v ← starNamedExpression g
       let _ ← word .comma
       let _ ← comprehensionLoops g
       faultAtNode v "did you forget parentheses around the comprehension target?"]

/-- A comprehension between brackets. -/
def comprehension (g : Grammar) (kind : NodeKind) (opening closing : Word) (item : Parser Value) :
    Parser Value :=
  firstOf
    [spanning kind (enclosed opening closing do
       let v ← item
       let loops ← comprehensionLoops g
       return [v, .list loops]),
     diagnosis (badComprehension g)]

/-- An expression that may be given a name, without descriptions of mistakes around it. -/
def argumentExpression (g : Grammar) : Parser Value :=
  firstOf [assignmentExpression g, unnamedExpression g]

/-- A generator in brackets. -/
def generatorExpression (g : Grammar) : Parser Value :=
  comprehension g .generatorExp .openParen .closeParen (argumentExpression g)

/-! ## Displays -/

/-- A list of items. -/
def listDisplay (g : Grammar) : Parser Value :=
  spanning .list do
    let found ← enclosed .openBracket .closeBracket (optional (starNamedExpressions g))
    return [.list (found.getD []), bare .load]

/-- A tuple in brackets. -/
def tupleDisplay (g : Grammar) : Parser Value :=
  spanning .tuple do
    let found ← enclosed .openParen .closeParen (optional do
      let first ← starNamedExpression g
      let _ ← word .comma
      let rest ← optional (starNamedExpressions g)
      return first :: rest.getD [])
    return [.list (found.getD []), bare .load]

/-- A set of items. -/
def setDisplay (g : Grammar) : Parser Value :=
  spanning .set do
    let found ← enclosed .openBrace .closeBrace (starNamedExpressions g)
    return [.list found]

/-- A key and its value. -/
def keyValue (g : Grammar) : Parser (Value × Value) := do
  let k ← g.call .expression
  let _ ← word .colon
  let v ← g.call .expression
  return (k, v)

/-- A key and its value, or a mapping to be copied. -/
def entry (g : Grammar) : Parser (Value × Value) :=
  firstOf
    [do
       let _ ← word .doubleStar
       return (.null, ← g.call .bitwiseOr),
     keyValue g]

/-- A value that is missing or starred. -/
def badEntryValue {α : Type} (g : Grammar) : Parser α :=
  firstOf
    [do
       let _ ← g.call .expression
       let _ ← word .colon
       let t ← word .star
       let _ ← g.call .bitwiseOr
       faultAtToken t "cannot use a starred expression in a dictionary value",
     do
       let _ ← g.call .expression
       let t ← word .colon
       aheadWord [.closeBrace, .comma]
       faultAtToken t "expression expected after dictionary key and ':'"]

/-- Entries of a mapping with a mistake among them. -/
def badEntries {α : Type} (g : Grammar) : Parser α :=
  firstOf
    [do
       let _ ← separated (entry g) (word .comma)
       let _ ← word .comma
       firstOf
         [do
            let k ← g.call .expression
            notAheadWord [.colon]
            faultAtNode k "':' expected after dictionary key",
          badEntryValue g],
     badEntryValue g]

/-- A mapping. -/
def dictDisplay (g : Grammar) : Parser Value :=
  firstOf
    [spanning .dict do
       let found ← enclosed .openBrace .closeBrace (optional (commaList (entry g)))
       let entries := found.getD []
       return [.list (entries.map Prod.fst), .list (entries.map Prod.snd)],
     enclosed .openBrace .closeBrace (badEntries g)]

/-- A comprehension of a mapping. -/
def dictComprehension (g : Grammar) : Parser Value :=
  firstOf
    [spanning .dictComp (enclosed .openBrace .closeBrace do
       let (k, v) ← keyValue g
       let loops ← comprehensionLoops g
       return [k, v, .list loops]),
     diagnosis do
       let _ ← word .openBrace
       let t ← word .doubleStar
       let _ ← g.call .bitwiseOr
       let _ ← comprehensionLoops g
       let _ ← word .closeBrace
       faultAtToken t "dict unpacking cannot be used in dict comprehension"]

/-- An expression in brackets. -/
def group (g : Grammar) : Parser Value :=
  firstOf
    [enclosed .openParen .closeParen (firstOf [yieldExpression g, g.call .namedExpression]),
     diagnosis (firstOf
       [do
          let _ ← word .openParen
          let v ← starredExpression g
          let _ ← word .closeParen
          faultAtNode v "cannot use starred expression here",
        do
          let _ ← word .openParen
          let t ← word .doubleStar
          let _ ← g.call .expression
          let _ ← word .closeParen
          faultAtToken t "cannot use double starred expression here"])]

/-! ## Atoms -/

/-- Adjacent string literals. -/
def strings (g : Grammar) : Parser Value := do
  let tokens ← many1 (ofKind .string)
  match stringLiteral g.embedded tokens with
  | .ok v => return v
  | .error (.malformed what) => faultHere what
  | .error (.onLine line what) => faultAt line what
  | .error (.embedded f) => fun _ p => .fault f false p

/-- A number. -/
def number : Parser Value := do
  let t ← ofKind .number
  match numberLiteral t.text with
  | some v => return placed .constant [v, .null] t.start t.stop
  | none => faultAtToken t "Exceeds the limit for integer string conversion"

/-- A constant that is a word. -/
def constantWord : Parser Value := do
  let t ← anyWord [.kTrue, .kFalse, .kNone]
  let v : Value := match t.word with
    | .kTrue => .bool true
    | .kFalse => .bool false
    | _ => .null
  return placed .constant [v, .null] t.start t.stop

/-- An atom. -/
def atom (g : Grammar) : Parser Value := do
  let t ← peek
  match t.kind with
  | .name => nameIn .load
  | .string => g.call .strings
  | .number => number
  | _ =>
    match t.word with
    | .kTrue | .kFalse | .kNone => constantWord
    | .openParen => firstOf [g.call .tuple, group g, g.call .generator]
    | .openBracket =>
      firstOf
        [g.call .list,
         comprehension g .listComp .openBracket .closeBracket (g.call .namedExpression)]
    | .openBrace =>
      firstOf
        [dictDisplay g, setDisplay g, dictComprehension g,
         comprehension g .setComp .openBrace .closeBrace (g.call .namedExpression)]
    | .dots => do
      advance
      return placed .constant [.ellipsis, .null] t.start t.stop
    | _ => fail

/-! ## Arguments -/

/-- An argument with a name that cannot be one. -/
def badKeyword (g : Grammar) : Parser Value :=
  firstOf
    [do
       let t ← anyWord [.kTrue, .kFalse, .kNone]
       let _ ← word .equals
       faultAtToken t "cannot assign to constant",
     do
       let t ← name
       let _ ← word .equals
       let _ ← g.call .expression
       let _ ← comprehensionLoops g
       faultAtToken t "invalid syntax. Maybe you meant '==' or ':=' instead of '='?",
     do
       notAhead (do let _ ← name; word .equals)
       let v ← g.call .expression
       let _ ← word .equals
       faultAtNode v "expression cannot contain assignment, perhaps you meant \"==\"?"]

/-- An argument with a name. -/
def keywordArgument (g : Grammar) : Parser Value :=
  spanning .keyword do
    let t ← name
    let _ ← word .equals
    return [identifier t, ← g.call .expression]

/-- An argument with a name, or a starred one. -/
def keywordOrStarred (g : Grammar) : Parser Value :=
  firstOf [diagnosis (badKeyword g), keywordArgument g, starredExpression g]

/-- An argument with a name, or one that passes the entries of a mapping. -/
def keywordOrDoubleStarred (g : Grammar) : Parser Value :=
  firstOf
    [diagnosis (badKeyword g), keywordArgument g,
     spanning .keyword do
       let _ ← word .doubleStar
       return [.null, ← g.call .expression]]

/-- Arguments from the first one with a name on. -/
def keywordArguments (g : Grammar) : Parser (List Value) :=
  firstOf
    [do
       let a ← separated (keywordOrStarred g) (word .comma)
       let _ ← word .comma
       let b ← separated (keywordOrDoubleStarred g) (word .comma)
       return a ++ b,
     separated (keywordOrStarred g) (word .comma),
     separated (keywordOrDoubleStarred g) (word .comma)]

/-- Arguments, as a call of nothing. -/
def positionalArguments (g : Grammar) : Parser Value :=
  let isStarred (v : Value) : Bool := v.isKind .starred
  let collected (positional named : List Value) : List Value :=
    [.null, .list (positional ++ named.filter isStarred),
     .list (named.filter fun v => !isStarred v)]
  firstOf
    [spanning .call do
       let a ← separated
         (firstOf
           [starredExpression g,
            do
              let v ← argumentExpression g
              notAheadWord [.equals]
              return v])
         (word .comma)
       let b ← optional (do let _ ← word .comma; keywordArguments g)
       return collected a (b.getD []),
     spanning .call do
       let b ← keywordArguments g
       return collected [] b]

/-- Arguments with a mistake among them. -/
def badArguments (g : Grammar) : Parser Value :=
  let args := g.call .positionalArguments
  firstOf
    [do
       let a ← args
       let _ ← word .comma
       let _ ← word .star
       faultAtNode a "iterable argument unpacking follows keyword argument unpacking",
     do
       let v ← g.call .expression
       let _ ← comprehensionLoops g
       let _ ← word .comma
       let _ ← optional (firstOf
         [do let _ ← args,
          do
            let _ ← g.call .expression
            let _ ← comprehensionLoops g])
       faultAtNode v "Generator expression must be parenthesized",
     do
       let t ← name
       let _ ← word .equals
       let _ ← g.call .expression
       let _ ← comprehensionLoops g
       faultAtToken t "invalid syntax. Maybe you meant '==' or ':=' instead of '='?",
     do
       let a ← args
       let _ ← comprehensionLoops g
       match (itemsOf a "args").reverse with
       | last :: _ :: _ => faultAtNode last "Generator expression must be parenthesized"
       | _ => fail,
     do
       let _ ← args
       let _ ← word .comma
       let v ← g.call .expression
       let _ ← comprehensionLoops g
       faultAtNode v "Generator expression must be parenthesized",
     do
       let _ ← args
       let _ ← word .comma
       let _ ← args
       faultHere "positional argument follows keyword argument"]

/-- The arguments of a call. -/
def arguments (g : Grammar) : Parser Value :=
  firstOf
    [do
       let a ← g.call .positionalArguments
       optionalWord .comma
       aheadWord [.closeParen]
       return a,
     diagnosis (badArguments g)]

end SourceDocs.Source.Parser
