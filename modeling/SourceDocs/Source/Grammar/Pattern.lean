import SourceDocs.Source.Grammar.Target

/-!
# Patterns

The patterns of a match statement: literals, names, values, sequences, mappings, classes and
alternatives.
-/

namespace SourceDocs.Source.Parser

/-- What shows that a name is not captured. -/
def captureContinues : List Word := [.dot, .openParen, .equals]

/-- A name that a pattern binds. -/
def captureName : Parser Value := do
  notAheadWord [.underscore]
  let t ← name
  notAheadWord captureContinues
  return identifier t

/-- A number with an optional minus sign. -/
def signedNumber (one : Parser Value) : Parser Value :=
  firstOf
    [one,
     spanning .unaryOp do
       let _ ← word .minus
       return [bare .uSub, ← one]]

/-- A number that must be real or must be imaginary. -/
def partNumber (imaginary : Bool) : Parser Value := do
  let v ← number
  let isComplex := match v.field? "value" with
    | some (.complex _ _) => true
    | _ => false
  if isComplex = imaginary then return v
  else
    let what := if imaginary then "imaginary number required in complex literal"
      else "real number required in complex literal"
    faultAtNode v what

/-- A sum or a difference of a real and an imaginary number. -/
def complexNumber : Parser Value :=
  spanning .binOp do
    let real ← signedNumber (partNumber false)
    let op ← operatorOf [(.plus, .add), (.minus, .sub)]
    let imaginary ← partNumber true
    return [real, bare op, imaginary]

/-- A literal that is compared by value. -/
def literalValue (g : Grammar) : Parser Value :=
  firstOf
    [do
       let v ← signedNumber number
       notAheadWord [.plus, .minus]
       return v,
     complexNumber,
     g.call .strings]

/-- A literal pattern. -/
def literalPattern (g : Grammar) : Parser Value :=
  firstOf
    [spanning .matchValue do return [← literalValue g],
     spanning .matchSingleton do
       let v ← constantWord
       return [fieldOf v "value"]]

/-- A name with attributes, at least so many. -/
def attributeChain (least : Nat) : Parser Value := do
  let start ← startPlace
  let first ← nameIn .load
  let (v, count) ← grow (fun (p : Value × Nat) => do
    let _ ← word .dot
    let t ← name
    return (placed .attributeRef [p.1, identifier t, bare .load] start (← stopPlace), p.2 + 1))
    (first, 0)
  if count < least then fail else return v

/-- Patterns of a sequence, at least one. -/
def sequenceItems (g : Grammar) : Parser (List Value) :=
  commaList (firstOf [g.call .starPattern, g.call .pattern])

/-- Patterns of a sequence without brackets. -/
def openSequence (g : Grammar) : Parser (List Value) := do
  let first ← firstOf [g.call .starPattern, g.call .pattern]
  let _ ← word .comma
  let rest ← optional (sequenceItems g)
  return first :: rest.getD []

/-- A key of a mapping and the pattern of its value. -/
def keyPattern (g : Grammar) : Parser (Value × Value) := do
  let key ← firstOf [literalValue g, constantWord, attributeChain 1]
  let _ ← word .colon
  return (key, ← g.call .pattern)

/-- The name that binds the rest of a mapping. -/
def restName : Parser Value := do
  let _ ← word .doubleStar
  captureName

/-- A mapping pattern. -/
def mappingPattern (g : Grammar) : Parser Value :=
  let build (entries : List (Value × Value)) (rest : Value) : List Value :=
    [.list (entries.map Prod.fst), .list (entries.map Prod.snd), rest]
  let entries := separated (keyPattern g) (word .comma)
  spanning .matchMapping (firstOf
    [enclosed .openBrace .closeBrace (pure (build [] .null)),
     enclosed .openBrace .closeBrace do
       let rest ← restName
       optionalWord .comma
       return build [] rest,
     enclosed .openBrace .closeBrace do
       let found ← entries
       let _ ← word .comma
       let rest ← restName
       optionalWord .comma
       return build found rest,
     enclosed .openBrace .closeBrace do
       let found ← entries
       optionalWord .comma
       return build found .null])

/-- Patterns of a class by position. -/
def positionalPatterns (g : Grammar) : Parser (List Value) :=
  separated (g.call .pattern) (word .comma)

/-- Patterns of a class by name. -/
def keywordPatterns (g : Grammar) : Parser (List (Value × Value)) :=
  separated (do
    let t ← name
    let _ ← word .equals
    return (identifier t, ← g.call .pattern)) (word .comma)

/-- A class pattern. -/
def classPattern (g : Grammar) : Parser Value :=
  let build (cls : Value) (positional : List Value) (named : List (Value × Value)) : List Value :=
    [cls, .list positional, .list (named.map Prod.fst), .list (named.map Prod.snd)]
  let inBrackets (x : Parser (List Value × List (Value × Value))) : Parser Value :=
    spanning .matchClass do
      let cls ← attributeChain 0
      let (positional, named) ← enclosed .openParen .closeParen x
      return build cls positional named
  firstOf
    [inBrackets (pure ([], [])),
     inBrackets do
       let p ← positionalPatterns g
       optionalWord .comma
       return (p, []),
     inBrackets do
       let k ← keywordPatterns g
       optionalWord .comma
       return ([], k),
     inBrackets do
       let p ← positionalPatterns g
       let _ ← word .comma
       let k ← keywordPatterns g
       optionalWord .comma
       return (p, k),
     diagnosis do
       let _ ← attributeChain 0
       let _ ← word .openParen
       let _ ← optional (do let _ ← positionalPatterns g; word .comma)
       let _ ← keywordPatterns g
       let _ ← word .comma
       let late ← positionalPatterns g
       faultAtNode (late.headD .null) "positional patterns follow keyword patterns"]

/-- A pattern without alternatives. -/
def closedPattern (g : Grammar) : Parser Value :=
  firstOf
    [literalPattern g,
     spanning .matchAs do return [.null, ← captureName],
     spanning .matchAs do
       let _ ← word .underscore
       return [.null, .null],
     spanning .matchValue do
       let v ← attributeChain 1
       notAheadWord captureContinues
       return [v],
     enclosed .openParen .closeParen (g.call .pattern),
     spanning .matchSequence do
       let found ← enclosed .openBracket .closeBracket (optional (sequenceItems g))
       return [.list (found.getD [])],
     spanning .matchSequence do
       let found ← enclosed .openParen .closeParen (optional (openSequence g))
       return [.list (found.getD [])],
     mappingPattern g,
     classPattern g]

/-- A pattern for the rest of a sequence. -/
def starPattern : Parser Value :=
  firstOf
    [spanning .matchStar do
       let _ ← word .star
       return [← captureName],
     spanning .matchStar do
       let _ ← word .star
       let _ ← word .underscore
       return [.null]]

/-- Alternatives. -/
def orPattern (g : Grammar) : Parser Value := do
  let start ← startPlace
  let found ← separated (g.call .closedPattern) (word .bar)
  match found with
  | [one] => return one
  | _ => return placed .matchOr [.list found] start (← stopPlace)

/-- A pattern, perhaps with a name. -/
def pattern (g : Grammar) : Parser Value :=
  firstOf
    [spanning .matchAs do
       let p ← orPattern g
       let _ ← word .kAs
       return [p, ← captureName],
     diagnosis do
       let _ ← orPattern g
       let _ ← word .kAs
       firstOf
         [do
            let t ← word .underscore
            faultAtToken t "cannot use '_' as a target",
          do
            notAhead name
            let v ← g.call .expression
            faultAtNode v "invalid pattern target"],
     orPattern g]

/-- The pattern of a case: a sequence may stand without brackets. -/
def patterns (g : Grammar) : Parser Value :=
  firstOf
    [spanning .matchSequence do return [.list (← openSequence g)],
     g.call .pattern]

end SourceDocs.Source.Parser
