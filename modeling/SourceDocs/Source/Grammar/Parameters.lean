import SourceDocs.Source.Grammar.Basic

/-!
# Parameters of functions

Functions and lambda expressions have the same kinds of parameters: positional ones, those before
a slash by position only, those behind a star by name only, and the ones that collect the rest.  The
parameters of a lambda expression have no annotations, and end with a colon instead of a bracket.
-/

namespace SourceDocs.Source.Parser

/-- Where parameters stand. -/
inductive ParameterForm where
  | function
  | lambda
deriving DecidableEq

/-- The word behind the last parameter. -/
def ParameterForm.closing : ParameterForm → Word
  | .function => .closeParen
  | .lambda => .colon

/-- The parameters behind a star: the one that collects, those by name with their defaults, and the
one that collects the rest by name. -/
structure StarredParameters where
  collecting : Value := .null
  named : List (Value × Value) := []
  collectingNamed : Value := .null

/-- A parameter with an optional annotation. -/
def parameter (g : Grammar) (form : ParameterForm) : Parser Value :=
  spanning .arg do
    let t ← name
    let annotation ← match form with
      | .function => orNull (do let _ ← word .colon; g.call .expression)
      | .lambda => pure .null
    return [identifier t, annotation, .null]

/-- A parameter whose annotation may be starred. -/
def starAnnotatedParameter (g : Grammar) : Parser Value :=
  spanning .arg do
    let t ← name
    let _ ← word .colon
    let annotation ← g.call .starExpression
    return [identifier t, annotation, .null]

/-- A comma, or the end of the parameters ahead. -/
def parameterEnd (form : ParameterForm) : Parser Unit :=
  firstOf [do let _ ← word .comma, aheadWord [form.closing]]

/-- A default value. -/
def defaultValue (g : Grammar) : Parser Value := do
  let t ← word .equals
  firstOf
    [g.call .expression,
     diagnosis do
       aheadWord [.closeParen, .comma]
       faultAtToken t "expected default value expression"]

/-- A parameter without a default. -/
def plainParameter (g : Grammar) (form : ParameterForm) : Parser Value := do
  let p ← parameter g form
  parameterEnd form
  return p

/-- A parameter with a default. -/
def defaultParameter (g : Grammar) (form : ParameterForm) : Parser (Value × Value) := do
  let p ← parameter g form
  let d ← defaultValue g
  parameterEnd form
  return (p, d)

/-- A parameter that may have a default. -/
def namedParameter (g : Grammar) (form : ParameterForm) : Parser (Value × Value) := do
  let p ← parameter g form
  let d ← orNull (defaultValue g)
  parameterEnd form
  return (p, d)

/-- A slash behind parameters. -/
def slash (form : ParameterForm) : Parser Unit := do
  let _ ← word .slash
  parameterEnd form

/-- Parameters without defaults and a slash. -/
def plainBeforeSlash (g : Grammar) (form : ParameterForm) : Parser (List Value) := do
  let found ← many1 (plainParameter g form)
  slash form
  return found

/-- Parameters, of which some have defaults, and a slash. -/
def defaultsBeforeSlash (g : Grammar) (form : ParameterForm) :
    Parser (List Value × List (Value × Value)) := do
  let plain ← many (plainParameter g form)
  let defaults ← many1 (defaultParameter g form)
  slash form
  return (plain, defaults)

/-! ## Mistakes -/

/-- Parameters in an order that is not allowed. -/
def badParameters (g : Grammar) (form : ParameterForm) : Parser Unit :=
  let beforeSlash : Parser Unit := firstOf
    [do let _ ← plainBeforeSlash g form, do let _ ← defaultsBeforeSlash g form]
  let named : Parser Unit := do let _ ← many (namedParameter g form)
  firstOf
    [do
       let _ ← many (plainParameter g form)
       firstOf
         [do let _ ← defaultsBeforeSlash g form, do let _ ← many1 (defaultParameter g form)]
       let p ← plainParameter g form
       faultAtNode p "non-default argument follows default argument",
     do
       let _ ← many (plainParameter g form)
       let t ← word .openParen
       match form with
       | .function => let _ ← many1 (plainParameter g form)
       | .lambda => let _ ← separated (parameter g form) (word .comma)
       optionalWord .comma
       let _ ← word .closeParen
       faultAtToken t "parameters cannot be parenthesized",
     do
       let t ← word .slash
       let _ ← word .comma
       faultAtToken t "at least one argument must precede /",
     do
       beforeSlash
       named
       let t ← word .slash
       faultAtToken t "/ may appear only once",
     do
       let _ ← optional beforeSlash
       named
       let _ ← word .star
       firstOf [do let _ ← word .comma, do let _ ← plainParameter g form]
       named
       let t ← word .slash
       faultAtToken t "/ must be ahead of *",
     do
       let _ ← many1 (namedParameter g form)
       let _ ← word .slash
       let t ← word .star
       faultAtToken t "expected comma between / and *"]

/-- A star with a mistake behind it. -/
def badStar (g : Grammar) (form : ParameterForm) : Parser StarredParameters :=
  let commaOrPlain : Parser Unit :=
    firstOf [do let _ ← plainParameter g form, do let _ ← word .comma]
  firstOf
    [do
       let t ← word .star
       firstOf
         [do let _ ← word form.closing,
          do
            let _ ← word .comma
            let _ ← anyWord [form.closing, .doubleStar]]
       match form with
       | .function => faultAtToken t "named arguments must follow bare *"
       | .lambda => faultHere "named arguments must follow bare *",
     do
       let _ ← word .star
       let _ ← parameter g form
       let t ← word .equals
       faultAtToken t "var-positional argument cannot have default value",
     do
       let _ ← word .star
       commaOrPlain
       let _ ← many (namedParameter g form)
       let t ← word .star
       commaOrPlain
       faultAtToken t "* argument may appear only once"]

/-- A double star with a mistake behind it. -/
def badDoubleStar (g : Grammar) (form : ParameterForm) : Parser Value := do
  let _ ← word .doubleStar
  let _ ← parameter g form
  firstOf
    [do
       let t ← word .equals
       faultAtToken t "var-keyword argument cannot have default value",
     do
       let _ ← word .comma
       let p ← parameter g form
       faultAtNode p "arguments cannot follow var-keyword argument",
     do
       let _ ← word .comma
       let t ← anyWord [.star, .doubleStar, .slash]
       faultAtToken t "arguments cannot follow var-keyword argument"]

/-! ## Parameters in order -/

/-- The parameter that collects the rest by name. -/
def collectingNamed (g : Grammar) (form : ParameterForm) : Parser Value :=
  firstOf
    [diagnosis (badDoubleStar g form),
     do
       let _ ← word .doubleStar
       plainParameter g form]

/-- The parameters from the star on. -/
def starredParameters (g : Grammar) (form : ParameterForm) : Parser StarredParameters :=
  firstOf
    [diagnosis (badStar g form),
     do
       let _ ← word .star
       let collecting ← plainParameter g form
       let named ← many (namedParameter g form)
       return ⟨collecting, named, ← orNull (collectingNamed g form)⟩,
     match form with
     | .function => do
       let _ ← word .star
       let collecting ← starAnnotatedParameter g
       parameterEnd form
       let named ← many (namedParameter g form)
       return ⟨collecting, named, ← orNull (collectingNamed g form)⟩
     | .lambda => fail,
     do
       let _ ← word .star
       let _ ← word .comma
       let named ← many1 (namedParameter g form)
       return ⟨.null, named, ← orNull (collectingNamed g form)⟩,
     do return ⟨.null, [], ← collectingNamed g form⟩]

/-- The node of all parameters. -/
def parametersNode (byPosition : List Value) (plain : List Value) (defaults : List (Value × Value))
    (earlierDefaults : List Value) (starred : Option StarredParameters) : Value :=
  let s := starred.getD {}
  bare .arguments
    [.list byPosition, .list (plain ++ defaults.map Prod.fst), s.collecting,
     .list (s.named.map Prod.fst), .list (s.named.map Prod.snd), s.collectingNamed,
     .list (earlierDefaults ++ defaults.map Prod.snd)]

/-- No parameters. -/
def noParameters : Value := parametersNode [] [] [] [] none

/-- Parameters, at least one. -/
def parameters (g : Grammar) (form : ParameterForm) : Parser Value :=
  let starred := optional (starredParameters g form)
  let defaults := many (defaultParameter g form)
  firstOf
    [diagnosis do
       badParameters g form
       fail,
     do
       let before ← plainBeforeSlash g form
       let plain ← many (plainParameter g form)
       let withDefaults ← defaults
       return parametersNode before plain withDefaults [] (← starred),
     do
       let (plain, early) ← defaultsBeforeSlash g form
       let withDefaults ← defaults
       return parametersNode (plain ++ early.map Prod.fst) [] withDefaults (early.map Prod.snd)
         (← starred),
     do
       let plain ← many1 (plainParameter g form)
       let withDefaults ← defaults
       return parametersNode [] plain withDefaults [] (← starred),
     do
       let withDefaults ← many1 (defaultParameter g form)
       return parametersNode [] [] withDefaults [] (← starred),
     do return parametersNode [] [] [] [] (some (← starredParameters g form))]

end SourceDocs.Source.Parser
