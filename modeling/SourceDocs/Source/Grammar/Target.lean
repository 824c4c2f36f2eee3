import SourceDocs.Source.Grammar.Atom

/-!
# Targets

Targets are the expressions that an assignment, a loop or a deletion may act on: names, attributes,
subscripts, and tuples and lists of them.
-/

namespace SourceDocs.Source.Parser

/-- What follows a primary that is not the end of a target. -/
def targetContinues : List Word := [.openParen, .openBracket, .dot]

/-- The primary before the last attribute or subscript of a target. -/
def targetPrimary (g : Grammar) : Parser Value := do
  let start ← startPlace
  let guarded (x : Parser Value) : Parser Value := do
    let v ← x
    aheadWord targetContinues
    return v
  let first ← guarded (g.call .atom)
  grow (fun v => firstOf
    [guarded (attributeTrailer start v), guarded (subscriptTrailer g start v),
     guarded (generatorTrailer g start v), guarded (callTrailer g start v)]) first

/-- An attribute or a subscript as a target. -/
def memberTarget (g : Grammar) (context : NodeKind) : Parser Value := do
  let start ← startPlace
  firstOf
    [do
       let v ← g.call .targetPrimary
       let _ ← word .dot
       let t ← name
       notAheadWord targetContinues
       return placed .attributeRef [v, identifier t, bare context] start (← stopPlace),
     do
       let v ← g.call .targetPrimary
       let s ← enclosed .openBracket .closeBracket (slices g)
       notAheadWord targetContinues
       return placed .subscript [v, s, bare context] start (← stopPlace)]

/-- A target that may be starred. -/
def starTarget (g : Grammar) : Parser Value :=
  firstOf
    [spanning .starred do
       let _ ← word .star
       notAheadWord [.star]
       let v ← g.call .starTarget
       return [withContext .store v, bare .store],
     g.call .starAtomTarget]

/-- Targets between brackets as a tuple: none, or at least one comma. -/
def tupleTargets (g : Grammar) : Parser (List Value) := do
  let first ← g.call .starTarget
  let rest ← many (do let _ ← word .comma; g.call .starTarget)
  if rest.isEmpty then
    let _ ← word .comma
  else optionalWord .comma
  return first :: rest

/-- A name, or targets in brackets. -/
def atomTarget (g : Grammar) : Parser Value :=
  firstOf
    [nameIn .store,
     do
       let v ← enclosed .openParen .closeParen (g.call .starAtomTarget)
       return withContext .store v,
     spanning .tuple do
       let found ← enclosed .openParen .closeParen (optional (tupleTargets g))
       return [.list (found.getD []), bare .store],
     spanning .list do
       let found ← enclosed .openBracket .closeBracket (optional (commaList (g.call .starTarget)))
       return [.list (found.getD []), bare .store]]

/-- A target that is not starred itself. -/
def starAtomTarget (g : Grammar) : Parser Value := firstOf [memberTarget g .store, atomTarget g]

/-- A target of its own, perhaps in brackets. -/
def singleTarget (g : Grammar) : Parser Value :=
  firstOf
    [memberTarget g .store, nameIn .store,
     enclosed .openParen .closeParen (g.call .singleTarget)]

/-- Targets of a deletion. -/
def deletionTargets (g : Grammar) : Parser (List Value) := commaList (g.call .deletionTarget)

/-- A target of a deletion. -/
def deletionTarget (g : Grammar) : Parser Value :=
  firstOf
    [memberTarget g .del,
     nameIn .del,
     do
       let v ← enclosed .openParen .closeParen (g.call .deletionTarget)
       return withContext .del v,
     spanning .tuple do
       let found ← enclosed .openParen .closeParen (optional (deletionTargets g))
       return [.list (found.getD []), bare .del],
     spanning .list do
       let found ← enclosed .openBracket .closeBracket (optional (deletionTargets g))
       return [.list (found.getD []), bare .del]]

/-- A list or a tuple, perhaps in brackets, where only one target may stand. -/
def badAnnotatedTarget (g : Grammar) : Parser Value :=
  firstOf
    [g.call .list, g.call .tuple,
     enclosed .openParen .closeParen (g.call .badAnnotatedTarget)]

end SourceDocs.Source.Parser
