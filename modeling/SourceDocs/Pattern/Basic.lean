import SourceDocs.Text.Basic

/-!
# Patterns

A `Pattern` is a regular expression with groups, repetitions of three kinds, assertions about what
stands before and behind a place, references to groups, and options that hold for a part of
it. -/

namespace SourceDocs

/-- Options of a pattern. -/
structure PatternOptions where
  ignoreCase : Bool := false
  multiline : Bool := false
  dotAll : Bool := false
  verbose : Bool := false
  ascii : Bool := false
  /-- Repetitions are forbidden. -/
  plain : Bool := false
deriving DecidableEq, Inhabited

/-- Changes of options: those switched on, those switched off, and the choice of the characters that
count as letters. -/
structure OptionChange where
  on : PatternOptions := {}
  off : PatternOptions := {}
  /-- What the classes hold: `some true` for ASCII only, `some false` for all scripts. -/
  ascii : Option Bool := none
deriving DecidableEq, Inhabited

/-- Options after a change. -/
def OptionChange.apply (c : OptionChange) (o : PatternOptions) : PatternOptions where
  ignoreCase := (o.ignoreCase || c.on.ignoreCase) && !c.off.ignoreCase
  multiline := (o.multiline || c.on.multiline) && !c.off.multiline
  dotAll := (o.dotAll || c.on.dotAll) && !c.off.dotAll
  verbose := (o.verbose || c.on.verbose) && !c.off.verbose
  ascii := c.ascii.getD o.ascii
  plain := o.plain || c.on.plain

/-- Whether a change leaves all options as they are. -/
def OptionChange.isNone (c : OptionChange) : Bool := c = {}

/-- A class of characters. -/
inductive CharClass where
  | digit
  | space
  | word
deriving DecidableEq

/-- A member of a character set. -/
inductive SetItem where
  | single (n : Nat)
  | range (low high : Nat)
  | ofClass (c : CharClass) (negated : Bool)
deriving DecidableEq

/-- A condition on a place. -/
inductive Anchor where
  | lineStart
  | lineEnd
  | textStart
  | textEnd
  | wordBoundary
  | noWordBoundary
deriving DecidableEq

/-- How a repetition chooses its length. -/
inductive RepeatMode where
  | greedy
  | lazy
  /-- As long as possible, with no way back. -/
  | possessive
deriving DecidableEq

/-- A regular expression. -/
inductive Pattern where
  | empty
  | never
  | literal (n : Nat)
  | notLiteral (n : Nat)
  | any
  | set (negated : Bool) (items : List SetItem)
  | anchor (a : Anchor)
  | seq (first second : Pattern)
  | alt (first second : Pattern)
  | group (number : Nat) (p : Pattern)
  | scoped (change : OptionChange) (p : Pattern)
  | loop (least : Nat) (most : Option Nat) (mode : RepeatMode) (p : Pattern)
  | atomic (p : Pattern)
  /-- What follows, or what stands before, must or must not match. -/
  | look (behind negated : Bool) (p : Pattern)
  /-- The text of a group, which has at least and at most so many characters. -/
  | reference (number least most : Nat)
  | conditional (number : Nat) (yes no : Pattern)
deriving DecidableEq, Inhabited

namespace Pattern

/-- Repetitions from this number on are without bound. -/
def manyTimes : Nat := 4294967295

/-- The least and the greatest number of characters that a pattern matches. -/
def width : Pattern → Nat × Nat
  | .empty | .never | .anchor _ | .look _ _ _ => (0, 0)
  | .literal _ | .notLiteral _ | .any | .set _ _ => (1, 1)
  | .seq p q =>
    let (a, b) := p.width
    let (c, d) := q.width
    (min (a + c) (manyTimes - 1), min (b + d) manyTimes)
  | .alt p q =>
    let (a, b) := p.width
    let (c, d) := q.width
    (min a c, max b d)
  | .group _ p | .scoped _ p | .atomic p => p.width
  | .loop least most _ p =>
    let (a, b) := p.width
    (min (a * least) (manyTimes - 1), min (b * most.getD manyTimes) manyTimes)
  | .reference _ least most => (least, most)
  | .conditional _ p q =>
    let (a, b) := p.width
    let (c, d) := q.width
    (min a c, max b d)

/-- The items of a sequence. -/
def items : Pattern → List Pattern
  | .empty => []
  | .seq p q => p.items ++ q.items
  | p => [p]

/-- The sequence of some items. -/
def ofItems : List Pattern → Pattern
  | [] => .empty
  | [p] => p
  | p :: rest => .seq p (ofItems rest)

/-- One of several alternatives; one that is a choice itself stays a choice of its own. -/
def ofAlternatives : List Pattern → Pattern
  | [] => .empty
  | p :: rest =>
    let first := match p with
      | .alt _ _ => .scoped {} p
      | p => p
    if rest.isEmpty then first else .alt first (ofAlternatives rest)

/-- Whether a pattern has no parts. -/
def isLeaf : Pattern → Bool
  | .never | .literal _ | .notLiteral _ | .any | .set _ _ | .anchor _ | .reference _ _ _ => true
  | _ => false

/-- Whether a pattern stands for one character, whatever the options. -/
def isUnit : Pattern → Bool
  | .literal _ | .notLiteral _ | .any | .set _ _ => true
  | .scoped _ p => p.isUnit
  | _ => false

/-- How many parts of a pattern are matched one inside the other, at most, in a text of a length. -/
def depth (length : Nat) : Pattern → Nat
  | .seq p q | .alt p q => p.depth length + q.depth length + 1
  | .conditional _ p q => p.depth length + q.depth length + 1
  | .group _ p => p.depth length + 2
  | .scoped _ p | .atomic p | .look _ _ p => p.depth length + 1
  | .loop least _ _ p => (p.depth length + 2) * (least + length + 2)
  | _ => 1

end Pattern

end SourceDocs
