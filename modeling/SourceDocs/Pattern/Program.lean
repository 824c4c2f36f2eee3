import SourceDocs.Pattern.CharTest
import SourceDocs.Pattern.Reader

/-!
# Programs of patterns

A `Program` is a pattern prepared for matching: the options are resolved into tests of single
characters and of places, groups have become marks at their ends, and a repetition of a single
character is a step of its own.
-/

namespace SourceDocs

/-- A step of a program. -/
inductive Step where
  | char (t : CharTest)
  /-- Remembers the place as the given mark. -/
  | mark (n : Nat)
  | place (a : Anchor) (multiline ascii : Bool)
  | branch (alternatives : List (List Step))
  /-- Repeats a single character. -/
  | units (least : Nat) (most : Option Nat) (mode : RepeatMode) (t : CharTest)
  | loop (least : Nat) (most : Option Nat) (mode : RepeatMode) (body : List Step)
  | atomic (body : List Step)
  /-- What follows, from so many characters back, must or must not match. -/
  | look (back : Nat) (negated : Bool) (body : List Step)
  | never
  | reference (group : Nat) (folding : Folding)
  | conditional (group : Nat) (yes no : List Step)
deriving Inhabited

/-- A pattern prepared for matching. -/
structure Program where
  steps : List Step
  groups : Nat
  /-- The least number of characters that it matches. -/
  least : Nat
  /-- What it was made from. -/
  pattern : Pattern
deriving Inhabited

namespace Pattern

/-- The mark at the start of a group. -/
def startMark (n : Nat) : Nat := 2 * (n - 1)

/-- The mark at the end of a group. -/
def endMark (n : Nat) : Nat := 2 * (n - 1) + 1

/-- The test of a pattern that stands for one character. -/
def unitTest : PatternOptions → Pattern → CharTest
  | o, .literal n => .ofLiteral (Folding.ofOptions o) n false
  | o, .notLiteral n => .ofLiteral (Folding.ofOptions o) n true
  | o, .set negated items => .ofSet o negated items
  | o, .scoped change p => unitTest (change.apply o) p
  | o, _ => .anything o.dotAll

/-- The steps of a pattern with a number of groups, under options. -/
def steps (groups : Nat) : PatternOptions → Pattern → Except ReadFault (List Step)
  | _, .empty => return []
  | _, .never => return [.never]
  | o, .literal n => return [.char (unitTest o (.literal n))]
  | o, .notLiteral n => return [.char (unitTest o (.notLiteral n))]
  | o, .any => return [.char (unitTest o .any)]
  | o, .set negated items => return [.char (unitTest o (.set negated items))]
  | o, .anchor a => return [.place a o.multiline o.ascii]
  | o, .seq p q => do
    let first ← steps groups o p
    let second ← steps groups o q
    return first ++ second
  | o, .alt p q => do
    let first ← steps groups o p
    match q, ← steps groups o q with
    | .alt _ _, [.branch others] => return [.branch (first :: others)]
    | _, second => return [.branch [first, second]]
  | o, .group n p => do
    let body ← steps groups o p
    return .mark (startMark n) :: body ++ [.mark (endMark n)]
  | o, .scoped change p => steps groups (change.apply o) p
  | o, .loop least most mode p => do
    if o.plain then throw .malformed
    else if p.isUnit then return [.units least most mode (unitTest o p)]
    else
      let body ← steps groups o p
      -- rounds without characters change nothing once every mark may have been set
      let least := if p.width.2 = 0 then min least (2 * groups + 2) else least
      return [.loop least most mode body]
  | o, .atomic p => do return [.atomic (← steps groups o p)]
  | o, .look behind negated p => do
    let (least, most) := p.width
    if behind && least ≠ most then throw .malformed
    else return [.look (if behind then least else 0) negated (← steps groups o p)]
  | o, .reference n _ _ => return [.reference n (Folding.ofOptions o)]
  | o, .conditional n yes no => do
    let yes ← steps groups o yes
    let no ← steps groups o no
    return [.conditional n yes no]

/-- Assertions about preceding text go back less far than this. -/
def widestLook : Nat := 0x80000000

/-- Whether an assertion about preceding text goes back too far. -/
def looksTooFar : Pattern → Bool
  | .seq p q | .alt p q | .conditional _ p q => p.looksTooFar || q.looksTooFar
  | .group _ p | .scoped _ p | .loop _ _ _ p | .atomic p => p.looksTooFar
  | .look behind _ p => (behind && widestLook ≤ p.width.1) || p.looksTooFar
  | _ => false

end Pattern

namespace Program

/-- Prepares the pattern with a given text. -/
def ofText (t : Text) : Except Pattern.ReadFault Program := do
  let r ← Pattern.read t
  let steps ← r.pattern.steps r.groups r.options
  if r.pattern.looksTooFar then throw .tooWide
  else return ⟨steps, r.groups, r.pattern.width.1, r.pattern⟩

end Program

end SourceDocs
