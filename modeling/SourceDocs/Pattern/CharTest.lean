import SourceDocs.Pattern.Basic
import SourceDocs.Text.Alphanumeric
import SourceDocs.Text.Case
import SourceDocs.Text.Lines

/-!
# Tests of single characters

A `CharTest` says which characters a part of a pattern accepts.  When case is ignored, the small
letter of a character is compared with the small letters of the members, and a few small letters
count as the same although neither is the other's partner.
-/

namespace SourceDocs

/-- The letters whose capital and small forms count as the same. -/
inductive Folding where
  | none
  | ascii
  | all
deriving DecidableEq

namespace Folding

/-- The folding that options ask for. -/
def ofOptions (o : PatternOptions) : Folding :=
  if !o.ignoreCase then .none else if o.ascii then .ascii else .all

/-- The small letter of a code point. -/
def lower (f : Folding) (n : Nat) : Nat :=
  match f with
  | .none => n
  | .ascii => if 65 ≤ n && n ≤ 90 then n + 32 else n
  | .all => lowerCase n

/-- Whether a code point has a partner. -/
def isCased (f : Folding) (n : Nat) : Bool :=
  match f with
  | .none => false
  | .ascii => (65 ≤ n && n ≤ 90) || (97 ≤ n && n ≤ 122)
  | .all => SourceDocs.isCased n

/-- Small letters that count as the same letter although neither is the other's partner. -/
def alikeLetters : List (List Nat) :=
  [[0x69, 0x131], [0x73, 0x17F], [0xB5, 0x3BC], [0x345, 0x3B9, 0x1FBE], [0x390, 0x1FD3],
   [0x3B0, 0x1FE3], [0x3B2, 0x3D0], [0x3B5, 0x3F5], [0x3B8, 0x3D1], [0x3BA, 0x3F0], [0x3C0, 0x3D6],
   [0x3C1, 0x3F1], [0x3C2, 0x3C3], [0x3C6, 0x3D5], [0x432, 0x1C80], [0x434, 0x1C81],
   [0x43E, 0x1C82], [0x441, 0x1C83], [0x442, 0x1C84, 0x1C85], [0x44A, 0x1C86], [0x463, 0x1C87],
   [0xA64B, 0x1C88], [0x1E61, 0x1E9B], [0xFB05, 0xFB06]]

/-- The small letters that count as the same as a given one. -/
def alike (f : Folding) (n : Nat) : List Nat :=
  if f = .all then (alikeLetters.find? fun g => g.contains n).getD [n] else [n]

end Folding

/-- A member of a test. -/
inductive Member where
  | range (low high : Nat)
  /-- The character or its capital letter is in a range. -/
  | capitals (low high : Nat)
  | ofClass (c : CharClass) (negated ascii : Bool)
deriving DecidableEq

/-- Whether a code point belongs to a class. -/
def CharClass.contains (k : CharClass) (ascii : Bool) (c : CodePoint) : Bool :=
  match k with
  | .digit => if ascii then c.toChar.isDigit else c.isDecimal
  | .space => if ascii then c.val = 32 || (9 ≤ c.val && c.val ≤ 13) else Lines.isBlank c
  | .word =>
    if ascii then c.toChar.isAlphanum || c.toChar = '_' else c.isAlphanumeric || c.toChar = '_'

namespace Member

/-- Whether a code point belongs to a member. -/
def contains (m : Member) (c : CodePoint) : Bool :=
  match m with
  | .range low high => low ≤ c.val && c.val ≤ high
  | .capitals low high =>
    (low ≤ c.val && c.val ≤ high) || (low ≤ upperCase c.val && upperCase c.val ≤ high)
  | .ofClass k negated ascii => k.contains ascii c ≠ negated

end Member

/-- The form in which a test is written. -/
inductive TestForm where
  | literal
  | set
  | other
deriving DecidableEq

/-- A test of one character. -/
structure CharTest where
  form : TestForm
  folding : Folding := .none
  negated : Bool := false
  members : List Member
deriving DecidableEq

namespace CharTest

/-- Whether a character passes a test. -/
def accepts (t : CharTest) (c : CodePoint) : Bool :=
  let c := if t.folding = .none then c else CodePoint.ofNat (t.folding.lower c.val)
  t.members.any (·.contains c) ≠ t.negated

/-- The last code point of the first plane. -/
def planeEnd : Nat := 0xFFFF

/-- The members that are one of some numbers. -/
def singles (ns : List Nat) : List Member := ns.map fun n => .range n n

/-- The test for a character, or for any other one. -/
def ofLiteral (f : Folding) (n : Nat) (negated : Bool) : CharTest :=
  let small := f.lower n
  let alike := f.alike small
  if !f.isCased n then
    { form := if negated then .other else .literal, negated := negated, members := singles [n] }
  else if alike = [small] then
    { form := .other, folding := f, negated := negated, members := singles [small] }
  else { form := .set, folding := f, negated := negated, members := singles alike }

/-- The small letters of the members of a range, as far as they lie outside of it. -/
def smallOutside (f : Folding) (low high : Nat) : List Nat :=
  match f with
  | .none => []
  | .ascii => ((List.range 26).map (· + 65)).filterMap fun n =>
      if low ≤ n && n ≤ high then some (n + 32) else none
  | .all => lowerMap.entries.toList.filterMap fun (n, images) =>
      if low ≤ n && n ≤ high then images.head? else none

/-- The members for a range of code points. -/
def rangeMembers (f : Folding) (low high : Nat) : List Member :=
  if f = .none then [.range low high]
  else
    let top := min high planeEnd
    let small := smallOutside f low top
    let holds (n : Nat) : Bool := (low ≤ n && n ≤ top) || small.contains n
    let alike := if f = .all then Folding.alikeLetters.filter (·.any holds) else []
    let inPlane := if low ≤ top then .range low top :: singles (small ++ alike.flatten) else []
    if planeEnd < high then inPlane ++ [.capitals low high] else inPlane

/-- The members for an item of a set. -/
def membersOf (o : PatternOptions) (f : Folding) : SetItem → List Member
  | .single n => singles (f.alike (f.lower n))
  | .range low high => rangeMembers f low high
  | .ofClass k negated => [.ofClass k negated o.ascii]

/-- Whether case plays a role in a range. -/
def rangeIsCased (f : Folding) (low high : Nat) : Bool :=
  match f with
  | .none => false
  | .ascii => (low ≤ 90 && 65 ≤ high) || (low ≤ 122 && 97 ≤ high) || planeEnd < high
  | .all =>
    let inRange (n : Nat) : Bool := low ≤ n && n ≤ high
    planeEnd < high || lowerMap.entries.any (fun e => inRange e.1)
      || upperMap.entries.any (fun e => inRange e.1)
      || expandingSet.ranges.any fun r => low ≤ r.2 && r.1 ≤ high

/-- Whether case plays a role in an item of a set. -/
def itemIsCased (f : Folding) : SetItem → Bool
  | .single n => f.isCased n
  | .range low high => rangeIsCased f low high
  | .ofClass _ _ => false

/-- The test for a set of characters. -/
def ofSet (o : PatternOptions) (negated : Bool) (items : List SetItem) : CharTest :=
  let f := Folding.ofOptions o
  { form := .set, folding := if items.any (itemIsCased f) then f else .none, negated := negated
    members := items.flatMap (membersOf o f) }

/-- The test for any character, or for any but the end of a line. -/
def anything (dotAll : Bool) : CharTest :=
  if dotAll then { form := .other, members := [.range 0 0x10FFFF] }
  else { form := .other, negated := true, members := singles [10] }

end CharTest

end SourceDocs
