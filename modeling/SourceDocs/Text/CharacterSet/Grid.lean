import SourceDocs.Text.Basic

/-!
# Grids of characters

A coded character set gives numbers to characters.  A `Grid` holds it as runs: the characters of a
run have consecutive codes from the first one on.  A replacement character stands at a code that no
character has.
-/

namespace SourceDocs

/-- Runs of characters with consecutive codes. -/
abbrev Grid := List (Nat × String)

namespace Grid

/-- What stands at the codes that no character has. -/
def unused : Char := '\uFFFD'

/-- What stands at a code, if a run reaches it. -/
def at? (g : Grid) (code : Nat) : Option Char :=
  g.findSome? fun (first, chars) => if first ≤ code then chars.toList[code - first]? else none

/-- The character with a code. -/
def get? (g : Grid) (code : Nat) : Option CodePoint :=
  match g.at? code with
  | some c => if c = unused then none else some (CodePoint.ofChar c)
  | none => none

/-- The first code of a character. -/
def code? (g : Grid) (c : CodePoint) : Option Nat :=
  if c.val = unused.toNat then none
  else g.findSome? fun (first, chars) => (chars.toList.idxOf? c.toChar).map (first + ·)

end Grid

end SourceDocs
