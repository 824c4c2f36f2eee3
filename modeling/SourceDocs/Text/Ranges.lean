import SourceDocs.Text.Basic

/-!
# Sets of code points as ranges

A property of code points is written as the list of its ranges in hexadecimal, as in `30-39 5f`, in
increasing order.  `CodePointSet.ofLines` reads such lists and `CodePointSet.contains` looks a
code point up by halving.  A map between code points is written as entries `61 41 42` divided by
semicolons: the first number is mapped to the others.
-/

namespace SourceDocs

/-- A set of code points: its ranges, both ends included, in increasing order. -/
structure CodePointSet where
  ranges : Array (Nat × Nat)

namespace CodePointSet

/-- The value of a hexadecimal numeral; what is no digit counts as zero. -/
def hexValue (digits : List Char) : Nat :=
  digits.foldl (fun n c => n * 16 + (Text.digitValue? c).getD 0) 0

/-- The range written `lo-hi`, or `lo` alone. -/
def readRange (word : List Char) : Nat × Nat :=
  let lo := hexValue (word.takeWhile (· ≠ '-'))
  match word.dropWhile (· ≠ '-') with
  | [] => (lo, lo)
  | _ :: hi => (lo, hexValue hi)

/-- Reads lines of ranges divided by blanks. -/
def ofLines (lines : List String) : CodePointSet :=
  ⟨(lines.flatMap fun line => (Text.partsAt ' ' line.toList).map readRange).toArray⟩

/-- Looks for the range of `n` among those from `lo` up to but not including `hi`. -/
def search (ranges : Array (Nat × Nat)) (n : Nat) : Nat → Nat → Nat → Bool
  | 0, _, _ => false
  | fuel + 1, lo, hi =>
    if lo < hi then
      let middle := (lo + hi) / 2
      match ranges[middle]? with
      | none => false
      | some (first, last) =>
        if n < first then search ranges n fuel lo middle
        else if last < n then search ranges n fuel (middle + 1) hi
        else true
    else false

/-- Whether a code point is in one of the ranges. -/
def contains (set : CodePointSet) (c : CodePoint) : Bool :=
  search set.ranges c.val set.ranges.size 0 set.ranges.size

end CodePointSet

/-- A map from code points to sequences of code points, in increasing order of the first. -/
structure CodePointMap where
  entries : Array (Nat × List Nat)

namespace CodePointMap

/-- The entry written as a code point and its images divided by blanks. -/
def readEntry (entry : List Char) : Nat × List Nat :=
  match (Text.partsAt ' ' entry).map CodePointSet.hexValue with
  | [] => (0, [])
  | key :: images => (key, images)

/-- Reads lines of entries divided by semicolons. -/
def ofLines (lines : List String) : CodePointMap :=
  ⟨(lines.flatMap fun line => (Text.partsAt ';' line.toList).map readEntry).toArray⟩

/-- Looks for the entry of `n` among those from `lo` up to but not including `hi`. -/
def search (entries : Array (Nat × List Nat)) (n : Nat) : Nat → Nat → Nat → Option (List Nat)
  | 0, _, _ => none
  | fuel + 1, lo, hi =>
    if lo < hi then
      let middle := (lo + hi) / 2
      match entries[middle]? with
      | none => none
      | some (key, images) =>
        if n < key then search entries n fuel lo middle
        else if key < n then search entries n fuel (middle + 1) hi
        else some images
    else none

/-- The images of a code point, if it has an entry. -/
def find? (map : CodePointMap) (n : Nat) : Option (List Nat) :=
  search map.entries n map.entries.size 0 map.entries.size

end CodePointMap

end SourceDocs
