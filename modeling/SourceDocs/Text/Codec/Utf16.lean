import SourceDocs.Text.Basic

/-!
# UTF-16 and UTF-32

Texts as numbers of two or four bytes, in either order of the bytes.
-/

namespace SourceDocs

namespace Utf16

/-- A number in two bytes. -/
def bytesOf (bigEndian : Bool) (n : Nat) : List UInt8 :=
  let pair := [UInt8.ofNat (n % 256), UInt8.ofNat (n / 256)]
  if bigEndian then pair.reverse else pair

/-- The bytes of a code point. -/
def encodePoint (bigEndian : Bool) (c : CodePoint) : List UInt8 :=
  if c.val < 0x10000 then bytesOf bigEndian c.val
  else
    let n := c.val - 0x10000
    bytesOf bigEndian (0xD800 + n / 0x400) ++ bytesOf bigEndian (0xDC00 + n % 0x400)

/-- The bytes of a text, behind a byte order mark if one is asked for. -/
def encode? (bigEndian marked : Bool) (t : Text) : Option (List UInt8) :=
  if Text.isWellFormed t then
    some ((if marked then bytesOf bigEndian 0xFEFF else []) ++ t.flatMap (encodePoint bigEndian))
  else none

/-- Reads pairs of bytes as units. -/
def units (bigEndian : Bool) : List UInt8 → Option (List Nat)
  | [] => some []
  | [_] => none
  | a :: b :: rest =>
    (units bigEndian rest).map fun us =>
      (if bigEndian then a.toNat * 256 + b.toNat else b.toNat * 256 + a.toNat) :: us

/-- Joins the surrogate pairs among units. -/
def joinUnits : List Nat → Option Text
  | [] => some []
  | u :: rest =>
    if 0xD800 ≤ u ∧ u < 0xDC00 then
      match rest with
      | v :: more =>
        if 0xDC00 ≤ v ∧ v < 0xE000 then
          let point := CodePoint.ofNat (0x10000 + (u - 0xD800) * 0x400 + (v - 0xDC00))
          (joinUnits more).map (point :: ·)
        else none
      | [] => none
    else if 0xDC00 ≤ u ∧ u < 0xE000 then none
    else (joinUnits rest).map (CodePoint.ofNat u :: ·)

/-- Reads bytes; a byte order mark counts if one may stand there. -/
def decode? (bigEndian marked : Bool) (bytes : List UInt8) : Option Text :=
  if marked ∧ [0xFE, 0xFF].isPrefixOf bytes then (units true (bytes.drop 2)).bind joinUnits
  else if marked ∧ [0xFF, 0xFE].isPrefixOf bytes then (units false (bytes.drop 2)).bind joinUnits
  else (units bigEndian bytes).bind joinUnits

end Utf16

namespace Utf32

/-- A number in four bytes. -/
def bytesOf (bigEndian : Bool) (n : Nat) : List UInt8 :=
  let bytes := [UInt8.ofNat (n % 256), UInt8.ofNat (n / 256), UInt8.ofNat (n / 65536),
    UInt8.ofNat (n / 16777216)]
  if bigEndian then bytes.reverse else bytes

/-- The bytes of a text, behind a byte order mark if one is asked for. -/
def encode? (bigEndian marked : Bool) (t : Text) : Option (List UInt8) :=
  if Text.isWellFormed t then
    some ((if marked then bytesOf bigEndian 0xFEFF else [])
      ++ t.flatMap fun c => bytesOf bigEndian c.val)
  else none

/-- Reads bytes in an order. -/
def decodeIn (bigEndian : Bool) : List UInt8 → Option Text
  | [] => some []
  | a :: b :: c :: d :: rest => do
    let number (a b c d : UInt8) : Nat :=
      ((a.toNat * 256 + b.toNat) * 256 + c.toNat) * 256 + d.toNat
    let point ← CodePoint.ofNat? (if bigEndian then number a b c d else number d c b a)
    if point.isSurrogate then none else return point :: (← decodeIn bigEndian rest)
  | _ => none

/-- Reads bytes; a byte order mark counts if one may stand there. -/
def decode? (bigEndian marked : Bool) (bytes : List UInt8) : Option Text :=
  if marked ∧ [0, 0, 0xFE, 0xFF].isPrefixOf bytes then decodeIn true (bytes.drop 4)
  else if marked ∧ [0xFF, 0xFE, 0, 0].isPrefixOf bytes then decodeIn false (bytes.drop 4)
  else decodeIn bigEndian bytes

end Utf32

end SourceDocs
