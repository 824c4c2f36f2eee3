import SourceDocs.Text.Basic

/-!
# UTF-7

ASCII characters stand for themselves, apart from a few.  A plus sign begins a section of base 64
digits, which hold UTF-16 units; a minus sign ends it, and so does any other character that is no
digit.
-/

namespace SourceDocs.Utf7

/-- The value of a digit of base 64. -/
def digit? (b : UInt8) : Option Nat :=
  let n := b.toNat
  if 0x41 ≤ n && n ≤ 0x5A then some (n - 0x41)
  else if 0x61 ≤ n && n ≤ 0x7A then some (n - 0x61 + 26)
  else if 0x30 ≤ n && n ≤ 0x39 then some (n - 0x30 + 52)
  else if n = 0x2B then some 62
  else if n = 0x2F then some 63
  else none

/-- The digit with a value. -/
def digitByte (n : Nat) : UInt8 :=
  UInt8.ofNat
    (if n < 26 then n + 0x41
     else if n < 52 then n - 26 + 0x61
     else if n < 62 then n - 52 + 0x30
     else if n = 62 then 0x2B else 0x2F)

/-- Whether a character is written as itself. -/
def isDirect (c : CodePoint) : Bool :=
  c.val = 9 || c.val = 10 || c.val = 13
    || (0x20 ≤ c.val && c.val < 0x7F && c.val ≠ 0x2B && c.val ≠ 0x5C && c.val ≠ 0x7E)

/-- The UTF-16 units of a code point. -/
def unitsOf (c : CodePoint) : List Nat :=
  if c.val < 0x10000 then [c.val]
  else [0xD800 + (c.val - 0x10000) / 0x400, 0xDC00 + (c.val - 0x10000) % 0x400]

/-- The bits of a number, the highest first. -/
def bits (width n : Nat) : List Nat :=
  (List.range width).reverse.map fun k => n / Nat.pow 2 k % 2

/-- The number with some bits. -/
def ofBits (bs : List Nat) : Nat := bs.foldl (fun n b => 2 * n + b) 0

/-- Digits for bits; missing bits at the end are zero. -/
def digitsFor : List Nat → List UInt8
  | a :: b :: c :: d :: e :: f :: rest => digitByte (ofBits [a, b, c, d, e, f]) :: digitsFor rest
  | [] => []
  | few => [digitByte (ofBits (few ++ List.replicate (6 - few.length) 0))]

/-- A section of digits for characters. -/
def sectionOf (chars : Text) : List UInt8 :=
  0x2B :: digitsFor ((chars.flatMap unitsOf).flatMap (bits 16))

/-- Writes a text; `pending` holds the characters of the section that has been begun, last first. -/
def encodeFrom : Text → Text → List UInt8
  | [], [] => []
  | pending, [] => sectionOf pending.reverse ++ [0x2D]
  | [], c :: rest =>
    if c.val = 0x2B then 0x2B :: 0x2D :: encodeFrom [] rest
    else if isDirect c then UInt8.ofNat c.val :: encodeFrom [] rest
    else encodeFrom [c] rest
  | pending, c :: rest =>
    if isDirect c then
      let byte := UInt8.ofNat c.val
      let close : List UInt8 := if (digit? byte).isSome || byte = 0x2D then [0x2D] else []
      sectionOf pending.reverse ++ close ++ byte :: encodeFrom [] rest
    else encodeFrom (c :: pending) rest

/-- Writes a text. -/
def encode (t : Text) : List UInt8 := encodeFrom [] t

/-- Joins the surrogates among UTF-16 units, where a single one stays. -/
def joinUnits : List Nat → Text
  | [] => []
  | u :: rest =>
    match rest with
    | v :: more =>
      if 0xD800 ≤ u && u < 0xDC00 && 0xDC00 ≤ v && v < 0xE000 then
        CodePoint.ofNat (0x10000 + (u - 0xD800) * 0x400 + (v - 0xDC00)) :: joinUnits more
      else CodePoint.ofNat u :: joinUnits (v :: more)
    | [] => [CodePoint.ofNat u]

/-- The units in bits, and the bits that are left over. -/
def unitsIn : Nat → List Nat → List Nat × List Nat
  | 0, bs => ([], bs)
  | fuel + 1, bs =>
    if bs.length < 16 then ([], bs)
    else
      let (units, left) := unitsIn fuel (bs.drop 16)
      (ofBits (bs.take 16) :: units, left)

/-- The characters of a section of digits; `none` if bits are left over that make no padding.  At
the end of a text a section must not end in the first half of a pair. -/
def readSection (atEnd : Bool) (digits : List Nat) : Option Text :=
  let (units, left) := unitsIn digits.length (digits.flatMap (bits 6))
  let half := match units.getLast? with
    | some u => 0xD800 ≤ u && u < 0xDC00
    | none => false
  if 6 ≤ left.length || left.any (· ≠ 0) || (atEnd && half) then none else some (joinUnits units)

/-- Reads bytes; `fuel` bounds the number of characters and sections. -/
def decodeFrom : Nat → List UInt8 → Option Text
  | _, [] => some []
  | 0, _ => none
  | fuel + 1, b :: rest =>
    if 0x80 ≤ b.toNat then none
    else if b ≠ 0x2B then (decodeFrom fuel rest).map (CodePoint.ofNat b.toNat :: ·)
    else if rest.head? = some 0x2D then
      (decodeFrom fuel (rest.drop 1)).map (CodePoint.ofNat 0x2B :: ·)
    else
      let digits := rest.takeWhile fun d => (digit? d).isSome
      let behind := rest.drop digits.length
      if digits.isEmpty && !behind.isEmpty then none
      else do
        let chars ← readSection behind.isEmpty (digits.filterMap digit?)
        let behind := if behind.head? = some 0x2D then behind.drop 1 else behind
        return chars ++ (← decodeFrom fuel behind)

/-- Reads bytes. -/
def decode? (bytes : List UInt8) : Option Text := decodeFrom bytes.length bytes

end SourceDocs.Utf7
