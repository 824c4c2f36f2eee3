import SourceDocs.Text.CharacterSet.Grid

/-!
# Planes of an encoding

An encoding with characters of several bytes is put together from planes.  A `Plane` reads and
writes some of the characters.  Most planes hold a grid of two-byte codes, and a `Placement` says
how such a code is turned into bytes.
-/

namespace SourceDocs

/-- Reads and writes some of the characters of an encoding. -/
structure Plane where
  /-- What the bytes at the front stand for, and the bytes behind. -/
  read : List UInt8 → Option (Text × List UInt8)
  write : CodePoint → Option (List UInt8)

/-- How a code of two bytes, row and cell, is turned into bytes. -/
inductive Placement where
  /-- The bytes of the code. -/
  | plain
  /-- Both bytes raised by 0x80. -/
  | raised
  /-- Both bytes raised by 0x80, behind another byte. -/
  | raisedBehind (mark : UInt8)
  /-- Two rows of 94 cells share a first byte; ASCII and the syllables of one byte are left out. -/
  | folded
  /-- The rows of a second plane, behind those of the first. -/
  | foldedSecond
  /-- Two rows share a first byte, from 0xD9 on. -/
  | foldedHigh

namespace Placement

/-- The code with a row and a cell, counted from zero. -/
def codeAt (row cell : Nat) : Nat := (row + 0x21) * 256 + cell + 0x21

/-- The number of a row and a cell in the second bytes of two rows that share a first byte. -/
def splitCell (row second : Nat) : Nat × Nat := (row + second / 94, second % 94)

/-- The row and the cell of two bytes of a folded code. -/
def rowAndCell? (a b : Nat) : Option (Nat × Nat) :=
  let lead := 0x81 ≤ a && a ≤ 0x9F || 0xE0 ≤ a && a ≤ 0xFC
  let trail := 0x40 ≤ b && b ≤ 0xFC && b ≠ 0x7F
  if lead && trail then
    some (splitCell (2 * if a < 0xE0 then a - 0x81 else a - 0xC1)
      (if b < 0x7F then b - 0x40 else b - 0x41))
  else none

/-- The bytes of a folded code. -/
def fold (row cell : Nat) : List UInt8 :=
  let a := if row / 2 < 0x1F then 0x81 + row / 2 else 0xC1 + row / 2
  let second := row % 2 * 94 + cell
  let b := if second < 0x3F then second + 0x40 else second + 0x41
  [UInt8.ofNat a, UInt8.ofNat b]

/-- The rows of a second plane in the order of their first bytes. -/
def secondRows : List Nat :=
  [0, 7, 2, 3, 4, 11, 12, 13, 14] ++ (List.range 17).map (· + 77)

/-- The code of two bytes of a code that is folded high. -/
def rowAndCellHigh? (a b : Nat) : Option Nat :=
  let lead := 0xD9 ≤ a && a ≤ 0xF9 && a ≠ 0xDF
  let trail := 0x31 ≤ b && b ≤ 0x7E || 0x91 ≤ b && b ≤ 0xFE
  -- letters have codes of their own
  let letter := a = 0xDA && 0xA1 ≤ b && b ≤ 0xD3
  if lead && trail && !letter then
    let (row, cell) := splitCell (if a < 0xE0 then 2 * (a - 0xD9) else 2 * a - 0x197)
      (if b < 0x91 then b - 0x31 else b - 0x43)
    some (codeAt row cell)
  else none

/-- The bytes of a code that is folded high. -/
def foldHigh? (row cell : Nat) : Option (List UInt8) :=
  if row < 0x0C ∨ (0x29 ≤ row ∧ row ≤ 0x5C) then
    let t := if row < 0x29 then row + 0x1B2 else row + 0x197
    let second := t % 2 * 94 + cell
    some [UInt8.ofNat (t / 2), UInt8.ofNat (if second < 0x4E then second + 0x31 else second + 0x43)]
  else none

/-- The code at the front of bytes, and the bytes behind. -/
def code? (p : Placement) : List UInt8 → Option (Nat × List UInt8)
  | a :: b :: rest =>
    let high (a b : UInt8) : Option Nat :=
      if 0xA1 ≤ a.toNat && 0xA1 ≤ b.toNat then some (a.toNat * 256 + b.toNat - 0x8080) else none
    match p with
    | .plain => some (a.toNat * 256 + b.toNat, rest)
    | .raised => (high a b).map (·, rest)
    | .raisedBehind mark =>
      match rest with
      | c :: rest => if a = mark then (high b c).map (·, rest) else none
      | [] => none
    | .folded => (rowAndCell? a.toNat b.toNat).map fun (row, cell) => (codeAt row cell, rest)
    | .foldedSecond => do
      let (row, cell) ← rowAndCell? a.toNat b.toNat
      if row < 94 then none
      else
        let row ← secondRows[row - 94]?
        return (codeAt row cell, rest)
    | .foldedHigh => (rowAndCellHigh? a.toNat b.toNat).map (·, rest)
  | _ => none

/-- The bytes of a code. -/
def bytes? (p : Placement) (code : Nat) : Option (List UInt8) :=
  let high : List UInt8 := [UInt8.ofNat (code / 256 + 0x80), UInt8.ofNat (code % 256 + 0x80)]
  let row := code / 256 - 0x21
  let cell := code % 256 - 0x21
  match p with
  | .plain => some [UInt8.ofNat (code / 256), UInt8.ofNat (code % 256)]
  | .raised => some high
  | .raisedBehind mark => some (mark :: high)
  | .folded => some (fold row cell)
  | .foldedSecond => (secondRows.idxOf? row).map fun k => fold (94 + k) cell
  | .foldedHigh => foldHigh? row cell

end Placement

namespace Plane

/-- The plane of a grid. -/
def ofGrid (p : Placement) (g : Grid) : Plane where
  read bytes := do
    let (code, rest) ← p.code? bytes
    return ([← g.get? code], rest)
  write c := (g.code? c).bind p.bytes?

/-- A plane that only writes: characters with the bytes that other characters have, too. -/
def oneWay (chars : List (Nat × List UInt8)) : Plane where
  read _ := none
  write c := chars.lookup c.val

/-- A plane of private characters: a block of rows, each with the second bytes in turn. -/
def ofBlock (p : Placement) (rows cells : List Nat) (first : Nat) : Plane where
  read bytes := do
    let (code, rest) ← p.code? bytes
    let row ← rows.idxOf? (code / 256)
    let cell ← cells.idxOf? (code % 256)
    return ([CodePoint.ofNat (first + row * cells.length + cell)], rest)
  write c := do
    if c.val < first then none
    else
      let row ← rows[(c.val - first) / cells.length]?
      let cell ← cells[(c.val - first) % cells.length]?
      p.bytes? (row * 256 + cell)

end Plane

/-- Numbers from a first to a last one. -/
def numbersBetween (first last : Nat) : List Nat := (List.range (last + 1 - first)).map (first + ·)

/-- An encoding put together from planes.  Bytes below 0x80 are ASCII, if they are not among the
`singles`. -/
structure MultiByte where
  /-- Characters of one byte. -/
  singles : Grid := []
  /-- The planes; the first one that has a character counts. -/
  planes : List Plane
  /-- Pairs of characters that have a code in common. -/
  pairs : List (Nat × Nat × List UInt8) := []
  /-- Characters that are read but not written. -/
  refused : List Nat := []

namespace MultiByte

/-- What the bytes at the front stand for. -/
def readFirst (e : MultiByte) (bytes : List UInt8) : Option (Text × List UInt8) :=
  match bytes with
  | [] => none
  | b :: rest =>
    match e.singles.get? b.toNat with
    | some c => some ([c], rest)
    | none =>
      if b.toNat < 0x80 then some ([CodePoint.ofNat b.toNat], rest)
      else
        match e.pairs.find? fun (_, _, code) => code.isPrefixOf bytes with
        | some (x, y, code) =>
          some ([CodePoint.ofNat x, CodePoint.ofNat y], bytes.drop code.length)
        | none => e.planes.findSome? fun p => p.read bytes

/-- Reads bytes; `fuel` bounds the number of characters. -/
def decodeFrom (e : MultiByte) : Nat → List UInt8 → Text → Option Text
  | _, [], done => some done.reverse
  | 0, _, _ => none
  | fuel + 1, bytes, done => do
    let (chars, rest) ← e.readFirst bytes
    e.decodeFrom fuel rest (chars.reverse ++ done)

/-- Reads bytes. -/
def decode? (e : MultiByte) (bytes : List UInt8) : Option Text :=
  e.decodeFrom bytes.length bytes []

/-- The bytes of a character. -/
def encodePoint (e : MultiByte) (c : CodePoint) : Option (List UInt8) :=
  if e.refused.contains c.val then none
  else
    match e.singles.code? c with
    | some b => some [UInt8.ofNat b]
    | none =>
      if c.val < 0x80 && (e.singles.get? c.val).isNone then some [UInt8.ofNat c.val]
      else e.planes.findSome? fun p => p.write c

/-- Whether a character may be the first one of a pair. -/
def startsPair (e : MultiByte) (c : CodePoint) : Bool := e.pairs.any fun p => p.1 = c.val

/-- The bytes of two characters that have a code in common. -/
def pairBytes (e : MultiByte) (c d : CodePoint) : Option (List UInt8) :=
  (e.pairs.find? fun p => p.1 = c.val && p.2.1 = d.val).map fun p => p.2.2

/-- Writes a text.  If the text may go on, a last character that may be the first one of a pair is
held back. -/
def encodeFrom (e : MultiByte) (complete : Bool) : Text → Option (List UInt8)
  | [] => some []
  | [c] => if !complete && e.startsPair c then some [] else e.encodePoint c
  | c :: d :: rest =>
    match e.pairBytes c d with
    | some code => (e.encodeFrom complete rest).map (code ++ ·)
    | none => do
      let code ← e.encodePoint c
      return code ++ (← e.encodeFrom complete (d :: rest))

end MultiByte

end SourceDocs
