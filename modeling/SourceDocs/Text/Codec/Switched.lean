import SourceDocs.Text.CharacterSet.CodePage
import SourceDocs.Text.Codec.EastAsian

/-!
# Encodings that switch between character sets

In these encodings all bytes are below 0x80, and what a byte stands for depends on the character set
in use.  In the encodings of the standard ISO 2022 an escape sequence chooses a character set; in
HZ a tilde and a bracket do.
-/

namespace SourceDocs.Switched

open CharacterSet

/-! ## ISO 2022 -/

/-- The escape character. -/
def escapeByte : UInt8 := 0x1B

/-- The name of a character set in escape sequences: its last byte, and whether a character has two
bytes. -/
abbrev SetName := UInt8 × Bool

/-- ASCII. -/
def ascii : SetName := (0x42, false)

/-- A character set that an encoding may switch to. -/
structure Charset where
  name : SetName
  /-- Chosen by shifting, once it has been announced. -/
  shifted : Bool := false
  get? : Nat → Option CodePoint
  code? : CodePoint → Option Nat

namespace Charset

/-- The set of a grid of two-byte codes. -/
def ofGrid (mark : Char) (grids : List Grid) : Charset where
  name := (UInt8.ofNat mark.toNat, true)
  get? code := grids.findSome? fun g => g.get? code
  code? c := grids.findSome? fun g => g.code? c

/-- The Roman half of JIS X 0201: ASCII with a yen sign and an overline. -/
def roman : Charset where
  name := (0x4A, false)
  get? code :=
    some (CodePoint.ofNat (if code = 0x5C then 0xA5 else if code = 0x7E then 0x203E else code))
  code? c := if c.val = 0xA5 then some 0x5C else if c.val = 0x203E then some 0x7E else none

/-- The half of JIS X 0201 with half-width syllables. -/
def syllables : Charset where
  name := (0x49, false)
  get? code := Grid.get? [(0x21, EastAsian.syllables)] code
  code? c := Grid.code? [(0x21, EastAsian.syllables)] c

/-- A set that is only read, from the upper half of a code page. -/
def upperHalf (mark : Char) (page : Grid) : Charset where
  name := (UInt8.ofNat mark.toNat, false)
  get? code := CodePage.decodeByte page (UInt8.ofNat (code + 0x80))
  code? _ := none

end Charset

/-- An encoding of the standard ISO 2022. -/
structure Iso2022 where
  /-- The sets in the order in which they are tried. -/
  sets : List Charset
  /-- The shift characters choose between two sets. -/
  shifts : Bool := false
  /-- A single shift leads to a third set. -/
  thirdSet : Bool := false
  /-- Pairs of characters with a common code, and the set of that code. -/
  pairs : List (Nat × Nat × Nat) := []
  pairSet : SetName := ascii

namespace Iso2022

/-- What a writer has chosen so far. -/
structure Writer where
  current : SetName := ascii
  announced : SetName := ascii
  shifted : Bool := false

/-- The bytes that take a writer back to ASCII. -/
def Writer.toAscii (w : Writer) : List UInt8 :=
  (if w.current = ascii then [] else [escapeByte, 0x28, 0x42]) ++ if w.shifted then [0x0F] else []

/-- The bytes that end a text: as `toAscii`, the shift first. -/
def Writer.finish (w : Writer) : List UInt8 :=
  (if w.shifted then [0x0F] else []) ++ if w.current = ascii then [] else [escapeByte, 0x28, 0x42]

/-- The escape sequence that chooses a set; `bracket` tells where it is put. -/
def announcement (bracket : UInt8) (name : SetName) : List UInt8 :=
  if !name.2 then [escapeByte, bracket, name.1]
  else if bracket = 0x28 && name.1 = 0x42 then [escapeByte, 0x24, name.1]
  else [escapeByte, 0x24, bracket, name.1]

/-- The bytes of a code. -/
def codeBytes (name : SetName) (code : Nat) : List UInt8 :=
  if name.2 then [UInt8.ofNat (code / 256), UInt8.ofNat (code % 256)] else [UInt8.ofNat code]

/-- Writes a code of a set. -/
def Writer.put (w : Writer) (s : Charset) (code : Nat) : List UInt8 × Writer :=
  if s.shifted then
    let announce := if w.announced = s.name then [] else announcement 0x29 s.name
    let shift : List UInt8 := if w.shifted then [] else [0x0E]
    (announce ++ shift ++ codeBytes s.name code, { w with announced := s.name, shifted := true })
  else
    let unshift : List UInt8 := if w.shifted then [0x0F] else []
    let choose := if w.current = s.name then [] else announcement 0x28 s.name
    (unshift ++ choose ++ codeBytes s.name code, { w with current := s.name, shifted := false })

/-- Writes a character. -/
def writePoint (e : Iso2022) (w : Writer) (c : CodePoint) : Option (List UInt8 × Writer) :=
  if c.val < 0x80 then
    some (w.toAscii ++ [UInt8.ofNat c.val], { w with current := ascii, shifted := false })
  else e.sets.findSome? fun s => (s.code? c).map (w.put s)

/-- Writes two characters that have a code in common. -/
def writePair (e : Iso2022) (w : Writer) (c d : CodePoint) : Option (List UInt8 × Writer) := do
  let (_, _, code) ← e.pairs.find? fun p => p.1 = c.val && p.2.1 = d.val
  let s ← e.sets.find? fun s => s.name = e.pairSet
  return w.put s code

/-- Writes a text.  If it may go on, the set in use is kept, and a last character that may be the
first one of a pair is held back. -/
def encodeFrom (e : Iso2022) (complete : Bool) : Writer → Text → Option (List UInt8)
  | w, [] => some (if complete then w.finish else [])
  | w, [c] =>
    if !complete && e.pairs.any (fun p => p.1 = c.val) then some []
    else do
      let (bytes, w) ← e.writePoint w c
      return bytes ++ if complete then w.finish else []
  | w, c :: d :: rest =>
    match e.writePair w c d with
    | some (bytes, w) => (e.encodeFrom complete w rest).map (bytes ++ ·)
    | none => do
      let (bytes, w) ← e.writePoint w c
      return bytes ++ (← e.encodeFrom complete w (d :: rest))

/-- What a reader has met so far. -/
structure Reader where
  current : SetName := ascii
  announced : SetName := ascii
  third : SetName := ascii
  shifted : Bool := false
  /-- Inside an escape sequence of another kind, which is kept as it stands. -/
  foreign : Bool := false

/-- Whether a byte ends an escape sequence. -/
def endsEscape (b : UInt8) : Bool := 0x40 ≤ b.toNat && b.toNat ≤ 0x5A

/-- The longest escape sequence. -/
def maxEscape : Nat := 16

/-- The number of bytes of an escape sequence behind its first one.  Without shifts, a mark that
asks for an edition does not end it. -/
def escapeLength (e : Iso2022) : Nat → Nat → List UInt8 → Option Nat
  | 0, _, _ | _, _, [] => none
  | fuel + 1, n, b :: rest =>
    if endsEscape b then some (n + 1)
    else if !e.shifts && b = 0x26 && rest.head? = some 0x40 then
      e.escapeLength (fuel - 2) (n + 3) (rest.drop 2)
    else e.escapeLength fuel (n + 1) rest

/-- Takes a set into use that an escape sequence names: at the first place, the second, or the
third. -/
def designate (e : Iso2022) (r : Reader) (place : Nat) (name : SetName) : Option Reader :=
  if name ≠ ascii && !(e.sets.any fun s => s.name = name) then none
  else
    match place with
    | 0 => some { r with current := name }
    | 1 => some { r with announced := name }
    | _ => some { r with third := name }

/-- Reads an escape sequence without its first byte. -/
def readEscape (e : Iso2022) (r : Reader) (sequence : List UInt8) : Option Reader :=
  match sequence with
  | [a, b] =>
    if a = 0x24 then e.designate r 0 (b, true)
    else if a = 0x28 then e.designate r 0 (b, false)
    else if a = 0x29 then e.designate r 1 (b, false)
    else if e.thirdSet && a = 0x2E then e.designate r 2 (b, false)
    else none
  | [a, b, c] =>
    if a ≠ 0x24 then none
    else if b = 0x28 then e.designate r 0 (c, true)
    else if b = 0x29 then e.designate r 1 (c, true)
    else none
  | [0x26, 0x40, 0x1B, 0x24, 0x42] => if e.shifts then none else e.designate r 0 (0x42, true)
  | _ => none

/-- Whether a byte behind an escape character begins a sequence of the standard. -/
def beginsSequence (b : UInt8) : Bool := [0x28, 0x29, 0x24, 0x2E, 0x26].contains b

/-- Reads a character of the third set. -/
def readThird (e : Iso2022) (r : Reader) (b : UInt8) : Option CodePoint :=
  if r.third = ascii then (if b.toNat < 0x80 then some (CodePoint.ofNat b.toNat) else none)
  else if 0x80 ≤ b.toNat then none
  else (e.sets.find? fun s => s.name = r.third).bind fun s => s.get? b.toNat

/-- Reads bytes; `fuel` bounds the number of steps. -/
def decodeFrom (e : Iso2022) : Nat → Reader → List UInt8 → Text → Option Text
  | _, _, [], done => some done.reverse
  | 0, _, _, _ => none
  | fuel + 1, r, b :: rest, done =>
    let kept := CodePoint.ofNat b.toNat :: done
    if r.foreign then e.decodeFrom fuel { r with foreign := !endsEscape b } rest kept
    else if b = escapeByte then
      match rest with
      | [] => none
      | next :: behind =>
        if beginsSequence next then do
          let n ← e.escapeLength (maxEscape - 1) 0 rest
          let r ← e.readEscape r (rest.take n)
          e.decodeFrom fuel r (rest.drop n) done
        else if e.thirdSet && next = 0x4E then do
          let c ← e.readThird r (← behind.head?)
          e.decodeFrom fuel r (behind.drop 1) (c :: done)
        else e.decodeFrom fuel { r with foreign := true } rest kept
    else if e.shifts && (b = 0x0E || b = 0x0F) then
      e.decodeFrom fuel { r with shifted := b = 0x0E } rest done
    else if b = 0x0A then e.decodeFrom fuel { r with shifted := false } rest kept
    else if 0x80 ≤ b.toNat then none
    else
      let name := if r.shifted then r.announced else r.current
      if b.toNat < 0x20 || name = ascii then e.decodeFrom fuel r rest kept
      else do
        let s ← e.sets.find? fun s => s.name = name
        if name.2 then
          match rest with
          | [] => none
          | c :: rest =>
            let code := b.toNat * 256 + c.toNat
            match e.pairs.find? fun p => name = e.pairSet && p.2.2 = code with
            | some (x, y, _) =>
              e.decodeFrom fuel r rest (CodePoint.ofNat y :: CodePoint.ofNat x :: done)
            | none => e.decodeFrom fuel r rest ((← s.get? code) :: done)
        else e.decodeFrom fuel r rest ((← s.get? b.toNat) :: done)

/-- Reads bytes. -/
def decode? (e : Iso2022) (bytes : List UInt8) : Option Text :=
  e.decodeFrom bytes.length {} bytes []

end Iso2022

/-! ## The encodings of the standard -/

/-- JIS X 0208. -/
def kanji : Charset := .ofGrid 'B' [jisX0208]

/-- JIS X 0208 by the name of its first edition. -/
def formerKanji : Charset := .ofGrid '@' [jisX0208]

/-- JIS X 0212. -/
def moreKanji : Charset := .ofGrid 'D' [jisX0212]

/-- ISO-2022-JP. -/
def japanese : Iso2022 where
  sets := [kanji, .roman, formerKanji]

/-- ISO-2022-JP-1. -/
def japanese1 : Iso2022 where
  sets := [kanji, moreKanji, .roman, formerKanji]

/-- ISO-2022-JP-2. -/
def japanese2 : Iso2022 where
  sets := [kanji, moreKanji, .ofGrid 'C' [ksX1001], .ofGrid 'A' [gb2312], .roman, formerKanji,
    .upperHalf 'A' [], .upperHalf 'F' ((CodePage.ofName? "iso8859_7").getD [])]
  thirdSet := true

/-- ISO-2022-JP-3 with the edition of 2000, and ISO-2022-JP-2004 with that of 2004. -/
def japanese3 (later : Bool) : Iso2022 where
  sets :=
    if later then
      [kanji, .ofGrid 'Q' [jisX0208, jisX0213First, jisX0213Later], .ofGrid 'P' [jisX0213Second]]
    else
      [kanji, .ofGrid 'O' [jisX0208, jisX0213First],
       .ofGrid 'P' [EastAsian.formerSecond, jisX0213Second]]
  pairs := jisX0213Pairs.map fun (code, x, y) => (x, y, code)
  pairSet := (if later then 0x51 else 0x4F, true)

/-- ISO-2022-JP with half-width syllables. -/
def japaneseExtended : Iso2022 where
  sets := [kanji, moreKanji, .roman, .syllables, formerKanji]

/-- ISO-2022-KR. -/
def korean : Iso2022 where
  sets := [{ Charset.ofGrid 'C' [ksX1001] with shifted := true }]
  shifts := true

/-! ## HZ -/

/-- Writes a text in HZ; `inChinese` tells the set in use. -/
def encodeHz (complete : Bool) : Bool → Text → Option (List UInt8)
  | inChinese, [] => some (if complete && inChinese then [0x7E, 0x7D] else [])
  | inChinese, c :: rest => do
    if c.val < 0x80 then
      let back : List UInt8 := if inChinese then [0x7E, 0x7D] else []
      let byte := UInt8.ofNat c.val
      let written := if c.val = 0x7E then [byte, byte] else [byte]
      return back ++ written ++ (← encodeHz complete false rest)
    else
      let code ← gb2312.code? c
      let choose : List UInt8 := if inChinese then [] else [0x7E, 0x7B]
      let more ← encodeHz complete true rest
      return choose ++ [UInt8.ofNat (code / 256), UInt8.ofNat (code % 256)] ++ more

/-- Reads bytes in HZ. -/
def decodeHz : Bool → List UInt8 → Option Text
  | _, [] => some []
  | inChinese, 0x7E :: b :: rest =>
    if inChinese then (if b = 0x7D then decodeHz false rest else none)
    else if b = 0x7E then (decodeHz false rest).map (CodePoint.ofNat 0x7E :: ·)
    else if b = 0x7B then decodeHz true rest
    else if b = 0x0A then decodeHz false rest
    else none
  | false, b :: rest =>
    if b.toNat < 0x80 && b ≠ 0x7E then
      (decodeHz false rest).map (CodePoint.ofNat b.toNat :: ·)
    else none
  | true, a :: b :: rest => do
    let c ← gb2312.get? (a.toNat * 256 + b.toNat)
    return c :: (← decodeHz true rest)
  | true, [_] => none

end SourceDocs.Switched
