/-!
# Text

A `Text` is a sequence of Unicode code points.  It differs from `String` in one respect: a code
point may be a surrogate, which an escape in a string literal can denote although no encoding form
can carry it.  Everything read from a file is free of surrogates (`Text.ofString`), and
`Text.isWellFormed` tells whether a text is.
-/

namespace SourceDocs

/-- A Unicode code point; surrogates are code points, although they are not characters. -/
abbrev CodePoint := Fin 0x110000

namespace CodePoint

/-- The code point of a character. -/
def ofChar (c : Char) : CodePoint := ⟨c.toNat, by
  have h := c.valid
  simp only [UInt32.isValidChar, Nat.isValidChar] at h
  simp only [Char.toNat]
  omega⟩

/-- Surrogates are the code points that no character has. -/
def isSurrogate (c : CodePoint) : Bool := 0xD800 ≤ c.val && c.val < 0xE000

/-- The character of a code point; a surrogate is shown as the replacement character. -/
def toChar (c : CodePoint) : Char := if c.isSurrogate then '\uFFFD' else Char.ofNat c.val

/-- The code point with a given number; numbers beyond the last one start over. -/
def ofNat (n : Nat) : CodePoint := ⟨n % 0x110000, Nat.mod_lt n (by decide)⟩

/-- The code point with a given number, if there is one. -/
def ofNat? (n : Nat) : Option CodePoint := if h : n < 0x110000 then some ⟨n, h⟩ else none

/-- Numbers of bytes of a code point in UTF-8, a surrogate counting like its neighbours. -/
def utf8Length (c : CodePoint) : Nat :=
  if c.val < 0x80 then 1 else if c.val < 0x800 then 2 else if c.val < 0x10000 then 3 else 4

end CodePoint

/-- A sequence of code points. -/
abbrev Text := List CodePoint

namespace Text

/-- The code points of a string. -/
def ofString (s : String) : Text := s.toList.map CodePoint.ofChar

instance : Coe String Text := ⟨ofString⟩

/-- The string of the same characters, where surrogates become replacement characters. -/
def toString (t : Text) : String := String.ofList (t.map CodePoint.toChar)

/-- The parts of a line between marks. -/
def partsAt (mark : Char) : List Char → List (List Char)
  | [] => [[]]
  | c :: rest =>
    match partsAt mark rest with
    | [] => [[c]]
    | part :: others => if c = mark then [] :: part :: others else (c :: part) :: others

/-- Whether a text holds no surrogate, so that every encoding form can carry it. -/
def isWellFormed (t : Text) : Bool := t.all fun c => !c.isSurrogate

/-- A text of one character. -/
def ofChar (c : Char) : Text := [CodePoint.ofChar c]

/-- Whether a text consists of the characters of a string. -/
def isString (t : Text) (s : String) : Bool := t = ofString s

/-- The texts with a separator between each two of them. -/
def join (separator : Text) : List Text → Text
  | [] => []
  | [t] => t
  | t :: rest => t ++ separator ++ join separator rest

/-- Whether `part` occurs in a text. -/
def contains (t part : Text) : Bool :=
  part.isPrefixOf t || match t with
    | [] => false
    | _ :: rest => contains rest part

/-- The text of a number in decimal. -/
def ofNat (n : Nat) : Text := ofString (Nat.repr n)

/-- The text of an integer in decimal, with a minus sign if it is negative. -/
def ofInt (n : Int) : Text :=
  match n with
  | .ofNat k => ofNat k
  | .negSucc k => ofChar '-' ++ ofNat (k + 1)

/-- The value of a digit, with letters from ten on. -/
def digitValue? (c : Char) : Option Nat :=
  if '0' ≤ c && c ≤ '9' then some (c.toNat - '0'.toNat)
  else if 'a' ≤ c && c ≤ 'z' then some (c.toNat - 'a'.toNat + 10)
  else if 'A' ≤ c && c ≤ 'Z' then some (c.toNat - 'A'.toNat + 10)
  else none

/-- The value of a sequence of digits in a base, if all of them are digits of it. -/
def numeral? (base : Nat) (digits : List Char) : Option Nat :=
  digits.foldl (fun acc c => do
    let n ← acc
    let d ← digitValue? c
    if d < base then some (n * base + d) else none) (some 0)

/-- A number in lower case hexadecimal with at least `width` digits. -/
def hexadecimal (width n : Nat) : List Char :=
  let digits := Nat.toDigits 16 n
  List.replicate (width - digits.length) '0' ++ digits

end Text

end SourceDocs
