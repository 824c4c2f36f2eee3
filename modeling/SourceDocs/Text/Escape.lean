import SourceDocs.Text.CharacterName

/-!
# Escapes

A backslash and what follows it denote a character: `\n` and its like, up to three octal digits,
two, four or eight hexadecimal digits, or the name of a character in braces.  A backslash before a
line end removes both, and before anything else it stands for itself.
-/

namespace SourceDocs.Escape

/-- The characters that one letter behind a backslash denotes. -/
def simple? (c : Char) : Option Nat :=
  match c with
  | '\\' => some 0x5C
  | '\'' => some 0x27
  | '"' => some 0x22
  | 'a' => some 7
  | 'b' => some 8
  | 't' => some 9
  | 'n' => some 10
  | 'v' => some 11
  | 'f' => some 12
  | 'r' => some 13
  | _ => none

/-- Whether a code point is an octal digit. -/
def isOctal (p : CodePoint) : Bool := '0' ≤ p.toChar && p.toChar ≤ '7'

/-- The octal number at the start of a text, of at most three digits, and the text behind it. -/
def octal (t : Text) : Nat × Text :=
  let digits := (t.take 3).takeWhile isOctal
  ((Text.numeral? 8 (digits.map CodePoint.toChar)).getD 0, t.drop digits.length)

/-- The hexadecimal number of a fixed number of digits at the start of a text, and the text behind
it. -/
def hexadecimal? (count : Nat) (t : Text) : Option (Nat × Text) :=
  let digits := (t.take count).map CodePoint.toChar
  if digits.length = count then (Text.numeral? 16 digits).map fun n => (n, t.drop count) else none

/-- The named character at the start of a text, braces included, and the text behind it. -/
def named? (t : Text) : Option (CodePoint × Text) :=
  match t with
  | [] => none
  | p :: rest =>
    if p.toChar = '\x7b' then
      let name := rest.takeWhile fun q => q.toChar ≠ '\x7d'
      match rest.dropWhile fun q => q.toChar ≠ '\x7d' with
      | _ :: behind => (CharacterName.find? (Text.toString name)).map fun q => (q, behind)
      | [] => none
    else none

/-- Resolves the escapes of a text; `none` if one is malformed. -/
def resolve : Nat → Text → Text → Option Text
  | 0, _, done => some done.reverse
  | _, [], done => some done.reverse
  | fuel + 1, p :: rest, done =>
    if p.toChar ≠ '\\' then resolve fuel rest (p :: done)
    else match rest with
      | [] => some (p :: done).reverse
      | q :: behind =>
        let numbered (found : Option (Nat × Text)) : Option Text := do
          let (n, behind) ← found
          let c ← CodePoint.ofNat? n
          resolve fuel behind (c :: done)
        match q.toChar with
        | '\n' => resolve fuel behind done
        | 'x' => numbered (hexadecimal? 2 behind)
        | 'u' => numbered (hexadecimal? 4 behind)
        | 'U' => numbered (hexadecimal? 8 behind)
        | 'N' => do
          let (c, behind) ← named? behind
          resolve fuel behind (c :: done)
        | c =>
          match simple? c with
          | some n => resolve fuel behind (CodePoint.ofNat n :: done)
          | none =>
            if isOctal q then numbered (some (octal rest))
            else resolve fuel rest (p :: done)

end SourceDocs.Escape
