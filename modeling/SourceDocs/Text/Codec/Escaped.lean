import SourceDocs.Text.Escape

/-!
# Encodings with escapes

Characters that a byte cannot hold are written as escapes.  The raw encoding knows only escapes of
four and of eight hexadecimal digits and leaves all else as it is.
-/

namespace SourceDocs.Escaped

/-- The bytes of ASCII characters. -/
def bytesOf (chars : List Char) : List UInt8 := chars.map fun c => UInt8.ofNat c.toNat

/-- The escape of a code point. -/
def escape (n : Nat) : List UInt8 :=
  bytesOf ('\\' ::
    (if n < 0x100 then 'x' :: Text.hexadecimal 2 n
     else if n < 0x10000 then 'u' :: Text.hexadecimal 4 n
     else 'U' :: Text.hexadecimal 8 n))

/-- The bytes of a code point, where everything but printable ASCII is escaped. -/
def encodePoint (c : CodePoint) : List UInt8 :=
  match c.val with
  | 9 => bytesOf ['\\', 't']
  | 10 => bytesOf ['\\', 'n']
  | 13 => bytesOf ['\\', 'r']
  | 0x5C => bytesOf ['\\', '\\']
  | n => if 0x20 ≤ n && n < 0x7F then [UInt8.ofNat n] else escape n

/-- The bytes of a code point in the raw encoding. -/
def encodeRawPoint (c : CodePoint) : List UInt8 :=
  if c.val < 0x100 then [UInt8.ofNat c.val] else escape c.val

/-- Writes a text. -/
def encode (raw : Bool) (t : Text) : List UInt8 :=
  t.flatMap (if raw then encodeRawPoint else encodePoint)

/-- Bytes as the code points of the same numbers. -/
def pointsOf (bytes : List UInt8) : Text := bytes.map fun b => CodePoint.ofNat b.toNat

/-- Whether a text ends in a backslash that escapes nothing. -/
def endsOpen (t : Text) : Bool :=
  (t.reverse.takeWhile fun c => c.val = 0x5C).length % 2 = 1

/-- Resolves the escapes of the raw encoding; `fuel` bounds the number of steps. -/
def resolveRaw : Nat → Text → Text → Option Text
  | 0, _, done => some done.reverse
  | _, [], done => some done.reverse
  | fuel + 1, c :: rest, done =>
    match rest with
    | [] => some (c :: done).reverse
    | d :: behind =>
      if c.val ≠ 0x5C then resolveRaw fuel rest (c :: done)
      else if d.toChar = 'u' || d.toChar = 'U' then do
        let (n, behind) ← Escape.hexadecimal? (if d.toChar = 'u' then 4 else 8) behind
        resolveRaw fuel behind ((← CodePoint.ofNat? n) :: done)
      else resolveRaw fuel behind (d :: c :: done)

/-- Reads bytes; `none` if an escape is malformed. -/
def decode? (raw : Bool) (bytes : List UInt8) : Option Text :=
  let t := pointsOf bytes
  if raw then resolveRaw t.length t []
  else if endsOpen t then none
  else Escape.resolve t.length t []

end SourceDocs.Escaped
