import SourceDocs.Text.Basic

/-!
# UTF-8

Bytes are read sequence by sequence.  `Utf8.step` reads one well-formed sequence or tells how many
bytes form the longest ill-formed start of one.  What to do with ill-formed bytes differs: `decode?`
refuses them, `decodeReplacing` puts one replacement character for each such run, and
`decodeEscaping` keeps each byte as a surrogate above U+DC80, from which it can be recovered.
-/

namespace SourceDocs.Utf8

/-- What stands at the start of a sequence of bytes: a code point of so many bytes, or so many
bytes that begin no well-formed sequence. -/
inductive Step where
  | point (c : CodePoint) (length : Nat)
  | malformed (length : Nat)

/-- Whether a byte continues a sequence. -/
def isContinuation (b : UInt8) : Bool := 0x80 ≤ b.toNat && b.toNat ≤ 0xBF

/-- Continues a sequence of which the first bytes gave `value` and `length`. -/
def continueWith (value length : Nat) : Nat → List UInt8 → Step
  | 0, _ => .point (CodePoint.ofNat value) length
  | _ + 1, [] => .malformed length
  | missing + 1, b :: rest =>
    if isContinuation b then continueWith (value * 64 + (b.toNat - 0x80)) (length + 1) missing rest
    else .malformed length

/-- Continues a sequence whose second byte must lie between two bounds. -/
def continueBetween (low high value missing : Nat) : List UInt8 → Step
  | [] => .malformed 1
  | b :: rest =>
    if low ≤ b.toNat ∧ b.toNat ≤ high then
      continueWith (value * 64 + (b.toNat - 0x80)) 2 missing rest
    else .malformed 1

/-- The code point or the ill-formed bytes at the start; the bytes are not empty. -/
def step (first : UInt8) (rest : List UInt8) : Step :=
  let n := first.toNat
  if n < 0x80 then .point (CodePoint.ofNat n) 1
  else if n < 0xC2 then .malformed 1
  else if n < 0xE0 then continueBetween 0x80 0xBF (n - 0xC0) 0 rest
  else if n = 0xE0 then continueBetween 0xA0 0xBF 0 1 rest
  else if n = 0xED then continueBetween 0x80 0x9F 0xD 1 rest
  else if n < 0xF0 then continueBetween 0x80 0xBF (n - 0xE0) 1 rest
  else if n = 0xF0 then continueBetween 0x90 0xBF 0 2 rest
  else if n < 0xF4 then continueBetween 0x80 0xBF (n - 0xF0) 2 rest
  else if n = 0xF4 then continueBetween 0x80 0x8F 4 2 rest
  else .malformed 1

/-- Reads bytes as code points, giving ill-formed bytes to `repair`. -/
def decodeWith (repair : List UInt8 → Text) : Nat → List UInt8 → List CodePoint → Text
  | _, [], done => done.reverse
  | 0, _ :: _, done => done.reverse
  | fuel + 1, b :: rest, done =>
    match step b rest with
    | .point c length => decodeWith repair fuel (rest.drop (length - 1)) (c :: done)
    | .malformed length =>
      decodeWith repair fuel (rest.drop (length - 1))
        ((repair ((b :: rest).take length)).reverse ++ done)

/-- The surrogate that stands for an ill-formed byte. -/
def escapeByte (b : UInt8) : CodePoint := CodePoint.ofNat (0xDC00 + b.toNat)

/-- Reads bytes, keeping each ill-formed one as a surrogate. -/
def decodeEscaping (bytes : List UInt8) : Text :=
  decodeWith (fun bad => bad.map escapeByte) bytes.length bytes []

/-- Reads bytes, replacing each ill-formed run. -/
def decodeReplacing (bytes : List UInt8) : Text :=
  decodeWith (fun _ => [CodePoint.ofChar '\uFFFD']) bytes.length bytes []

/-- Reads well-formed bytes. -/
def decode? (bytes : List UInt8) : Option Text :=
  let t := decodeEscaping bytes
  if Text.isWellFormed t then some t else none

/-- The bytes of a code point. -/
def encodePoint (c : CodePoint) : List UInt8 :=
  let n := c.val
  let tail (k : Nat) : UInt8 := UInt8.ofNat (0x80 + (n / Nat.pow 64 k) % 64)
  if n < 0x80 then [UInt8.ofNat n]
  else if n < 0x800 then [UInt8.ofNat (0xC0 + n / 64), tail 0]
  else if n < 0x10000 then [UInt8.ofNat (0xE0 + n / 4096), tail 1, tail 0]
  else [UInt8.ofNat (0xF0 + n / 262144), tail 2, tail 1, tail 0]

/-- The bytes of a text, if no surrogate stands in it. -/
def encode? (t : Text) : Option (List UInt8) :=
  if Text.isWellFormed t then some (t.flatMap encodePoint) else none

end SourceDocs.Utf8
