import SourceDocs.Text.Escape

/-!
# Escapes in string literals

Texts take all escapes.  In bytes an escape denotes a byte, and there are no escapes of more than
two hexadecimal digits.
-/

namespace SourceDocs.Source

/-- The text that a piece of a literal denotes; `none` if an escape in it is malformed, or if it
holds bytes that are not UTF-8. -/
def textOfLiteral (raw : Bool) (t : Text) : Option Text :=
  if !Text.isWellFormed t then none else if raw then some t else Escape.resolve t.length t []

/-- Resolves the escapes of a sequence of bytes; `none` if one is malformed. -/
def unescapeBytes : Nat → Text → List UInt8 → Option (List UInt8)
  | 0, _, done => some done.reverse
  | _, [], done => some done.reverse
  | fuel + 1, p :: rest, done =>
    if p.toChar ≠ '\\' then unescapeBytes fuel rest (UInt8.ofNat p.val :: done)
    else match rest with
      | [] => none
      | q :: behind =>
        match q.toChar with
        | '\n' => unescapeBytes fuel behind done
        | 'x' => do
          let (n, behind) ← Escape.hexadecimal? 2 behind
          unescapeBytes fuel behind (UInt8.ofNat n :: done)
        | c =>
          match Escape.simple? c with
          | some n => unescapeBytes fuel behind (UInt8.ofNat n :: done)
          | none =>
            if Escape.isOctal q then
              let (n, behind) := Escape.octal rest
              unescapeBytes fuel behind (UInt8.ofNat n :: done)
            else unescapeBytes fuel rest (92 :: done)

/-- The bytes that a literal denotes; `none` if an escape in it is malformed. -/
def bytesOfLiteral (raw : Bool) (t : Text) : Option (List UInt8) :=
  if raw then some (t.map fun p => UInt8.ofNat p.val) else unescapeBytes t.length t []

end SourceDocs.Source
