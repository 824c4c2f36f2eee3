import SourceDocs.Text.Printable

/-!
# Quoted text

`Quoted.text` writes a text between quotes on one line, so that it can be read back as a literal:
single quotes unless the text holds such quotes and no double ones, the quote and the backslash
behind a backslash, and what cannot be shown by its number.  `Quoted.bytes` does the same for bytes.
-/

namespace SourceDocs.Quoted

/-- The quote for a text that holds single quotes or double quotes or both. -/
def quoteFor (hasSingle hasDouble : Bool) : Char := if hasSingle && !hasDouble then '"' else '\''

/-- A code point by its number. -/
def numbered (c : CodePoint) : Text :=
  let form (mark : Char) (width : Nat) : Text :=
    ('\\' :: mark :: Text.hexadecimal width c.val).map CodePoint.ofChar
  if c.val < 0x100 then form 'x' 2
  else if c.val < 0x10000 then form 'u' 4
  else form 'U' 8

/-- One code point inside quotes. -/
def escape (quote : Char) (c : CodePoint) : Text :=
  match c.toChar with
  | '\\' => Text.ofString "\\\\"
  | '\t' => Text.ofString "\\t"
  | '\n' => Text.ofString "\\n"
  | '\r' => Text.ofString "\\r"
  | ch =>
    if ch = quote then Text.ofString (String.ofList ['\\', quote])
    else if c.isPrintable then [c]
    else numbered c

/-- A text as a literal. -/
def text (t : Text) : Text :=
  let has (q : Char) : Bool := t.any (· = CodePoint.ofChar q)
  let quote := quoteFor (has '\'') (has '"')
  Text.ofChar quote ++ t.flatMap (escape quote) ++ Text.ofChar quote

/-- A text with everything outside ASCII written by its number. -/
def inAscii (t : Text) : Text :=
  t.flatMap fun c => if c.val < 0x80 then [c] else numbered c

/-- One byte inside quotes. -/
def escapeByte (quote : Char) (b : UInt8) : List Char :=
  let ch := Char.ofNat b.toNat
  if ch = '\\' then ['\\', '\\']
  else if ch = '\t' then ['\\', 't']
  else if ch = '\n' then ['\\', 'n']
  else if ch = '\r' then ['\\', 'r']
  else if ch = quote then ['\\', quote]
  else if 0x20 ≤ b.toNat && b.toNat < 0x7F then [ch]
  else '\\' :: 'x' :: Text.hexadecimal 2 b.toNat

/-- Bytes as a literal. -/
def bytes (data : List UInt8) : String :=
  let has (q : Char) : Bool := data.any (·.toNat = q.toNat)
  let quote := quoteFor (has '\'') (has '"')
  String.ofList ('b' :: quote :: (data.flatMap (escapeByte quote) ++ [quote]))

end SourceDocs.Quoted
