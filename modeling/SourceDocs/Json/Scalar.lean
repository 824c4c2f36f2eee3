import SourceDocs.Value.Basic

/-!
# Scalars and keys of JSON

Texts, numbers and the three words as they are written in JSON, and what can keep a value from
being written.
-/

namespace SourceDocs.Json

/-- Why a value has no JSON text. -/
inductive EncodeFault where
  /-- A value of a type that JSON does not know. -/
  | unserializable (typeName : String)
  /-- A mapping key that cannot be turned into a text, met in a tree. -/
  | badKey (typeName : String)
  /-- A mapping key that cannot be turned into a text, met in the index. -/
  | badIndexKey (typeName : String)
  /-- An integer with more digits than are ever written. -/
  | tooManyDigits
deriving DecidableEq

/-- Integers of more decimal digits than this are neither read nor written. -/
def digitLimit : Nat := 4300

/-- One code point inside a JSON string: quotes, backslashes and control characters are escaped and
everything else stands for itself. -/
def escape (c : CodePoint) : Text :=
  match c.toChar with
  | '"' => Text.ofString "\\\""
  | '\\' => Text.ofString "\\\\"
  | '\n' => Text.ofString "\\n"
  | '\r' => Text.ofString "\\r"
  | '\t' => Text.ofString "\\t"
  | ch =>
    if ch.toNat = 8 then Text.ofString "\\b"
    else if ch.toNat = 12 then Text.ofString "\\f"
    else if ch.toNat < 0x20 then ('\\' :: 'u' :: Text.hexadecimal 4 ch.toNat).map CodePoint.ofChar
    else [c]

/-- A JSON string. -/
def quote (t : Text) : Text := Text.ofChar '"' ++ t.flatMap escape ++ Text.ofChar '"'

/-- A JSON number; the words for what has no digits are an extension of the format. -/
def number (x : Binary64) : Text := Text.ofString (x.write ⟨true, "NaN", "Infinity"⟩)

/-- A JSON integer, unless it has too many digits. -/
def integer (n : Int) : Except EncodeFault Text :=
  let t := Text.ofInt n
  if digitLimit < (Text.ofNat n.natAbs).length then .error .tooManyDigits else .ok t

/-- The text of a scalar; `none` if the value is not a scalar. -/
def scalar? : Value → Option (Except EncodeFault Text)
  | .null => some (.ok (Text.ofString "null"))
  | .bool b => some (.ok (Text.ofString (if b then "true" else "false")))
  | .int n => some (integer n)
  | .float x => some (.ok (number x))
  | .text t => some (.ok (quote t))
  | _ => none

/-- The text that stands for a mapping key: scalars become texts of themselves. -/
def keyText (key : Value) : Except EncodeFault Text :=
  match key with
  | .text t => .ok t
  | key =>
    match scalar? key with
    | some t => t
    | none => .error (.badKey key.typeName)

end SourceDocs.Json
