import SourceDocs.Json.Scalar
import SourceDocs.Source.Token

/-!
# Number literals

A number literal is an integer in one of four bases, a float, or an imaginary number.
-/

namespace SourceDocs.Source

/-- The value of a float literal. -/
def floatLiteral (digits : List Char) : Binary64 := (Binary64.read? digits).getD .nan

/-- The value of a number literal.  A decimal integer with more digits than can be converted has
none, and digits behind a zero are a float. -/
def numberLiteral (t : Text) : Option Value :=
  let chars := (t.map CodePoint.toChar).filter (· ≠ '_')
  let based (base : Nat) (digits : List Char) : Option Value :=
    (Text.numeral? base digits).map fun n => .int n
  match chars with
  | '0' :: 'x' :: digits | '0' :: 'X' :: digits => based 16 digits
  | '0' :: 'o' :: digits | '0' :: 'O' :: digits => based 8 digits
  | '0' :: 'b' :: digits | '0' :: 'B' :: digits => based 2 digits
  | _ =>
    match chars.getLast? with
    | some 'j' | some 'J' => some (.complex (Binary64.zero false) (floatLiteral chars.dropLast))
    | _ =>
      if chars.all Char.isDigit && (chars.head? ≠ some '0' || chars.all (· = '0')) then
        if Json.digitLimit < (chars.dropWhile (· = '0')).length then none else based 10 chars
      else some (.float (floatLiteral chars))

end SourceDocs.Source
