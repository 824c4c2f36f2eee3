import SourceDocs.Number.Binary64

/-!
# Decimal forms of floats

A float is written with a number of places behind the point (`fixed`), with an exponent
(`scientific`), or in whichever of the two suits its size (`general`).  The digits are those of the
exact value, rounded once; a tie goes to the even digit.
-/

namespace SourceDocs.Binary64

/-- The three forms. -/
inductive DecimalForm where
  | fixed
  | scientific
  | general
deriving DecidableEq

/-- The digits of `num / den` rounded to `count` significant ones, and the position of the point in
them: the number is `0.digits * 10 ^ point`. -/
def significant (count num den : Nat) : List Char × Int :=
  if num = 0 then (List.replicate count '0', 1)
  else
    let point := decimalPoint num den
    let (n, d) := timesPower 10 (count - point) num den
    let digits := Nat.toDigits 10 (roundQuotient n d)
    if count < digits.length then (digits.take count, point + 1) else (digits, point)

/-- Digits in front of the point and behind it.  The point is left out if nothing is behind it,
unless it is always kept. -/
def pointed (keepsPoint : Bool) (whole fraction : List Char) : List Char :=
  if fraction.isEmpty && !keepsPoint then whole else whole ++ '.' :: fraction

/-- Digits with the point at a position. -/
def positional (keepsPoint : Bool) (digits : List Char) (point : Int) : List Char :=
  if point ≤ 0 then pointed keepsPoint ['0'] (List.replicate (-point).toNat '0' ++ digits)
  else pointed keepsPoint (digits.take point.toNat) (digits.drop point.toNat)

/-- The quotient `num / den` with a number of places behind the point. -/
def fixed (keepsPoint : Bool) (places num den : Nat) : List Char :=
  let digits := Nat.toDigits 10 (roundQuotient (num * Nat.pow 10 places) den)
  let digits := List.replicate (places + 1 - digits.length) '0' ++ digits
  let point := digits.length - places
  pointed keepsPoint (digits.take point) (digits.drop point)

/-- Digits with an exponent: one digit stands in front of the point. -/
def exponential (keepsPoint : Bool) (digits : List Char) (point : Int) : List Char :=
  let exponent := point - 1
  let size := Nat.toDigits 10 exponent.natAbs
  let size := if size.length < 2 then '0' :: size else size
  pointed keepsPoint (digits.take 1) (digits.drop 1)
    ++ 'e' :: (if exponent < 0 then '-' else '+') :: size

/-- Drops the zeros at the end of digits. -/
def withoutZeros (digits : List Char) : List Char := (digits.reverse.dropWhile (· = '0')).reverse

/-- The quotient `num / den` in the form that suits its size: with an exponent if the point would
stand behind the last digit, or more than three zeros in front of the first.  Zeros at the end are
left out, unless the point is always kept. -/
def general (keepsPoint : Bool) (precision num den : Nat) : List Char :=
  let count := max precision 1
  let (digits, point) := significant count num den
  let needed := if keepsPoint then digits else withoutZeros digits
  if point ≤ -4 ∨ (count : Int) < point then
    exponential keepsPoint (if needed.isEmpty then ['0'] else needed) point
  else
    positional keepsPoint (needed ++ List.replicate (point.toNat - needed.length) '0') point

/-- The decimal form of a number, with a minus sign if it is negative. -/
def decimal (form : DecimalForm) (keepsPoint : Bool) (precision : Nat) : Binary64 → List Char
  | .nan => "nan".toList
  | .infinite s => (if s then "-inf" else "inf").toList
  | .finite s m e =>
    let (num, den) := timesPower 2 e m 1
    let sign := if s then ['-'] else []
    match form with
    | .fixed => sign ++ fixed keepsPoint precision num den
    | .scientific =>
      let (digits, point) := significant (precision + 1) num den
      sign ++ exponential keepsPoint digits point
    | .general => sign ++ general keepsPoint precision num den

/-- The integer that a finite number becomes when its fraction is cut off. -/
def truncated? : Binary64 → Option Int
  | .finite s m e =>
    let (n, d) := timesPower 2 e m 1
    some (if s then -((n / d : Nat) : Int) else (n / d : Nat))
  | _ => none

end SourceDocs.Binary64
