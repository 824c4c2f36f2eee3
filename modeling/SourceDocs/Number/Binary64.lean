import SourceDocs.Text.Basic

/-!
# Double precision numbers

A `Binary64` is a number of the IEEE format binary64, held as sign, mantissa and exponent, so that
everything about it is exact arithmetic on natural numbers.  `Binary64.ofRatio` rounds a quotient to
the nearest such number, ties to the even mantissa, and `Binary64.shortest` finds the shortest
decimal that rounds back.  `Binary64.text` writes numbers the way the index and the printed
expressions show them.
-/

namespace SourceDocs

/-- A number of the format binary64.  A finite one is `mantissa * 2 ^ exponent`, where the mantissa
is below `2 ^ 53` and at least `2 ^ 52` unless the exponent is the least one, `-1074`. -/
inductive Binary64 where
  | nan
  | infinite (negative : Bool)
  | finite (negative : Bool) (mantissa : Nat) (exponent : Int)
deriving DecidableEq, Inhabited

namespace Binary64

/-- Zero with a sign. -/
def zero (negative : Bool) : Binary64 := .finite negative 0 (-1074)

/-- Rounds the quotient `num / den` to an integer, a tie to the even one. -/
def roundQuotient (num den : Nat) : Nat :=
  let q := num / den
  let r := num % den
  if 2 * r < den then q
  else if den < 2 * r then q + 1
  else if q % 2 = 0 then q else q + 1

/-- The quotient `num / den * base ^ e` as numerator and denominator. -/
def timesPower (base : Nat) (e : Int) (num den : Nat) : Nat × Nat :=
  match e with
  | .ofNat k => (num * Nat.pow base k, den)
  | .negSucc k => (num, den * Nat.pow base (k + 1))

/-- The quotient `num / den` divided by `2 ^ e` and rounded. -/
def scaled (num den : Nat) (e : Int) : Nat :=
  let (n, d) := timesPower 2 (-e) num den
  roundQuotient n d

/-- Mantissas lie below this bound, which is `2 ^ 53`. -/
def mantissaBound : Nat := 0x20000000000000

/-- The number next to `num / den`, of two equally near ones the one with the even mantissa. -/
def ofRatio (negative : Bool) (num den : Nat) : Binary64 :=
  if num = 0 ∨ den = 0 then zero negative
  else
    -- an exponent that makes the mantissa 53 or 54 bits long
    let guess : Int := (Nat.log2 num : Int) - (Nat.log2 den : Int) - 53
    let guess := if guess < -1074 then -1074 else guess
    let m := scaled num den guess
    let e := if m < mantissaBound then guess else guess + 1
    let m := if m < mantissaBound then m else scaled num den e
    let (m, e) := if m < mantissaBound then (m, e) else (m / 2, e + 1)
    if 971 < e then .infinite negative else .finite negative m e

/-- The number next to `digits * 10 ^ exponent`.  Exponents far outside the range of the format
are decided without computing the power. -/
def ofDecimal (negative : Bool) (digits : Nat) (exponent : Int) : Binary64 :=
  if digits = 0 then zero negative
  else
    let magnitude : Int := (Nat.toDigits 10 digits).length + exponent
    if 310 < magnitude then .infinite negative
    else if magnitude < -330 then zero negative
    else
      let (n, d) := timesPower 10 exponent digits 1
      ofRatio negative n d

/-- The number next to an integer. -/
def ofInt (n : Int) : Binary64 := ofRatio (n < 0) n.natAbs 1

/-- The number with the sign changed. -/
def neg : Binary64 → Binary64
  | .nan => .nan
  | .infinite s => .infinite (!s)
  | .finite s m e => .finite (!s) m e

/-- The integer that a number is, if it is one. -/
def toInt? : Binary64 → Option Int
  | .finite s m e =>
    let (n, d) := timesPower 2 e m 1
    if n % d ≠ 0 then none else some (if s then -((n / d : Nat) : Int) else (n / d : Nat))
  | _ => none

/-- Whether a number is zero, of either sign. -/
def isZero : Binary64 → Bool
  | .finite _ 0 _ => true
  | _ => false

/-- Equality of numbers: zeros are equal whatever their signs and nothing equals `nan`. -/
def eq (x y : Binary64) : Bool :=
  match x, y with
  | .nan, _ => false
  | _, .nan => false
  | x, y => x == y || (x.isZero && y.isZero)

/-- Whether `num / den` lies in the interval of reals that round to the finite number `m * 2 ^ e`.
Its ends lie halfway to the neighbours and belong to it when `m` is even.  All quantities are
multiplied by `4`, so that they are integers. -/
def roundsTo (m : Nat) (e : Int) (num den : Nat) : Bool :=
  -- below a power of two the neighbours lie twice as close
  let gapBelow := if 2 * m = mantissaBound ∧ -1074 < e then 1 else 2
  let low := 4 * m - gapBelow
  let high := 4 * m + 2
  let (num, den) := timesPower 2 (-e) (4 * num) den
  if m % 2 = 0 then low * den ≤ num && num ≤ high * den
  else low * den < num && num < high * den

/-- The position of the first digit: the least `k` with `num / den < 10 ^ k`. -/
def decimalPoint (num den : Nat) : Int :=
  let guess : Int := ((Nat.toDigits 10 num).length : Int) - (Nat.toDigits 10 den).length
  let below (k : Int) : Bool :=
    let (n, d) := timesPower 10 (-k) num den
    n < d
  if below guess then guess else guess + 1

/-- Tries the decimals of `count`, `count + 1`, … digits and takes the first one that rounds back;
of the two neighbours of the number on a grid the nearer one is tried first. -/
def searchDigits (m : Nat) (e : Int) (num den : Nat) (point : Int) : Nat → Nat → Nat × Int
  | 0, count => (num / den, point - count)
  | fuel + 1, count =>
    let unit : Int := point - count
    -- the number divided by `10 ^ unit`
    let (n, d) := timesPower 10 (-unit) num den
    let q := n / d
    let r := n % d
    let fits (digits : Nat) : Bool :=
      let (a, b) := timesPower 10 unit digits 1
      roundsTo m e a b
    let first := if 2 * r < d ∨ (2 * r = d ∧ q % 2 = 0) then q else q + 1
    let second := if first = q then q + 1 else q
    if fits first then (first, unit)
    else if fits second then (second, unit)
    else searchDigits m e num den point fuel (count + 1)

/-- The shortest decimal `digits * 10 ^ unit` that rounds to the number `m * 2 ^ e`, of several of
the same length the nearest. -/
def shortest (m : Nat) (e : Int) : Nat × Int :=
  let (num, den) := timesPower 2 e m 1
  searchDigits m e num den (decimalPoint num den) 17 1

/-- Drops the zeros at the end of a decimal. -/
def trimZeros : Nat → Nat → Int → Nat × Int
  | 0, digits, unit => (digits, unit)
  | fuel + 1, digits, unit =>
    if digits ≠ 0 ∧ digits % 10 = 0 then trimZeros fuel (digits / 10) (unit + 1) else (digits, unit)

/-- How numbers are written: whether an integral number keeps its `.0`, and the texts of the
numbers that have no digits. -/
structure Style where
  keepsPoint : Bool
  nan : String
  infinite : String

/-- The digits of a finite number.  From `10 ^ -4` up to `10 ^ 16` they are written positionally,
otherwise with an exponent of at least two digits and its sign. -/
def finiteDigits (style : Style) (m : Nat) (e : Int) : String :=
  if m = 0 then (if style.keepsPoint then "0.0" else "0")
  else
    let (digits, unit) := shortest m e
    let (digits, unit) := trimZeros 20 digits unit
    let text := Nat.toDigits 10 digits
    let point : Int := text.length + unit
    if -4 < point ∧ point ≤ 16 then
      if unit ≥ 0 then
        String.ofList (text ++ List.replicate unit.toNat '0')
          ++ (if style.keepsPoint then ".0" else "")
      else if point ≤ 0 then
        "0." ++ String.ofList (List.replicate (-point).toNat '0' ++ text)
      else
        String.ofList (text.take point.toNat) ++ "." ++ String.ofList (text.drop point.toNat)
    else
      let exponent := point - 1
      let size := Nat.toDigits 10 exponent.natAbs
      let size := if size.length < 2 then '0' :: size else size
      let mantissa := match text with
        | [] => ""
        | [c] => String.ofList [c]
        | c :: rest => String.ofList (c :: '.' :: rest)
      mantissa ++ "e" ++ (if exponent < 0 then "-" else "+") ++ String.ofList size

/-- A number in a style, with its sign. -/
def write (style : Style) : Binary64 → String
  | .nan => style.nan
  | .infinite s => (if s then "-" else "") ++ style.infinite
  | .finite s m e => (if s then "-" else "") ++ finiteDigits style m e

/-- The written form inside expressions: `1.0`, `1e+16`, `nan`, `inf`. -/
def text : Binary64 → String := write ⟨true, "nan", "inf"⟩

/-- The written form of the parts of complex numbers: like `text`, with `1` for `1.0`. -/
def briefText : Binary64 → String := write ⟨false, "nan", "inf"⟩

/-- Whether the sign of a number is negative, that of zero included. -/
def isNegative : Binary64 → Bool
  | .nan => false
  | .infinite s => s
  | .finite s _ _ => s

/-- The digits of a fraction, and what follows it. -/
def splitFraction (chars : List Char) : List Char × List Char :=
  match chars with
  | '.' :: r => (r.takeWhile Char.isDigit, r.dropWhile Char.isDigit)
  | r => ([], r)

/-- The exponent that characters say; none of them say that it is zero. -/
def exponent? (chars : List Char) : Option Int :=
  match chars with
  | [] => some 0
  | c :: r =>
    if c = 'e' ∨ c = 'E' then
      match r with
      | '-' :: d => if d.isEmpty then none else (Text.numeral? 10 d).map fun n => -(n : Int)
      | '+' :: d => if d.isEmpty then none else (Text.numeral? 10 d).map fun n => (n : Int)
      | d => if d.isEmpty then none else (Text.numeral? 10 d).map fun n => (n : Int)
    else none

/-- Reads a decimal without sign: digits, an optional fraction and an optional exponent. -/
def readUnsigned (negative : Bool) (chars : List Char) : Option Binary64 :=
  let whole := chars.takeWhile Char.isDigit
  let (fraction, rest) := splitFraction (chars.dropWhile Char.isDigit)
  if whole.isEmpty ∧ fraction.isEmpty then none
  else do
    let e ← exponent? rest
    let digits ← Text.numeral? 10 (whole ++ fraction)
    return ofDecimal negative digits (e - fraction.length)

/-- Whether a minus sign comes first, and what follows a sign. -/
def splitSign (chars : List Char) : Bool × List Char :=
  match chars with
  | '-' :: r => (true, r)
  | '+' :: r => (false, r)
  | r => (false, r)

/-- Reads a decimal with an optional sign, or one of the words `nan`, `inf` and `infinity`. -/
def read? (chars : List Char) : Option Binary64 :=
  let (negative, rest) := splitSign chars
  let word := String.ofList (rest.map Char.toLower)
  if word = "nan" then some .nan
  else if word = "inf" ∨ word = "infinity" then some (.infinite negative)
  else readUnsigned negative rest

end Binary64

end SourceDocs
