import Mathlib
import SourceDocs.Json.Reader

/-!
# Numbers that are read back

A `Numeral` is what the grammar of JSON calls a number: a sign, digits, and perhaps a fraction and
an exponent.  `readNumber_chars` says what the reader makes of one.  Integers and floats are
written as such numerals (`exists_numeral_int`, `exists_numeral_float`), and a float is read back
from its numeral in JSON if it is read back from its own written form.
-/

namespace SourceDocs.Json

/-! ## Digits -/

/-- What may follow a number: nothing that would be read as a part of it. -/
def Ends (rest : List Char) : Prop :=
  ∀ c ∈ rest.head?, c.isDigit = false ∧ c ≠ '.' ∧ c ≠ 'e' ∧ c ≠ 'E'

/-- No digit comes first. -/
def NoDigit (rest : List Char) : Prop := ∀ c ∈ rest.head?, c.isDigit = false

theorem Ends.noDigit {rest : List Char} (h : Ends rest) : NoDigit rest := fun c hc => (h c hc).1

theorem ends_nil : Ends [] := fun _ hc => by cases hc

theorem noDigit_cons {c : Char} {rest : List Char} (h : c.isDigit = false) :
    NoDigit (c :: rest) := fun c' hc => by
  cases hc
  exact h

theorem ne_of_isDigit {c c' : Char} (h : c.isDigit) (h' : c'.isDigit = false) : c ≠ c' := by
  rintro rfl
  rw [h] at h'
  cases h'

theorem toLower_of_isDigit {c : Char} (h : c.isDigit) : c.toLower = c := by
  simp only [Char.isDigit, ge_iff_le, Bool.and_eq_true, decide_eq_true_eq] at h
  have hhigh : c.val ≤ 57 := h.2
  rw [Char.toLower, dif_neg]
  exact fun hupper => absurd (UInt32.le_trans hupper.1 hhigh) (by decide)

theorem takeWhile_digits {digits rest : List Char} (hdigits : ∀ c ∈ digits, c.isDigit)
    (hrest : NoDigit rest) : (digits ++ rest).takeWhile Char.isDigit = digits := by
  rw [List.takeWhile_append_of_pos hdigits]
  cases rest with
  | nil => simp
  | cons c rest => simp [hrest c rfl]

theorem dropWhile_digits {digits rest : List Char} (hdigits : ∀ c ∈ digits, c.isDigit)
    (hrest : NoDigit rest) : (digits ++ rest).dropWhile Char.isDigit = rest := by
  rw [List.dropWhile_append_of_pos hdigits]
  cases rest with
  | nil => simp
  | cons c rest => simp [hrest c rfl]

theorem digitValue_of_isDigit {c : Char} (h : c.isDigit) :
    Text.digitValue? c = some (c.toNat - 48) ∧ c.toNat - 48 < 10 := by
  have hbounds := h
  simp only [Char.isDigit, ge_iff_le, Bool.and_eq_true, decide_eq_true_eq] at hbounds
  obtain ⟨hlow, hhigh⟩ := hbounds
  refine ⟨?_, ?_⟩
  · have hrange : ('0' ≤ c && c ≤ '9') = true := by
      rw [Bool.and_eq_true, decide_eq_true_eq, decide_eq_true_eq]
      exact ⟨hlow, hhigh⟩
    rw [Text.digitValue?, if_pos hrange]
    rfl
  · have : c.toNat ≤ 57 := hhigh
    omega

theorem numeral_of_digits {digits : List Char} (h : ∀ c ∈ digits, c.isDigit) :
    Text.numeral? 10 digits = some (Nat.ofDigitChars 10 digits 0) := by
  rw [Text.numeral?]
  generalize 0 = n
  induction digits generalizing n with
  | nil => rfl
  | cons c rest ih =>
    obtain ⟨hvalue, hlt⟩ := digitValue_of_isDigit (h c List.mem_cons_self)
    rw [List.foldl_cons, Nat.ofDigitChars_cons, ← ih (fun c hc => h c (List.mem_cons_of_mem _ hc))]
    simp [hvalue, hlt, Nat.mul_comm]

/-! ## Numerals -/

/-- A number of JSON: a sign, digits, a fraction unless it is empty, and perhaps an exponent with
its sign. -/
structure Numeral where
  negative : Bool
  whole : List Char
  fraction : List Char
  exponent : Option (Bool × List Char)

namespace Numeral

/-- The exponent with its letter and sign. -/
def exponentChars (n : Numeral) : List Char :=
  match n.exponent with
  | none => []
  | some (negative, digits) => 'e' :: (if negative then '-' else '+') :: digits

/-- What follows the digits in front of the point. -/
def tailChars (n : Numeral) : List Char :=
  (if n.fraction.isEmpty then [] else '.' :: n.fraction) ++ n.exponentChars

/-- The characters without the sign. -/
def unsigned (n : Numeral) : List Char := n.whole ++ n.tailChars

/-- The characters. -/
def chars (n : Numeral) : List Char := (if n.negative then ['-'] else []) ++ n.unsigned

/-- The digits are digits, and some stand wherever some have to. -/
structure WellFormed (n : Numeral) : Prop where
  nonempty : n.whole ≠ []
  whole : ∀ c ∈ n.whole, c.isDigit
  fraction : ∀ c ∈ n.fraction, c.isDigit
  exponent : ∀ e ∈ n.exponent, e.2 ≠ [] ∧ ∀ c ∈ e.2, c.isDigit

/-- A zero in front stands alone. -/
def NoLeadingZero (n : Numeral) : Prop := n.whole.head? = some '0' → n.whole = ['0']

/-- Whether a number counts as a float. -/
def isFloat (n : Numeral) : Bool := !n.fraction.isEmpty || n.exponent.isSome

/-- The digits as a number. -/
def digits (n : Numeral) : Nat := Nat.ofDigitChars 10 (n.whole ++ n.fraction) 0

/-- The exponent as a number. -/
def power (n : Numeral) : Int :=
  match n.exponent with
  | none => 0
  | some (negative, digits) => (if negative then -1 else 1) * (Nat.ofDigitChars 10 digits 0 : Int)

/-- The float that a numeral denotes. -/
def toFloat (n : Numeral) : Binary64 :=
  .ofDecimal n.negative n.digits (n.power - (n.fraction.length : Int))

/-- What a numeral denotes, unless it is an integer with too many digits. -/
def toValue (n : Numeral) : Value :=
  if n.isFloat then .float n.toFloat
  else .int (if n.negative then -(n.digits : Int) else n.digits)

variable {n : Numeral}

theorem noDigit_exponentChars {rest : List Char} (hrest : Ends rest) :
    NoDigit (n.exponentChars ++ rest) := by
  rw [exponentChars]
  cases n.exponent with
  | none => exact hrest.noDigit
  | some e => exact noDigit_cons (by decide)

theorem noDigit_tailChars {rest : List Char} (hrest : Ends rest) :
    NoDigit (n.tailChars ++ rest) := by
  rw [tailChars, List.append_assoc]
  split_ifs
  · exact noDigit_exponentChars hrest
  · exact noDigit_cons (by decide)

/-! ### In JSON -/

theorem takeSign_chars (h : n.WellFormed) (rest : List Char) :
    takeSign (n.chars ++ rest) = (n.negative, n.unsigned ++ rest) := by
  rw [chars]
  cases n.negative with
  | true => rfl
  | false =>
    obtain ⟨c, cs, hwhole⟩ := List.exists_cons_of_ne_nil h.nonempty
    have hne : c ≠ '-' :=
      ne_of_isDigit (h.whole c (by rw [hwhole]; exact List.mem_cons_self)) rfl
    rw [unsigned, hwhole]
    unfold takeSign
    split
    · rename_i heq
      exact absurd (List.cons.inj heq).1 hne
    · rfl

theorem takeWhole_unsigned (h : n.WellFormed) (hzero : n.NoLeadingZero) {rest : List Char}
    (hrest : Ends rest) : takeWhole (n.unsigned ++ rest) = n.whole := by
  rw [unsigned, List.append_assoc]
  have htake := takeWhile_digits h.whole (noDigit_tailChars (n := n) hrest)
  unfold takeWhole
  split
  · rename_i r heq
    obtain ⟨c, cs, hwhole⟩ := List.exists_cons_of_ne_nil h.nonempty
    rw [hwhole] at heq
    obtain ⟨rfl, -⟩ := List.cons.inj heq
    exact (hzero (by rw [hwhole]; rfl)).symm
  · exact htake

theorem takeFraction_tailChars (h : n.WellFormed) {rest : List Char} (hrest : Ends rest) :
    takeFraction (n.tailChars ++ rest) = (n.fraction, n.exponentChars ++ rest) := by
  rw [tailChars, List.append_assoc]
  split_ifs with hfraction
  · have hpoint : ∀ r, n.exponentChars ++ rest ≠ '.' :: r := by
      intro r heq
      rw [exponentChars] at heq
      cases hexponent : n.exponent with
      | none =>
        rw [hexponent] at heq
        exact (hrest '.' (by rw [show rest = '.' :: r from heq]; rfl)).2.1 rfl
      | some e =>
        rw [hexponent] at heq
        cases heq
    rw [List.isEmpty_iff.1 hfraction, List.nil_append]
    unfold takeFraction
    split
    · rename_i heq
      exact absurd heq (hpoint _)
    · rfl
  · have htake := takeWhile_digits h.fraction (noDigit_exponentChars (n := n) hrest)
    simp [takeFraction, htake, hfraction]

theorem takeExponent_chars (h : n.WellFormed) {rest : List Char} (hrest : Ends rest) :
    takeExponent? (n.exponentChars ++ rest) =
      if n.exponent.isSome then some (n.power, rest) else none := by
  rw [exponentChars, power]
  cases hexponent : n.exponent with
  | none =>
    cases rest with
    | nil => rfl
    | cons c rest =>
      obtain ⟨-, -, he, hE⟩ := hrest c rfl
      simp [takeExponent?, he, hE]
  | some e =>
    obtain ⟨negative, digits⟩ := e
    obtain ⟨hne, hdigits⟩ := h.exponent (negative, digits) hexponent
    have htake := takeWhile_digits hdigits hrest.noDigit
    cases negative <;> simp [takeExponent?, htake, hne, numeral_of_digits hdigits]

/-- A numeral is read as what it denotes, if nothing follows that could belong to it. -/
theorem readNumber_chars (h : n.WellFormed) (hzero : n.NoLeadingZero)
    (hlimit : n.isFloat ∨ n.whole.length ≤ digitLimit) {rest : List Char} (hrest : Ends rest) :
    readNumber (n.chars ++ rest) = some (n.toValue, rest) := by
  have hdigits : Text.numeral? 10 (n.whole ++ n.fraction) = some n.digits :=
    numeral_of_digits fun c hc => (List.mem_append.1 hc).elim (h.whole c) (h.fraction c)
  have hbehind : (n.unsigned ++ rest).drop n.whole.length = n.tailChars ++ rest := by
    rw [unsigned, List.append_assoc, List.drop_left]
  rw [readNumber, takeSign_chars h]
  simp only [takeWhole_unsigned h hzero hrest, hbehind, takeFraction_tailChars h hrest,
    takeExponent_chars h hrest, hdigits, List.isEmpty_iff, h.nonempty, if_false]
  rw [toValue, toFloat, isFloat]
  rw [isFloat] at hlimit
  cases hexponent : n.exponent with
  | some e => simp
  | none =>
    cases hfraction : n.fraction with
    | cons c cs => simp [power, exponentChars, hexponent]
    | nil =>
      have hle : ¬ digitLimit < n.whole.length := by
        simpa [hexponent, hfraction] using hlimit
      simp [exponentChars, hexponent, hle]

/-! ### In the written form -/

theorem splitFraction_tailChars (h : n.WellFormed) :
    Binary64.splitFraction n.tailChars = (n.fraction, n.exponentChars) := by
  have hexponent : NoDigit n.exponentChars := by
    have := noDigit_exponentChars (n := n) ends_nil
    rwa [List.append_nil] at this
  rw [tailChars]
  split_ifs with hfraction
  · rw [List.isEmpty_iff.1 hfraction, exponentChars]
    cases n.exponent <;> rfl
  · simp only [List.cons_append, Binary64.splitFraction, takeWhile_digits h.fraction hexponent,
      dropWhile_digits h.fraction hexponent]

theorem exponent_chars (h : n.WellFormed) : Binary64.exponent? n.exponentChars = some n.power := by
  rw [exponentChars, power]
  cases hexponent : n.exponent with
  | none => rfl
  | some e =>
    obtain ⟨negative, digits⟩ := e
    obtain ⟨hne, hdigits⟩ := h.exponent (negative, digits) hexponent
    cases negative <;> simp [Binary64.exponent?, hne, numeral_of_digits hdigits]

theorem readUnsigned_unsigned (h : n.WellFormed) :
    Binary64.readUnsigned n.negative n.unsigned = some n.toFloat := by
  have hdigits : Text.numeral? 10 (n.whole ++ n.fraction) = some n.digits :=
    numeral_of_digits fun c hc => (List.mem_append.1 hc).elim (h.whole c) (h.fraction c)
  have htail : NoDigit n.tailChars := by
    have := noDigit_tailChars (n := n) ends_nil
    rwa [List.append_nil] at this
  rw [Binary64.readUnsigned, unsigned, takeWhile_digits h.whole htail,
    dropWhile_digits h.whole htail, splitFraction_tailChars h]
  simp [h.nonempty, exponent_chars h, hdigits, toFloat]

theorem exists_unsigned_cons (h : n.WellFormed) :
    ∃ c cs, n.unsigned = c :: cs ∧ c.isDigit := by
  obtain ⟨c, cs, hwhole⟩ := List.exists_cons_of_ne_nil h.nonempty
  refine ⟨c, cs ++ n.tailChars, by rw [unsigned, hwhole]; rfl, h.whole c ?_⟩
  rw [hwhole]
  exact List.mem_cons_self

/-- The written form of a numeral is read as the float that it denotes. -/
theorem read_chars (h : n.WellFormed) : Binary64.read? n.chars = some n.toFloat := by
  obtain ⟨c, cs, hunsigned, hdigit⟩ := exists_unsigned_cons h
  -- Neither a sign nor a word begins with a digit.
  have hword (c' : Char) (w : List Char) (hc' : c'.isDigit = false) :
      String.ofList (n.unsigned.map Char.toLower) ≠ String.ofList (c' :: w) := by
    rw [hunsigned, List.map_cons, toLower_of_isDigit hdigit]
    intro heq
    exact ne_of_isDigit hdigit hc' (List.cons.inj (String.ofList_inj.1 heq)).1
  have hsign : Binary64.splitSign n.chars = (n.negative, n.unsigned) := by
    rw [chars]
    cases n.negative with
    | true => rfl
    | false =>
      have hminus : c ≠ '-' := ne_of_isDigit hdigit rfl
      have hplus : c ≠ '+' := ne_of_isDigit hdigit rfl
      rw [hunsigned]
      simp [Binary64.splitSign, hminus, hplus]
  rw [Binary64.read?, hsign]
  refine (if_neg (hword 'n' ['a', 'n'] rfl)).trans ((if_neg ?_).trans (readUnsigned_unsigned h))
  exact not_or.2 ⟨hword 'i' ['n', 'f'] rfl, hword 'i' ['n', 'f', 'i', 'n', 'i', 't', 'y'] rfl⟩

end Numeral

/-! ## Texts as characters -/

theorem toChar_ofChar (c : Char) : (CodePoint.ofChar c).toChar = c := by
  have hvalid := c.valid
  have hval : (CodePoint.ofChar c).val = c.toNat := rfl
  rw [CodePoint.toChar, CodePoint.isSurrogate, hval]
  simp only [UInt32.isValidChar, Nat.isValidChar] at hvalid
  rw [if_neg, Char.ofNat_toNat]
  simp only [Bool.and_eq_true, decide_eq_true_eq, Char.toNat]
  omega

/-- The characters of a text without surrogates. -/
def chars (t : Text) : List Char := t.map CodePoint.toChar

theorem chars_append (s t : Text) : chars (s ++ t) = chars s ++ chars t := List.map_append

theorem chars_ofString (s : String) : chars (Text.ofString s) = s.toList := by
  rw [chars, Text.ofString, List.map_map]
  exact (List.map_congr_left fun c _ => toChar_ofChar c).trans (List.map_id _)

theorem length_chars (t : Text) : (chars t).length = t.length := List.length_map _

/-! ## Integers -/

/-- The digits of a positive number do not begin with a zero. -/
theorem head_toDigits_ne {n : Nat} (h : n ≠ 0) : (Nat.toDigits 10 n).head? ≠ some '0' := by
  induction n using Nat.strong_induction_on with
  | _ n ih =>
    rw [Nat.toDigits_eq_if (by decide)]
    split_ifs with hlt
    · interval_cases n <;> first | exact absurd rfl h | decide
    · rw [List.head?_append_of_ne_nil _ Nat.toDigits_ne_nil]
      exact ih (n / 10) (by omega) (by omega)

theorem isDigit_toDigits (n : Nat) : ∀ c ∈ Nat.toDigits 10 n, c.isDigit := fun _ hc =>
  Nat.isDigit_of_mem_toDigits (by decide) (by decide) hc

/-- The numeral of an integer. -/
def intNumeral (n : Int) : Numeral := ⟨n < 0, Nat.toDigits 10 n.natAbs, [], none⟩

theorem wellFormed_intNumeral (n : Int) : (intNumeral n).WellFormed :=
  ⟨Nat.toDigits_ne_nil, isDigit_toDigits _, fun _ hc => absurd hc List.not_mem_nil,
    fun _ he => by cases he⟩

theorem noLeadingZero_intNumeral (n : Int) : (intNumeral n).NoLeadingZero := by
  intro hhead
  by_cases hzero : n.natAbs = 0
  · rw [intNumeral, hzero]
    rfl
  · exact absurd hhead (head_toDigits_ne hzero)

theorem toValue_intNumeral (n : Int) : (intNumeral n).toValue = .int n := by
  have hdigits : (intNumeral n).digits = n.natAbs := by
    rw [Numeral.digits, intNumeral, List.append_nil, Nat.ofDigitChars_ten_toDigits]
  have hfloat : (intNumeral n).isFloat = false := rfl
  rw [Numeral.toValue, hfloat, hdigits]
  simp only [Bool.false_eq_true, if_false, intNumeral, decide_eq_true_eq]
  split_ifs <;> congr 1 <;> omega

theorem chars_ofNat (n : Nat) : chars (Text.ofNat n) = Nat.toDigits 10 n := by
  rw [Text.ofNat, chars_ofString, Nat.repr_eq_ofList_toDigits, String.toList_ofList]

theorem chars_intNumeral (n : Int) : (intNumeral n).chars = chars (Text.ofInt n) := by
  have hchars : (intNumeral n).chars =
      (if n < 0 then ['-'] else []) ++ Nat.toDigits 10 n.natAbs := by
    simp [Numeral.chars, intNumeral, Numeral.unsigned, Numeral.tailChars, Numeral.exponentChars]
  rw [hchars]
  cases n with
  | ofNat k => exact (chars_ofNat k).symm
  | negSucc k =>
    rw [Text.ofInt, chars_append, chars_ofNat, if_pos (Int.negSucc_lt_zero k)]
    rfl

/-! ## Floats -/

theorem ofDigitChars_zeros_append (k : Nat) (digits : List Char) :
    Nat.ofDigitChars 10 (List.replicate k '0' ++ digits) 0 = Nat.ofDigitChars 10 digits 0 := by
  rw [Nat.ofDigitChars_append, Nat.ofDigitChars_replicate_zero, Nat.mul_zero]

theorem ofDigitChars_append_zeros (digits : List Char) (k : Nat) :
    Nat.ofDigitChars 10 (digits ++ List.replicate k '0') 0 =
      10 ^ k * Nat.ofDigitChars 10 digits 0 := by
  rw [Nat.ofDigitChars_append, Nat.ofDigitChars_replicate_zero]

/-- A numeral that shows the digits of a positive number, with zeros in front and behind. -/
structure Shows (n : Numeral) (digits : Nat) : Prop where
  wellFormed : n.WellFormed
  isFloat : n.isFloat = true
  value : ∃ k, n.digits = 10 ^ k * digits
  noLeadingZero : digits ≠ 0 → n.NoLeadingZero

/-- Positional digits with zeros behind them and a zero fraction. -/
theorem shows_integral (negative : Bool) (d k : Nat) :
    Shows ⟨negative, Nat.toDigits 10 d ++ List.replicate k '0', ['0'], none⟩ d where
  wellFormed := by
    refine ⟨by simp [Nat.toDigits_ne_nil], fun c hc => ?_, by simp, by simp⟩
    rcases List.mem_append.1 hc with hc | hc
    · exact isDigit_toDigits d c hc
    · rw [List.eq_of_mem_replicate hc]
      rfl
  isFloat := rfl
  value := by
    refine ⟨k + 1, ?_⟩
    have hzeros : Nat.toDigits 10 d ++ List.replicate k '0' ++ ['0'] =
        Nat.toDigits 10 d ++ List.replicate (k + 1) '0' := by
      rw [List.append_assoc, ← List.replicate_succ']
    rw [Numeral.digits, hzeros, ofDigitChars_append_zeros, Nat.ofDigitChars_ten_toDigits]
  noLeadingZero := fun hd hhead => by
    rw [List.head?_append_of_ne_nil _ Nat.toDigits_ne_nil] at hhead
    exact absurd hhead (head_toDigits_ne hd)

/-- Digits behind the point, perhaps with zeros in front of them. -/
theorem shows_fractional (negative : Bool) (d k : Nat) :
    Shows ⟨negative, ['0'], List.replicate k '0' ++ Nat.toDigits 10 d, none⟩ d where
  wellFormed := by
    refine ⟨by simp, by simp, fun c hc => ?_, by simp⟩
    rcases List.mem_append.1 hc with hc | hc
    · rw [List.eq_of_mem_replicate hc]
      rfl
    · exact isDigit_toDigits d c hc
  isFloat := by simp [Numeral.isFloat, Nat.toDigits_ne_nil]
  value := by
    refine ⟨0, ?_⟩
    have hzeros : ['0'] ++ (List.replicate k '0' ++ Nat.toDigits 10 d) =
        List.replicate (k + 1) '0' ++ Nat.toDigits 10 d := by
      rw [← List.append_assoc, List.replicate_succ]
      rfl
    rw [Numeral.digits, hzeros, ofDigitChars_zeros_append, Nat.ofDigitChars_ten_toDigits,
      Nat.pow_zero, Nat.one_mul]
  noLeadingZero := fun _ _ => rfl

/-- Digits on both sides of the point. -/
theorem shows_split (negative : Bool) (d k : Nat) (hk : 0 < k)
    (hlt : k < (Nat.toDigits 10 d).length) :
    Shows ⟨negative, (Nat.toDigits 10 d).take k, (Nat.toDigits 10 d).drop k, none⟩ d where
  wellFormed := by
    refine ⟨?_, fun c hc => isDigit_toDigits d c (List.mem_of_mem_take hc),
      fun c hc => isDigit_toDigits d c (List.mem_of_mem_drop hc), by simp⟩
    simp [Nat.toDigits_ne_nil, hk.ne']
  isFloat := by simpa [Numeral.isFloat] using hlt
  value := ⟨0, by
    rw [Numeral.digits, List.take_append_drop, Nat.ofDigitChars_ten_toDigits, Nat.pow_zero,
      Nat.one_mul]⟩
  noLeadingZero := fun hd hhead => by
    rw [List.head?_take, if_neg hk.ne'] at hhead
    exact absurd hhead (head_toDigits_ne hd)

/-- One digit in front of the point, and an exponent. -/
theorem shows_exponential (negative : Bool) (d : Nat) (minus : Bool) (size : List Char)
    (hne : size ≠ []) (hsize : ∀ c ∈ size, c.isDigit) :
    Shows ⟨negative, (Nat.toDigits 10 d).take 1, (Nat.toDigits 10 d).drop 1, some (minus, size)⟩
      d where
  wellFormed := by
    refine ⟨by simp [Nat.toDigits_ne_nil],
      fun c hc => isDigit_toDigits d c (List.mem_of_mem_take hc),
      fun c hc => isDigit_toDigits d c (List.mem_of_mem_drop hc), fun e he => ?_⟩
    cases he
    exact ⟨hne, hsize⟩
  isFloat := by simp [Numeral.isFloat]
  value := ⟨0, by
    rw [Numeral.digits, List.take_append_drop, Nat.ofDigitChars_ten_toDigits, Nat.pow_zero,
      Nat.one_mul]⟩
  noLeadingZero := fun hd hhead => by
    rw [List.head?_take, if_neg (by decide)] at hhead
    exact absurd hhead (head_toDigits_ne hd)

/-- The digits of an exponent, at least two of them. -/
theorem isDigit_padded (k : Nat) :
    ∀ c ∈ (if (Nat.toDigits 10 k).length < 2 then '0' :: Nat.toDigits 10 k else Nat.toDigits 10 k),
      c.isDigit := by
  intro c hc
  split_ifs at hc
  · rcases List.mem_cons.1 hc with rfl | hc
    · rfl
    · exact isDigit_toDigits k c hc
  · exact isDigit_toDigits k c hc

/-- A number that is not zero is written as a numeral that shows some digits. -/
theorem exists_shows (negative : Bool) (style : Binary64.Style) (hstyle : style.keepsPoint = true)
    {m : Nat} (hm : m ≠ 0) (e : Int) :
    ∃ n d, Shows n d ∧ n.negative = negative ∧
      n.unsigned = (Binary64.finiteDigits style m e).toList := by
  rw [Binary64.finiteDigits, if_neg hm]
  generalize Binary64.shortest m e = found
  obtain ⟨found, place⟩ := found
  dsimp only
  generalize Binary64.trimZeros 20 found place = trimmed
  obtain ⟨d, unit⟩ := trimmed
  dsimp only
  rw [hstyle, if_pos rfl]
  have hpos : 0 < (Nat.toDigits 10 d).length := Nat.length_toDigits_pos
  by_cases hrange : -4 < ((Nat.toDigits 10 d).length : Int) + unit ∧
      ((Nat.toDigits 10 d).length : Int) + unit ≤ 16
  · rw [if_pos hrange]
    split_ifs with hunit hpoint
    · refine ⟨_, d, shows_integral negative d unit.toNat, rfl, ?_⟩
      simp [Numeral.unsigned, Numeral.tailChars, Numeral.exponentChars]
    · refine ⟨_, d, shows_fractional negative d (-((Nat.toDigits 10 d).length + unit)).toNat, rfl,
        ?_⟩
      simp [Numeral.unsigned, Numeral.tailChars, Numeral.exponentChars, Nat.toDigits_ne_nil]
    · have hlt : ((Nat.toDigits 10 d).length + unit).toNat < (Nat.toDigits 10 d).length := by omega
      refine ⟨_, d, shows_split negative d _ (by omega) hlt, rfl, ?_⟩
      simp [Numeral.unsigned, Numeral.tailChars, Numeral.exponentChars, hlt]
  · rw [if_neg hrange]
    generalize ((Nat.toDigits 10 d).length : Int) + unit - 1 = exponent
    have hne : (if (Nat.toDigits 10 exponent.natAbs).length < 2 then
        '0' :: Nat.toDigits 10 exponent.natAbs else Nat.toDigits 10 exponent.natAbs) ≠ [] := by
      split_ifs
      · exact List.cons_ne_nil _ _
      · exact Nat.toDigits_ne_nil
    refine ⟨_, d, shows_exponential negative d (exponent < 0) _ hne (isDigit_padded _), rfl, ?_⟩
    rw [Numeral.unsigned, Numeral.tailChars, Numeral.exponentChars]
    match Nat.toDigits 10 d with
    | [] => by_cases hminus : exponent < 0 <;> simp [hminus]
    | [c] => by_cases hminus : exponent < 0 <;> simp [hminus]
    | c :: c' :: rest => by_cases hminus : exponent < 0 <;> simp [hminus]

/-- The float is the one that its written form is read as. -/
def RoundTrips (x : Binary64) : Prop := Binary64.read? x.text.toList = some x

theorem chars_number (negative : Bool) (m : Nat) (e : Int) :
    chars (number (.finite negative m e)) = (Binary64.finite negative m e).text.toList := by
  rw [number, chars_ofString]
  rfl

theorem text_finite (negative : Bool) (m : Nat) (e : Int) :
    (Binary64.finite negative m e).text.toList = (if negative then ['-'] else []) ++
      (Binary64.finiteDigits ⟨true, "nan", "inf"⟩ m e).toList := by
  rw [Binary64.text, Binary64.write, String.toList_append]
  cases negative <;> rfl

/-- A finite float that is read back from its written form is written as a numeral that denotes
it. -/
theorem exists_numeral_float {negative : Bool} {m : Nat} {e : Int}
    (h : RoundTrips (.finite negative m e)) :
    ∃ n : Numeral, n.WellFormed ∧ n.NoLeadingZero ∧ n.isFloat = true ∧
      n.chars = chars (number (.finite negative m e)) ∧ n.toFloat = .finite negative m e := by
  obtain ⟨n, hformed, hfloat, hsign, hunsigned, hzero⟩ : ∃ n : Numeral, n.WellFormed ∧
      n.isFloat = true ∧ n.negative = negative ∧
      n.unsigned = (Binary64.finiteDigits ⟨true, "nan", "inf"⟩ m e).toList ∧
      (n.toFloat = .finite negative m e → n.NoLeadingZero) := by
    by_cases hm : m = 0
    · refine ⟨⟨negative, ['0'], ['0'], none⟩, ⟨by simp, by simp, by simp, by simp⟩, rfl, rfl, ?_,
        fun _ _ => rfl⟩
      rw [hm, Binary64.finiteDigits, if_pos rfl, if_pos rfl, String.toList_ofList]
      rfl
    · obtain ⟨n, d, hshows, hsign, hunsigned⟩ := exists_shows negative ⟨true, "nan", "inf"⟩ rfl hm e
      refine ⟨n, hshows.wellFormed, hshows.isFloat, hsign, hunsigned, fun hvalue => ?_⟩
      refine hshows.noLeadingZero fun hd => hm ?_
      -- A numeral of zeros denotes zero.
      obtain ⟨k, hk⟩ := hshows.value
      rw [Numeral.toFloat, hk, hd, Nat.mul_zero, Binary64.ofDecimal, if_pos rfl] at hvalue
      cases hvalue
      rfl
  have hchars : n.chars = (Binary64.finite negative m e).text.toList := by
    rw [text_finite, Numeral.chars, hsign, hunsigned]
  have hvalue : n.toFloat = .finite negative m e := by
    rw [RoundTrips, ← hchars, Numeral.read_chars hformed] at h
    exact Option.some.inj h
  exact ⟨n, hformed, hzero hvalue, hfloat, by rw [hchars, chars_number], hvalue⟩

end SourceDocs.Json
