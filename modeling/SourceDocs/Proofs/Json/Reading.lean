import SourceDocs.Json.Indented
import SourceDocs.Proofs.Json.Numeral

/-!
# Values that are read back

`Reads v t` says that the reader takes the text `t` for the value `v`, whatever follows it.  There
is one rule for each kind of value, and one for lists and one for mappings with any blanks between
their parts.
-/

namespace SourceDocs.Json

/-! ## Blanks -/

/-- Characters that are skipped between the parts of a value. -/
def isBlank (c : Char) : Bool := c = ' ' || c = '\t' || c = '\n' || c = '\r'

/-- Only blanks. -/
def Blank (t : Text) : Prop := ∀ c ∈ chars t, isBlank c

theorem skipBlank_eq (cs : List Char) : skipBlank cs = cs.dropWhile isBlank := rfl

theorem skipBlank_blank {t : Text} (h : Blank t) {c : Char} (hc : isBlank c = false)
    (rest : List Char) : skipBlank (chars t ++ c :: rest) = c :: rest := by
  rw [skipBlank_eq, List.dropWhile_append_of_pos h, List.dropWhile_cons, hc]
  rfl

theorem skipBlank_of_ne {c : Char} (hc : isBlank c = false) (rest : List Char) :
    skipBlank (c :: rest) = c :: rest :=
  skipBlank_blank (t := []) (fun _ h => absurd h List.not_mem_nil) hc rest

/-- A blank, or what comes after blanks, ends a number. -/
theorem ends_blank {t : Text} (h : Blank t) {c : Char} (hc : c = ',' ∨ c = ']' ∨ c = '\x7d')
    (rest : List Char) : Ends (chars t ++ c :: rest) := by
  intro c' hc'
  cases hchars : chars t with
  | nil =>
    rw [hchars] at hc'
    cases hc'
    rcases hc with rfl | rfl | rfl <;> decide
  | cons b bs =>
    rw [hchars] at hc'
    cases hc'
    have hb : isBlank c' := h c' (by rw [hchars]; exact List.mem_cons_self)
    simp only [isBlank, Bool.or_eq_true, decide_eq_true_eq] at hb
    rcases hb with ((rfl | rfl) | rfl) | rfl <;> decide

/-! ## Strings -/

/-- Four hexadecimal digits of a control character. -/
theorem readHex4_hexadecimal {n : Nat} (h : n < 32) (rest : List Char) :
    readHex4 (Text.hexadecimal 4 n ++ rest) = some (n, rest) := by
  have hall : ∀ n < 32, (Text.hexadecimal 4 n).length = 4 ∧
      Text.numeral? 16 (Text.hexadecimal 4 n) = some n := by decide +kernel
  obtain ⟨hlength, hvalue⟩ := hall n h
  simp [readHex4, List.take_left' hlength, List.drop_left' hlength, hlength, hvalue]

theorem toNat_toChar {c : CodePoint} (h : c.isSurrogate = false) : c.toChar.toNat = c.val := by
  have hvalid : c.val.isValidChar := by
    simp only [CodePoint.isSurrogate, Bool.and_eq_false_iff, decide_eq_false_iff_not] at h
    have := c.isLt
    rw [Nat.isValidChar]
    omega
  rw [CodePoint.toChar, h]
  rw [if_neg (by decide), Char.ofNat, dif_pos hvalid]
  rfl

theorem ofChar_toChar {c : CodePoint} (h : c.isSurrogate = false) :
    CodePoint.ofChar c.toChar = c := Fin.ext (toNat_toChar h)

/-- The characters that are written as a backslash and a letter. -/
def letters : List (Char × Char) :=
  [('"', '"'), ('\\', '\\'), ('n', '\n'), ('r', '\r'), ('t', '\t'), ('b', '\x08'), ('f', '\x0c')]

theorem readString_letter {letter c : Char} (h : (letter, c) ∈ letters) (fuel : Nat)
    (rest : List Char) :
    readString (fuel + 1) ('\\' :: letter :: rest) =
      (readString fuel rest).map fun r => (CodePoint.ofChar c :: r.1, r.2) := by
  simp only [letters, List.mem_cons, List.not_mem_nil, or_false, Prod.mk.injEq] at h
  rcases h with ⟨rfl, rfl⟩ | ⟨rfl, rfl⟩ | ⟨rfl, rfl⟩ | ⟨rfl, rfl⟩ | ⟨rfl, rfl⟩ | ⟨rfl, rfl⟩ |
    ⟨rfl, rfl⟩ <;> rfl

theorem readString_control {n : Nat} (h : n < 32) (fuel : Nat) (rest : List Char) :
    readString (fuel + 1) ('\\' :: 'u' :: (Text.hexadecimal 4 n ++ rest)) =
      (readString fuel rest).map fun r => (CodePoint.ofNat n :: r.1, r.2) := by
  have hescaped : readEscaped (Text.hexadecimal 4 n ++ rest) = some (CodePoint.ofNat n, rest) := by
    rw [readEscaped, readHex4_hexadecimal h]
    exact if_neg (by omega)
  rw [readString.eq_def]
  simp only [Char.reduceEq, if_false, if_true, hescaped]
  cases hrest : readString fuel rest <;> simp [hrest]

theorem readString_plain {c : Char} (hquote : c ≠ '"') (hbackslash : c ≠ '\\')
    (hcontrol : ¬ c.toNat < 32) (fuel : Nat) (rest : List Char) :
    readString (fuel + 1) (c :: rest) =
      (readString fuel rest).map fun r => (CodePoint.ofChar c :: r.1, r.2) := by
  rw [readString.eq_def]
  exact (if_neg hquote).trans ((if_neg hbackslash).trans (if_neg hcontrol))

/-- What a code point is written as is read as this code point. -/
theorem readString_escape {c : CodePoint} (h : c.isSurrogate = false) (fuel : Nat)
    (rest : List Char) :
    readString (fuel + 1) (chars (escape c) ++ rest) =
      (readString fuel rest).map fun r => (c :: r.1, r.2) := by
  have hpoint := ofChar_toChar h
  have hshort (letter ch : Char) (hmem : (letter, ch) ∈ letters) (hc : c.toChar = ch) :
      readString (fuel + 1) ('\\' :: letter :: rest) =
        (readString fuel rest).map fun r => (c :: r.1, r.2) := by
    rw [readString_letter hmem, ← hc, hpoint]
  rw [escape]
  split
  case h_1 heq => exact hshort _ _ (by decide) heq
  case h_2 heq => exact hshort _ _ (by decide) heq
  case h_3 heq => exact hshort _ _ (by decide) heq
  case h_4 heq => exact hshort _ _ (by decide) heq
  case h_5 heq => exact hshort _ _ (by decide) heq
  case h_6 hquote hbackslash _ _ _ =>
    split_ifs with hback hfeed hcontrol
    · exact hshort 'b' '\x08' (by decide) (Char.toNat_inj.1 hback)
    · exact hshort 'f' '\x0c' (by decide) (Char.toNat_inj.1 hfeed)
    · have hchars :
          chars (('\\' :: 'u' :: Text.hexadecimal 4 c.toChar.toNat).map CodePoint.ofChar) =
            '\\' :: 'u' :: Text.hexadecimal 4 c.toChar.toNat := by
        rw [chars, List.map_map]
        exact (List.map_congr_left fun c _ => toChar_ofChar c).trans (List.map_id _)
      rw [hchars, List.cons_append, List.cons_append, readString_control hcontrol,
        toNat_toChar h, show CodePoint.ofNat c.val = c from Fin.ext (Nat.mod_eq_of_lt c.isLt)]
    · show readString (fuel + 1) (c.toChar :: rest) = _
      rw [readString_plain hquote hbackslash hcontrol, hpoint]

theorem length_escape_pos (c : CodePoint) : 0 < (escape c).length := by
  rw [escape]
  split <;> (try split_ifs) <;> exact Nat.zero_lt_succ _

theorem length_le_escaped (t : Text) : t.length ≤ (t.flatMap escape).length := by
  induction t with
  | nil => exact Nat.le_refl 0
  | cons c rest ih =>
    have := length_escape_pos c
    rw [List.flatMap_cons, List.length_append, List.length_cons]
    omega

/-- The inside of a JSON string is read up to its closing quote. -/
theorem readString_escaped {t : Text} (h : t.isWellFormed) {fuel : Nat} (hfuel : t.length < fuel)
    (rest : List Char) :
    readString fuel (chars (t.flatMap escape) ++ '"' :: rest) = some (t, rest) := by
  induction t generalizing fuel with
  | nil =>
    obtain ⟨fuel, rfl⟩ : ∃ k, fuel = k + 1 := ⟨fuel - 1, by omega⟩
    rfl
  | cons c t ih =>
    obtain ⟨fuel, rfl⟩ : ∃ k, fuel = k + 1 := ⟨fuel - 1, by omega⟩
    rw [Text.isWellFormed, List.all_cons, Bool.and_eq_true, Bool.not_eq_true'] at h
    rw [List.length_cons] at hfuel
    rw [List.flatMap_cons, chars_append, List.append_assoc, readString_escape h.1,
      ih h.2 (by omega)]
    rfl

/-! ## Values -/

/-- The reader takes a text for a value, whatever comes behind. -/
structure Reads (v : Value) (t : Text) : Prop where
  head : ∃ c cs, chars t = c :: cs ∧ isBlank c = false ∧ c ≠ ']'
  read : ∀ fuel room rest, 2 * t.length ≤ fuel + 1 → t.length ≤ room → Ends rest →
    readValue (fuel + 1) room (chars t ++ rest) = .ok (v, rest)

theorem Reads.length_pos {v : Value} {t : Text} (h : Reads v t) : 0 < t.length := by
  obtain ⟨c, cs, hchars, -⟩ := h.head
  rw [← length_chars, hchars]
  exact Nat.zero_lt_succ _

theorem Reads.readValue_eq {v : Value} {t : Text} (h : Reads v t) {fuel room : Nat}
    (hfuel : 2 * t.length ≤ fuel) (hroom : t.length ≤ room) {rest : List Char}
    (hrest : Ends rest) : readValue fuel room (chars t ++ rest) = .ok (v, rest) := by
  have hpos := h.length_pos
  obtain ⟨fuel, rfl⟩ : ∃ k, fuel = k + 1 := ⟨fuel - 1, by omega⟩
  exact h.read fuel room rest hfuel hroom hrest

theorem Reads.skipBlank_eq {v : Value} {t : Text} (h : Reads v t) {b : Text} (hb : Blank b)
    (rest : List Char) : skipBlank (chars b ++ (chars t ++ rest)) = chars t ++ rest := by
  obtain ⟨c, cs, hchars, hc, -⟩ := h.head
  rw [hchars]
  exact skipBlank_blank hb hc _

theorem chars_ofChar (c : Char) : chars (Text.ofChar c) = [c] := by
  rw [chars, Text.ofChar, List.map_singleton, toChar_ofChar]

theorem chars_quote (t : Text) : chars (quote t) = '"' :: (chars (t.flatMap escape) ++ ['"']) := by
  rw [quote, chars_append, chars_append, chars_ofChar]
  rfl

theorem reads_text {t : Text} (h : t.isWellFormed) : Reads (.text t) (quote t) where
  head := ⟨'"', _, chars_quote t, rfl, by decide⟩
  read := fun fuel room rest hfuel _ _ => by
    have hlength : (quote t).length = (t.flatMap escape).length + 2 := by
      rw [← length_chars, chars_quote, List.length_cons, List.length_append, length_chars,
        List.length_singleton]
    have hle := length_le_escaped t
    have hread := readString_escaped h (show t.length < fuel by omega) rest
    rw [chars_quote, List.cons_append, List.append_assoc, readValue.eq_def]
    simp only [List.singleton_append, hread]
    rfl

/-- The values that are written as a word. -/
def words : List (String × Value) :=
  [("null", .null), ("true", .bool true), ("false", .bool false), ("NaN", .float .nan),
    ("Infinity", .float (.infinite false)), ("-Infinity", .float (.infinite true))]

theorem readValue_word {w : String} {v : Value} (h : (w, v) ∈ words) (fuel room : Nat)
    (rest : List Char) : readValue (fuel + 1) room (w.toList ++ rest) = .ok (v, rest) := by
  simp only [words, List.mem_cons, List.not_mem_nil, or_false, Prod.mk.injEq] at h
  rcases h with ⟨rfl, rfl⟩ | ⟨rfl, rfl⟩ | ⟨rfl, rfl⟩ | ⟨rfl, rfl⟩ | ⟨rfl, rfl⟩ | ⟨rfl, rfl⟩ <;>
    simp [readValue, afterWord, orMalformed] <;> rfl

theorem reads_word {w : String} {v : Value} (h : (w, v) ∈ words) : Reads v (Text.ofString w) where
  head := by
    rw [chars_ofString]
    simp only [words, List.mem_cons, List.not_mem_nil, or_false, Prod.mk.injEq] at h
    rcases h with ⟨rfl, -⟩ | ⟨rfl, -⟩ | ⟨rfl, -⟩ | ⟨rfl, -⟩ | ⟨rfl, -⟩ | ⟨rfl, -⟩ <;>
      exact ⟨_, _, rfl, rfl, by decide⟩
  read := fun fuel room rest _ _ _ => by
    rw [chars_ofString]
    exact readValue_word h fuel room rest

theorem readValue_number {c : Char} (hc : c.isDigit) {cs r : List Char}
    (h : cs = c :: r ∨ cs = '-' :: c :: r) (fuel room : Nat) :
    readValue (fuel + 1) room cs = orMalformed (readNumber cs) := by
  have hne (c' : Char) (hc' : c'.isDigit = false) : c ≠ c' := ne_of_isDigit hc hc'
  have hne' (c' : Char) (hc' : c'.isDigit = false) : c' ≠ c := (hne c' hc').symm
  rcases h with rfl | rfl
  · simp [readValue, afterWord, hne '"' rfl, hne '\x7b' rfl, hne '[' rfl, hne' 'n' rfl,
      hne' 't' rfl, hne' 'f' rfl, hne' 'N' rfl, hne' 'I' rfl, hne' '-' rfl]
  · simp [readValue, afterWord, hne' 'I' rfl]

theorem reads_numeral {n : Numeral} (h : n.WellFormed) (hzero : n.NoLeadingZero)
    (hlimit : n.isFloat ∨ n.whole.length ≤ digitLimit) {t : Text} (ht : n.chars = chars t) :
    Reads n.toValue t := by
  obtain ⟨c, cs, hunsigned, hdigit⟩ := Numeral.exists_unsigned_cons h
  have hchars : chars t = c :: cs ∨ chars t = '-' :: c :: cs := by
    rw [← ht, Numeral.chars, hunsigned]
    cases n.negative
    · exact .inl rfl
    · exact .inr rfl
  refine ⟨?_, fun fuel room rest _ _ hrest => ?_⟩
  · rcases hchars with hchars | hchars
    · refine ⟨c, cs, hchars, ?_, ne_of_isDigit hdigit rfl⟩
      have hne (c' : Char) (hc' : c'.isDigit = false) : c ≠ c' := ne_of_isDigit hdigit hc'
      simp [isBlank, hne ' ' rfl, hne '\t' rfl, hne '\n' rfl, hne '\r' rfl]
    · exact ⟨'-', c :: cs, hchars, rfl, by decide⟩
  · have hcons : chars t ++ rest = c :: (cs ++ rest) ∨ chars t ++ rest = '-' :: c :: (cs ++ rest) :=
      hchars.imp (fun h => by rw [h]; rfl) fun h => by rw [h]; rfl
    rw [readValue_number hdigit hcons, ← ht, Numeral.readNumber_chars h hzero hlimit hrest,
      orMalformed]

theorem reads_int {n : Int} (h : (Text.ofNat n.natAbs).length ≤ digitLimit) :
    Reads (.int n) (Text.ofInt n) := by
  rw [← length_chars, chars_ofNat] at h
  rw [← toValue_intNumeral n]
  exact reads_numeral (wellFormed_intNumeral n) (noLeadingZero_intNumeral n) (.inr h)
    (chars_intNumeral n)

theorem reads_float {x : Binary64} (h : RoundTrips x) : Reads (.float x) (number x) := by
  cases x with
  | nan => exact reads_word (w := "NaN") (by simp [words])
  | infinite negative =>
    cases negative with
    | false => exact reads_word (w := "Infinity") (by simp [words])
    | true => exact reads_word (w := "-Infinity") (by simp [words])
  | finite negative m e =>
    obtain ⟨n, hformed, hzero, hfloat, hchars, hvalue⟩ := exists_numeral_float h
    have hnumeral : n.toValue = .float (.finite negative m e) := by
      rw [Numeral.toValue, if_pos hfloat, hvalue]
    rw [← hnumeral]
    exact reads_numeral hformed hzero (.inl hfloat) hchars

/-! ## Lists and mappings -/

theorem blank_nil : Blank [] := fun _ h => absurd h List.not_mem_nil

theorem blank_space : Blank (Text.ofChar ' ') := by
  intro c hc
  rw [chars_ofChar, List.mem_singleton] at hc
  rw [hc]
  rfl

/-- Texts with commas between them, each comma followed by the same text. -/
def commaJoin (between : Text) (ts : List Text) : Text := Text.join (Text.ofChar ',' ++ between) ts

theorem chars_commaJoin (between s t : Text) (ts : List Text) (rest : List Char) :
    chars (commaJoin between (s :: t :: ts)) ++ rest =
      chars s ++ ',' :: (chars between ++ (chars (commaJoin between (t :: ts)) ++ rest)) := by
  rw [commaJoin, Text.join]
  · simp [chars_append, chars_ofChar, commaJoin]
  · exact fun h => by cases h

theorem length_commaJoin (between s t : Text) (ts : List Text) :
    (commaJoin between (s :: t :: ts)).length =
      s.length + 1 + between.length + (commaJoin between (t :: ts)).length := by
  have h := congrArg List.length (chars_commaJoin between s t ts [])
  simp only [List.append_nil, List.length_append, List.length_cons, length_chars] at h
  omega

theorem exists_commaJoin (between t : Text) (ts : List Text) :
    ∃ r, chars (commaJoin between (t :: ts)) = chars t ++ r := by
  cases ts with
  | nil => exact ⟨[], (List.append_nil _).symm⟩
  | cons s ts =>
    have h := chars_commaJoin between t s ts []
    rw [List.append_nil] at h
    exact ⟨_, h⟩

theorem readValue_list {fuel room : Nat} {r cs : List Char} {c : Char}
    (h : skipBlank r = c :: cs) (hc : c ≠ ']') :
    readValue (fuel + 1) (room + 1) ('[' :: r) = readItems fuel room [] (c :: cs) := by
  rw [readValue.eq_def]
  simp only [h]
  split
  · rename_i heq
    exact absurd (List.cons.inj heq).1 hc
  · rfl

theorem readValue_mapping {fuel room : Nat} {r cs : List Char} {c : Char}
    (h : skipBlank r = c :: cs) (hc : c ≠ '\x7d') :
    readValue (fuel + 1) (room + 1) ('\x7b' :: r) = readMembers fuel room [] (c :: cs) := by
  rw [readValue.eq_def]
  simp only [h]
  split
  · rename_i heq
    exact absurd (List.cons.inj heq).1 hc
  · rfl

/-- The reader takes a text for an entry: a name, a colon and a value. -/
def ReadsEntry (e : Value × Value) (t : Text) : Prop :=
  ∃ name value, e.1 = .text name ∧ name.isWellFormed ∧ Reads e.2 value ∧
    t = quote name ++ Text.ofString ": " ++ value

theorem ReadsEntry.head {e : Value × Value} {t : Text} (h : ReadsEntry e t) :
    ∃ cs, chars t = '"' :: cs := by
  obtain ⟨name, value, -, -, -, rfl⟩ := h
  rw [chars_append, chars_append, chars_quote]
  exact ⟨_, rfl⟩

/-- How the reader goes on behind an entry. -/
theorem ReadsEntry.readMembers_eq {e : Value × Value} {t : Text} (h : ReadsEntry e t)
    {fuel room : Nat} (hfuel : 2 * t.length ≤ fuel) (hroom : t.length ≤ room)
    (done : List (Value × Value)) {rest : List Char} (hrest : Ends rest) :
    readMembers (fuel + 1) room done (chars t ++ rest) =
      match skipBlank rest with
      | ',' :: r => readMembers fuel room (e :: done) (skipBlank r)
      | '\x7d' :: r => .ok (.mapping (Value.ofEntries (e :: done).reverse), r)
      | _ => .error .malformed := by
  obtain ⟨name, value, hkey, hname, hvalue, rfl⟩ := h
  obtain ⟨key, v⟩ := e
  obtain rfl : key = .text name := hkey
  have hle := length_le_escaped name
  have hlength : (quote name).length = (name.flatMap escape).length + 2 := by
    rw [← length_chars, chars_quote, List.length_cons, List.length_append, length_chars,
      List.length_singleton]
  simp only [List.length_append] at hfuel hroom
  have hstring := readString_escaped hname (show name.length < fuel by omega)
    (':' :: ' ' :: (chars value ++ rest))
  have hcolon : skipBlank (':' :: ' ' :: (chars value ++ rest)) =
    ':' :: ' ' :: (chars value ++ rest) := skipBlank_of_ne rfl _
  have hspace : skipBlank (' ' :: (chars value ++ rest)) = chars value ++ rest :=
    hvalue.skipBlank_eq blank_space rest
  have hread := hvalue.readValue_eq (show 2 * value.length ≤ fuel by omega)
    (show value.length ≤ room by omega) hrest
  have hchars : chars (quote name ++ Text.ofString ": " ++ value) ++ rest =
      '"' :: (chars (name.flatMap escape) ++ '"' :: ':' :: ' ' :: (chars value ++ rest)) := by
    rw [chars_append, chars_append, chars_quote, chars_ofString]
    simp
  rw [hchars, readMembers]
  simp only [hstring, orMalformed, bind, Except.bind, hcolon, hspace, hread]
  rfl

theorem ReadsEntry.readMembers_next {e : Value × Value} {t : Text} (h : ReadsEntry e t)
    {fuel room : Nat} (hfuel : 2 * t.length ≤ fuel) (hroom : t.length ≤ room)
    (done : List (Value × Value)) {rest r : List Char} (hrest : Ends rest)
    (hskip : skipBlank rest = ',' :: r) :
    readMembers (fuel + 1) room done (chars t ++ rest) =
      readMembers fuel room (e :: done) (skipBlank r) := by
  rw [h.readMembers_eq hfuel hroom done hrest, hskip]
  rfl

theorem ReadsEntry.readMembers_last {e : Value × Value} {t : Text} (h : ReadsEntry e t)
    {fuel room : Nat} (hfuel : 2 * t.length ≤ fuel) (hroom : t.length ≤ room)
    (done : List (Value × Value)) {rest r : List Char} (hrest : Ends rest)
    (hskip : skipBlank rest = '\x7d' :: r) :
    readMembers (fuel + 1) room done (chars t ++ rest) =
      .ok (.mapping (Value.ofEntries (e :: done).reverse), r) := by
  rw [h.readMembers_eq hfuel hroom done hrest, hskip]
  rfl

section

variable {between after : Text} (hbetween : Blank between) (hafter : Blank after)

include hbetween hafter

/-- Items are read up to the bracket behind them. -/
theorem readItems_commaJoin {items : List Value} {ts : List Text}
    (h : List.Forall₂ Reads items ts) (hne : ts ≠ []) (fuel room : Nat) (done : List Value)
    (rest : List Char) (hfuel : 2 * (commaJoin between ts).length < fuel)
    (hroom : (commaJoin between ts).length ≤ room) :
    readItems fuel room done (chars (commaJoin between ts) ++ (chars after ++ ']' :: rest)) =
      .ok (.list (done.reverse ++ items), rest) := by
  induction h generalizing fuel done with
  | nil => exact absurd rfl hne
  | @cons v t items ts hv hitems ih =>
    obtain ⟨fuel, rfl⟩ : ∃ k, fuel = k + 1 := ⟨fuel - 1, by omega⟩
    cases hitems with
    | nil =>
      have hone : commaJoin between [t] = t := rfl
      rw [hone] at hfuel hroom ⊢
      rw [readItems, hv.readValue_eq (by omega) hroom (ends_blank hafter (by simp) rest)]
      simp [skipBlank_blank hafter (c := ']') rfl, bind, Except.bind, pure, Except.pure]
    | @cons v' t' items' ts' hv' hitems' =>
      rw [length_commaJoin] at hfuel hroom
      have hnext := ih (List.cons_ne_nil _ _) fuel (v :: done) (show _ < fuel by omega) (by omega)
      have hskip : skipBlank (chars between ++ (chars (commaJoin between (t' :: ts')) ++
          (chars after ++ ']' :: rest))) =
          chars (commaJoin between (t' :: ts')) ++ (chars after ++ ']' :: rest) := by
        obtain ⟨r, hr⟩ := exists_commaJoin between t' ts'
        rw [hr, List.append_assoc]
        exact hv'.skipBlank_eq hbetween _
      have hends : Ends (',' :: (chars between ++ (chars (commaJoin between (t' :: ts')) ++
          (chars after ++ ']' :: rest)))) := ends_blank blank_nil (.inl rfl) _
      rw [chars_commaJoin, readItems, hv.readValue_eq (by omega) (by omega) hends]
      simp only [bind, Except.bind, skipBlank_of_ne (c := ',') rfl, hskip, hnext]
      rw [List.reverse_cons, List.append_assoc]
      rfl

/-- A list is read whatever blanks stand between its parts. -/
theorem reads_list {before : Text} (hbefore : Blank before) {items : List Value} {ts : List Text}
    (h : List.Forall₂ Reads items ts) (hne : ts ≠ []) :
    Reads (.list items)
      (Text.ofChar '[' ++ before ++ commaJoin between ts ++ after ++ Text.ofChar ']') := by
  have hchars : chars (Text.ofChar '[' ++ before ++ commaJoin between ts ++ after ++
      Text.ofChar ']') = '[' :: (chars before ++ (chars (commaJoin between ts) ++
        (chars after ++ [']']))) := by
    simp [chars_append, chars_ofChar]
  refine ⟨⟨'[', _, hchars, rfl, by decide⟩, fun fuel room rest hfuel hroom _ => ?_⟩
  cases h with
  | nil => exact absurd rfl hne
  | @cons v t items ts hv hitems =>
    simp only [List.length_append, Text.ofChar, List.length_singleton] at hfuel hroom
    obtain ⟨room, rfl⟩ : ∃ k, room = k + 1 := ⟨room - 1, by omega⟩
    have hread := readItems_commaJoin hbetween hafter (hitems.cons hv) hne fuel room [] rest
      (by omega) (by omega)
    obtain ⟨r, hr⟩ := exists_commaJoin between t ts
    obtain ⟨c, cs, hhead, -, hbracket⟩ := hv.head
    have hskip : skipBlank (chars before ++ (chars (commaJoin between (t :: ts)) ++
        (chars after ++ ']' :: rest))) =
        chars (commaJoin between (t :: ts)) ++ (chars after ++ ']' :: rest) := by
      rw [hr, List.append_assoc]
      exact hv.skipBlank_eq hbefore _
    have hcons : chars (commaJoin between (t :: ts)) ++ (chars after ++ ']' :: rest) =
        c :: (cs ++ r ++ (chars after ++ ']' :: rest)) := by
      rw [hr, hhead]
      rfl
    have hopen : readValue (fuel + 1) (room + 1) _ = _ :=
      readValue_list (hskip.trans hcons) hbracket
    rw [hcons] at hread
    rw [hchars]
    simp only [List.cons_append, List.append_assoc, List.nil_append]
    exact hopen.trans hread

/-- Entries are read up to the brace behind them. -/
theorem readMembers_commaJoin {entries : List (Value × Value)} {ts : List Text}
    (h : List.Forall₂ ReadsEntry entries ts) (hne : ts ≠ []) (fuel room : Nat)
    (done : List (Value × Value)) (rest : List Char)
    (hfuel : 2 * (commaJoin between ts).length < fuel)
    (hroom : (commaJoin between ts).length ≤ room) :
    readMembers fuel room done (chars (commaJoin between ts) ++ (chars after ++ '\x7d' :: rest)) =
      .ok (.mapping (Value.ofEntries (done.reverse ++ entries)), rest) := by
  induction h generalizing fuel done with
  | nil => exact absurd rfl hne
  | @cons e t entries ts he hentries ih =>
    obtain ⟨fuel, rfl⟩ : ∃ k, fuel = k + 1 := ⟨fuel - 1, by omega⟩
    cases hentries with
    | nil =>
      have hone : commaJoin between [t] = t := rfl
      rw [hone] at hfuel hroom ⊢
      rw [he.readMembers_last (by omega) hroom done (ends_blank hafter (by simp) rest)
        (skipBlank_blank hafter rfl rest), List.reverse_cons]
    | @cons e' t' entries' ts' he' hentries' =>
      rw [length_commaJoin] at hfuel hroom
      have hnext := ih (List.cons_ne_nil _ _) fuel (e :: done) (show _ < fuel by omega) (by omega)
      have hskip : skipBlank (chars between ++ (chars (commaJoin between (t' :: ts')) ++
          (chars after ++ '\x7d' :: rest))) =
          chars (commaJoin between (t' :: ts')) ++ (chars after ++ '\x7d' :: rest) := by
        obtain ⟨r, hr⟩ := exists_commaJoin between t' ts'
        obtain ⟨cs, hcs⟩ := he'.head
        rw [hr, List.append_assoc, hcs]
        exact skipBlank_blank hbetween rfl _
      have hends : Ends (',' :: (chars between ++ (chars (commaJoin between (t' :: ts')) ++
          (chars after ++ '\x7d' :: rest)))) := ends_blank blank_nil (.inl rfl) _
      rw [chars_commaJoin, he.readMembers_next (by omega) (by omega) done hends
        (skipBlank_of_ne rfl _), hskip, hnext, List.reverse_cons, List.append_assoc]
      rfl

/-- A mapping is read whatever blanks stand between its parts. -/
theorem reads_mapping {before : Text} (hbefore : Blank before) {entries : List (Value × Value)}
    {ts : List Text} (h : List.Forall₂ ReadsEntry entries ts) (hne : ts ≠ []) :
    Reads (.mapping (Value.ofEntries entries))
      (Text.ofChar '\x7b' ++ before ++ commaJoin between ts ++ after ++ Text.ofChar '\x7d') := by
  have hchars : chars (Text.ofChar '\x7b' ++ before ++ commaJoin between ts ++ after ++
      Text.ofChar '\x7d') = '\x7b' :: (chars before ++ (chars (commaJoin between ts) ++
        (chars after ++ ['\x7d']))) := by
    simp [chars_append, chars_ofChar]
  refine ⟨⟨'\x7b', _, hchars, rfl, by decide⟩, fun fuel room rest hfuel hroom _ => ?_⟩
  cases h with
  | nil => exact absurd rfl hne
  | @cons e t entries ts he hentries =>
    simp only [List.length_append, Text.ofChar, List.length_singleton] at hfuel hroom
    obtain ⟨room, rfl⟩ : ∃ k, room = k + 1 := ⟨room - 1, by omega⟩
    have hread := readMembers_commaJoin hbetween hafter (hentries.cons he) hne fuel room [] rest
      (by omega) (by omega)
    obtain ⟨r, hr⟩ := exists_commaJoin between t ts
    obtain ⟨cs, hcs⟩ := he.head
    have hcons : chars (commaJoin between (t :: ts)) ++ (chars after ++ '\x7d' :: rest) =
        '"' :: (cs ++ r ++ (chars after ++ '\x7d' :: rest)) := by
      rw [hr, hcs]
      rfl
    have hskip : skipBlank (chars before ++ (chars (commaJoin between (t :: ts)) ++
        (chars after ++ '\x7d' :: rest))) =
          '"' :: (cs ++ r ++ (chars after ++ '\x7d' :: rest)) := by
      rw [hcons]
      exact skipBlank_blank hbefore rfl _
    have hopen : readValue (fuel + 1) (room + 1) _ = _ := readValue_mapping hskip (by decide)
    rw [hcons] at hread
    rw [hchars]
    simp only [List.cons_append, List.append_assoc, List.nil_append]
    exact hopen.trans hread

end

theorem reads_nil : Reads (.list []) (Text.ofString "[]") where
  head := ⟨'[', [']'], chars_ofString "[]", rfl, by decide⟩
  read := fun fuel room rest _ hroom _ => by
    have hpos : 0 < room := Nat.lt_of_lt_of_le (by decide) hroom
    obtain ⟨room, rfl⟩ : ∃ k, room = k + 1 := ⟨room - 1, by omega⟩
    rw [chars_ofString]
    rfl

theorem reads_empty : Reads (.mapping []) (Text.ofString "\x7b\x7d") where
  head := ⟨'\x7b', ['\x7d'], chars_ofString "\x7b\x7d", rfl, by decide⟩
  read := fun fuel room rest _ hroom _ => by
    have hpos : 0 < room := Nat.lt_of_lt_of_le (by decide) hroom
    obtain ⟨room, rfl⟩ : ∃ k, room = k + 1 := ⟨room - 1, by omega⟩
    rw [chars_ofString]
    rfl

/-- A text that is read as a value is read as this value if nothing else is there. -/
theorem Reads.read?_eq {v : Value} {t : Text} (h : Reads v t) : read? (chars t) = some v := by
  have hskip := h.skipBlank_eq blank_nil []
  have hread := h.readValue_eq
    (show 2 * t.length ≤ fuelFor (chars t) by rw [fuelFor, length_chars]; omega)
    (show t.length ≤ fuelFor (chars t) by rw [fuelFor, length_chars]; omega) ends_nil
  rw [List.append_nil] at hskip hread
  rw [read?, Json.read, show skipBlank (chars t) = chars t from hskip, hread]
  rfl

end SourceDocs.Json
