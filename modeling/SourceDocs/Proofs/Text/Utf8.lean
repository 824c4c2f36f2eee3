import Mathlib
import SourceDocs.Text.Utf8

/-!
# Texts and their bytes

A text that can be encoded in UTF-8 is what its bytes are read as (`decode?_of_encode?`).  Code
point by code point: the bytes of one are read as this one, whatever comes behind.
-/

namespace SourceDocs.Utf8

theorem toNat_ofNat {n : Nat} (h : n < 256) : (UInt8.ofNat n).toNat = n :=
  UInt8.toNat_ofNat_of_lt' h

theorem toNat_tail (n : Nat) : (UInt8.ofNat (0x80 + n % 64)).toNat = 0x80 + n % 64 :=
  toNat_ofNat (by omega)

theorem continueBetween_tail {low high value missing n : Nat} (rest : List UInt8)
    (hlow : low ≤ 0x80 + n % 64) (hhigh : 0x80 + n % 64 ≤ high) :
    continueBetween low high value missing (UInt8.ofNat (0x80 + n % 64) :: rest) =
      continueWith (value * 64 + n % 64) 2 missing rest := by
  rw [continueBetween, toNat_tail, if_pos ⟨hlow, hhigh⟩, Nat.add_sub_cancel_left]

theorem continueWith_tail {value length missing n : Nat} (rest : List UInt8) :
    continueWith value length (missing + 1) (UInt8.ofNat (0x80 + n % 64) :: rest) =
      continueWith (value * 64 + n % 64) (length + 1) missing rest := by
  have hlt : n % 64 < 64 := Nat.mod_lt n (by decide)
  have hb : isContinuation (UInt8.ofNat (0x80 + n % 64)) = true := by
    rw [isContinuation, toNat_tail, Bool.and_eq_true, decide_eq_true_iff, decide_eq_true_iff]
    omega
  rw [continueWith, if_pos hb, toNat_tail, Nat.add_sub_cancel_left]

theorem point_eq {c : CodePoint} {n : Nat} (h : n = c.val) (length : Nat) :
    Step.point (CodePoint.ofNat n) length = .point c length := by
  rw [h, show CodePoint.ofNat c.val = c from Fin.ext (Nat.mod_eq_of_lt c.isLt)]

section

variable {c : CodePoint} {low high value : Nat} (rest : List UInt8)

/-- One byte behind the first, wherever its bounds are. -/
theorem continueBetween_two (hlow : low ≤ 0x80 + c.val % 64) (hhigh : 0x80 + c.val % 64 ≤ high)
    (hvalue : value = c.val / 64) :
    continueBetween low high value 0 (UInt8.ofNat (0x80 + c.val % 64) :: rest) = .point c 2 := by
  rw [continueBetween_tail _ hlow hhigh]
  exact point_eq (by omega) 2

/-- Two bytes behind the first, wherever the bounds of the second one are. -/
theorem continueBetween_three (hlow : low ≤ 0x80 + c.val / 64 % 64)
    (hhigh : 0x80 + c.val / 64 % 64 ≤ high) (hvalue : value = c.val / 4096) :
    continueBetween low high value 1 (UInt8.ofNat (0x80 + c.val / 64 % 64) ::
      UInt8.ofNat (0x80 + c.val % 64) :: rest) = .point c 3 := by
  rw [continueBetween_tail _ hlow hhigh, continueWith_tail]
  exact point_eq (by omega) 3

/-- Three bytes behind the first, wherever the bounds of the second one are. -/
theorem continueBetween_four (hlow : low ≤ 0x80 + c.val / 4096 % 64)
    (hhigh : 0x80 + c.val / 4096 % 64 ≤ high) (hvalue : value = c.val / 262144) :
    continueBetween low high value 2 (UInt8.ofNat (0x80 + c.val / 4096 % 64) ::
      UInt8.ofNat (0x80 + c.val / 64 % 64) :: UInt8.ofNat (0x80 + c.val % 64) :: rest) =
      .point c 4 := by
  rw [continueBetween_tail _ hlow hhigh, continueWith_tail, continueWith_tail]
  exact point_eq (by omega) 4

end

/-- The bytes of a code point are read as this code point. -/
theorem exists_step_encodePoint {c : CodePoint} (h : c.isSurrogate = false) (more : List UInt8) :
    ∃ b rest, encodePoint c = b :: rest ∧ step b (rest ++ more) = .point c (rest.length + 1) := by
  have hlt := c.isLt
  simp only [CodePoint.isSurrogate, Bool.and_eq_false_iff, decide_eq_false_iff_not] at h
  have h64 : Nat.pow 64 0 = 1 ∧ Nat.pow 64 1 = 64 ∧ Nat.pow 64 2 = 4096 := by decide
  simp only [encodePoint, h64, Nat.div_one]
  split_ifs with hone htwo hthree
  · refine ⟨_, _, rfl, ?_⟩
    rw [List.nil_append, step, toNat_ofNat (by omega), if_pos hone]
    exact point_eq rfl 1
  · refine ⟨_, _, rfl, ?_⟩
    rw [step, toNat_ofNat (by omega), if_neg (by omega), if_neg (by omega), if_pos (by omega)]
    exact continueBetween_two more (by omega) (by omega) (by omega)
  · refine ⟨_, _, rfl, ?_⟩
    have hlead : 0xE0 + c.val / 4096 < 0xF0 := by omega
    rw [step, toNat_ofNat (by omega), if_neg (by omega), if_neg (by omega), if_neg (by omega)]
    -- The bounds of the second byte keep overlong bytes and surrogates out.
    split_ifs with hfirst hed
    · exact continueBetween_three more (by omega) (by omega) (by omega)
    · exact continueBetween_three more (by omega) (by omega) (by omega)
    · exact continueBetween_three more (by omega) (by omega) (by omega)
  · refine ⟨_, _, rfl, ?_⟩
    rw [step, toNat_ofNat (by omega), if_neg (by omega), if_neg (by omega), if_neg (by omega),
      if_neg (by omega), if_neg (by omega), if_neg (by omega)]
    split_ifs with hfirst hlower hlast
    · exact continueBetween_four more (by omega) (by omega) (by omega)
    · exact continueBetween_four more (by omega) (by omega) (by omega)
    · exact continueBetween_four more (by omega) (by omega) (by omega)
    · omega

/-! ## ASCII bytes -/

theorem encodePoint_of_lt {c : CodePoint} (h : c.val < 0x80) :
    encodePoint c = [UInt8.ofNat c.val] := by
  rw [encodePoint, if_pos h]

theorem le_of_mem_encodePoint {c : CodePoint} {b : UInt8} (h : 0x80 ≤ c.val)
    (hb : b ∈ encodePoint c) : 0x80 ≤ b.toNat := by
  have hlt := c.isLt
  have htail (m : Nat) : 0x80 ≤ (UInt8.ofNat (0x80 + m % 64)).toNat := by
    rw [toNat_tail]
    omega
  have hfirst {m : Nat} (hlow : 0x80 ≤ m) (hhigh : m < 256) : 0x80 ≤ (UInt8.ofNat m).toNat := by
    rw [toNat_ofNat hhigh]
    exact hlow
  simp only [encodePoint] at hb
  split_ifs at hb with hone htwo hthree
  · omega
  all_goals simp only [List.mem_cons, List.not_mem_nil, or_false] at hb
  · rcases hb with rfl | rfl
    · exact hfirst (by omega) (by omega)
    · exact htail _
  · rcases hb with rfl | rfl | rfl
    · exact hfirst (by omega) (by omega)
    · exact htail _
    · exact htail _
  · rcases hb with rfl | rfl | rfl | rfl
    · exact hfirst (by omega) (by omega)
    · exact htail _
    · exact htail _
    · exact htail _

/-- An ASCII byte stands only for the character of the same number. -/
theorem mem_encodePoint_iff {c : CodePoint} {n : Nat} (hn : n < 0x80) :
    UInt8.ofNat n ∈ encodePoint c ↔ c.val = n := by
  by_cases h : c.val < 0x80
  · rw [encodePoint_of_lt h, List.mem_singleton, ← UInt8.toNat_inj, toNat_ofNat (by omega),
      toNat_ofNat (by omega), eq_comm]
  · refine ⟨fun hmem => ?_, fun heq => by omega⟩
    have hle := le_of_mem_encodePoint (Nat.le_of_not_lt h) hmem
    rw [toNat_ofNat (by omega)] at hle
    omega

theorem encodePoint_ne_nil (c : CodePoint) : encodePoint c ≠ [] := by
  simp only [encodePoint]
  split_ifs <;> exact List.cons_ne_nil _ _

/-! ## Reading the bytes of a text -/

/-- The bytes of a text are read as the text, behind what was read before. -/
theorem decodeWith_flatMap (repair : List UInt8 → Text) {t : Text} (h : t.isWellFormed) {fuel : Nat}
    (hfuel : (t.flatMap encodePoint).length ≤ fuel) (done : List CodePoint) :
    decodeWith repair fuel (t.flatMap encodePoint) done = done.reverse ++ t := by
  induction t generalizing fuel done with
  | nil => cases fuel <;> simp [decodeWith]
  | cons c t ih =>
    rw [Text.isWellFormed, List.all_cons, Bool.and_eq_true, Bool.not_eq_true'] at h
    obtain ⟨b, rest, hbytes, hstep⟩ := exists_step_encodePoint h.1 (t.flatMap encodePoint)
    rw [List.flatMap_cons, hbytes, List.cons_append] at hfuel ⊢
    rw [List.length_cons, List.length_append] at hfuel
    obtain ⟨fuel, rfl⟩ : ∃ k, fuel = k + 1 := ⟨fuel - 1, by omega⟩
    rw [decodeWith, hstep]
    simp only [Nat.add_sub_cancel, List.drop_left]
    rw [ih h.2 (by omega), List.reverse_cons, List.append_assoc, List.singleton_append]

/-- Bytes that a text has are read as this text. -/
theorem decode?_of_encode? {t : Text} {data : List UInt8} (h : encode? t = some data) :
    decode? data = some t := by
  rw [encode?] at h
  split_ifs at h with hformed
  obtain rfl := Option.some.inj h
  rw [decode?, decodeEscaping, decodeWith_flatMap _ hformed (Nat.le_refl _)]
  exact if_pos hformed

/-- No bytes of a text are replaced. -/
theorem decodeReplacing_of_encode? {t : Text} {data : List UInt8} (h : encode? t = some data) :
    decodeReplacing data = t := by
  rw [encode?] at h
  split_ifs at h with hformed
  obtain rfl := Option.some.inj h
  exact decodeWith_flatMap _ hformed (Nat.le_refl _) []

end SourceDocs.Utf8
