import SourceDocs.Proofs.Source.Lines
import SourceDocs.Proofs.Text.Utf8

/-!
# Reading a source file in UTF-8

The parser unifies the line ends of bytes before it reads them as a text.  For a file in UTF-8 that
is the same as unifying those of its text (`decode_of_encode?`), because the bytes of characters
outside ASCII are neither line ends nor NUL.
-/

namespace SourceDocs

namespace Source

open Utf8 Lines

variable {t : Text} {c : CodePoint}

theorem unifyLineEnds_cons {b : UInt8} (bytes : List UInt8) (hb : b ≠ 13) :
    unifyLineEnds (b :: bytes) = b :: unifyLineEnds bytes := by
  cases bytes <;> simp only [unifyLineEnds, if_neg hb]

theorem unifyLineEnds_append {bytes : List UInt8} (h : 13 ∉ bytes) (more : List UInt8) :
    unifyLineEnds (bytes ++ more) = bytes ++ unifyLineEnds more := by
  induction bytes with
  | nil => rfl
  | cons b rest ih =>
    rw [List.mem_cons, not_or] at h
    rw [List.cons_append, unifyLineEnds_cons _ (Ne.symm h.1), ih h.2, List.cons_append]

theorem encodePoint_return : encodePoint (CodePoint.ofChar '\r') = [13] := by decide

theorem encodePoint_lineFeed : encodePoint (CodePoint.ofChar '\n') = [10] := by decide

theorem unifyLineEnds_flatMap (t : Text) :
    unifyLineEnds (t.flatMap encodePoint) = (universal t).flatMap encodePoint := by
  fun_induction universal t with
  | case1 => rfl
  | case2 rest ih =>
    rw [List.flatMap_cons, List.flatMap_cons, encodePoint_return, encodePoint_lineFeed]
    cases rest with
    | nil => rfl
    | cons d more =>
      by_cases hd : d = CodePoint.ofChar '\n'
      · subst hd
        rw [List.flatMap_cons, encodePoint_lineFeed]
        simpa [unifyLineEnds] using ih.1
      · obtain ⟨b, bytes, hbytes⟩ := List.exists_cons_of_ne_nil (encodePoint_ne_nil d)
        have hb : b ≠ 10 := by
          rintro rfl
          refine hd (Fin.ext ((mem_encodePoint_iff (n := 10) (by decide)).1 ?_))
          rw [hbytes]
          exact List.mem_cons_self
        have hmore := ih.2
        rw [List.flatMap_cons, hbytes, List.cons_append] at hmore ⊢
        simpa [unifyLineEnds, hb, hd] using hmore
  | case3 c rest hc ih =>
    have hnot : 13 ∉ encodePoint c := fun hmem =>
      hc (Fin.ext ((mem_encodePoint_iff (n := 13) (by decide)).1 hmem))
    rw [List.flatMap_cons, List.flatMap_cons, unifyLineEnds_append hnot, ih]

theorem closeLastLine_flatMap (t : Text) :
    closeLastLine (t.flatMap encodePoint) = (ended t).flatMap encodePoint := by
  have hlast : (t.flatMap encodePoint).getLast? = some 10 ↔
      t.getLast? = some (CodePoint.ofChar '\n') := by
    induction t using List.reverseRecOn with
    | nil => simp
    | append_singleton t c _ =>
      rw [List.flatMap_append, List.getLast?_concat, List.flatMap_singleton,
        List.getLast?_append_of_ne_nil _ (encodePoint_ne_nil c), Option.some_inj]
      constructor
      · intro h
        exact Fin.ext ((mem_encodePoint_iff (n := 10) (by decide)).1 (List.mem_of_getLast? h))
      · rintro rfl
        rw [encodePoint_lineFeed]
        rfl
  unfold closeLastLine ended
  by_cases h : t.getLast? = some (CodePoint.ofChar '\n')
  · rw [if_pos h, if_pos (hlast.2 h)]
  · rw [if_neg h, if_neg (mt hlast.1 h), List.flatMap_append]
    rfl

theorem mem_of_mem_universal (h : c ∈ universal t) : c ∈ t ∨ c = CodePoint.ofChar '\n' := by
  fun_induction universal t with
  | case1 => cases h
  | case2 rest ih =>
    rcases List.mem_cons.1 h with rfl | h
    · exact .inr rfl
    · cases rest with
      | nil => cases h
      | cons d more =>
        dsimp only at h
        by_cases hd : d = CodePoint.ofChar '\n'
        · rw [if_pos hd] at h
          exact (ih.1 h).imp_left fun h => List.mem_cons_of_mem _ (List.mem_cons_of_mem _ h)
        · rw [if_neg hd] at h
          exact (ih.2 h).imp_left (List.mem_cons_of_mem _)
  | case3 d rest hd ih =>
    rcases List.mem_cons.1 h with rfl | h
    · exact .inl List.mem_cons_self
    · exact (ih h).imp_left (List.mem_cons_of_mem _)

theorem mem_of_mem_ended (h : c ∈ ended t) : c ∈ t ∨ c = CodePoint.ofChar '\n' := by
  unfold ended at h
  split_ifs at h
  · exact .inl h
  · exact (List.mem_append.1 h).imp_right List.mem_singleton.1

/-- Unifying line ends and closing the last line put in nothing that cannot be encoded. -/
theorem isWellFormed_ended_universal (h : t.isWellFormed) :
    (ended (universal t)).isWellFormed := by
  rw [Text.isWellFormed, List.all_eq_true] at h ⊢
  intro c hc
  rcases mem_of_mem_ended hc with hc | rfl
  · rcases mem_of_mem_universal hc with hc | rfl
    · exact h c hc
    · decide
  · decide

/-- The mark that a text may begin with. -/
def byteOrderMark : CodePoint := CodePoint.ofChar '\uFEFF'

/-- A text without the mark that it may begin with. -/
def unmarked (t : Text) : Text := if t.head? = some byteOrderMark then t.tail else t

theorem isPrefixOf_mark_iff (h : t.isWellFormed) :
    [0xEF, 0xBB, 0xBF].isPrefixOf (t.flatMap encodePoint) = true ↔
      t.head? = some byteOrderMark := by
  cases t with
  | nil => simp
  | cons c rest =>
    rw [Text.isWellFormed, List.all_cons, Bool.and_eq_true, Bool.not_eq_true'] at h
    rw [List.flatMap_cons, List.head?_cons, Option.some_inj]
    constructor
    · intro hprefix
      obtain ⟨more, hmore⟩ := List.isPrefixOf_iff_prefix.1 hprefix
      obtain ⟨b, bytes, hbytes, hstep⟩ := exists_step_encodePoint h.1 (rest.flatMap encodePoint)
      rw [hbytes, List.cons_append, List.cons_append] at hmore
      obtain ⟨rfl, hbehind⟩ := List.cons.inj hmore
      have hbehind : bytes ++ rest.flatMap encodePoint = [0xBB, 0xBF] ++ more := hbehind.symm
      rw [hbehind] at hstep
      have hmark : step 0xEF ([0xBB, 0xBF] ++ more) = .point byteOrderMark 3 := rfl
      rw [hmark] at hstep
      exact (Step.point.inj hstep).1.symm
    · rintro rfl
      rfl

theorem isWellFormed_unmarked (h : t.isWellFormed) : (unmarked t).isWellFormed := by
  unfold unmarked
  split_ifs
  · rw [Text.isWellFormed, List.all_eq_true] at h ⊢
    exact fun c hc => h c (List.mem_of_mem_tail hc)
  · exact h

/-- Dropping the bytes of the mark drops the mark. -/
theorem drop_mark_flatMap (h : t.isWellFormed) :
    (if [0xEF, 0xBB, 0xBF].isPrefixOf (t.flatMap encodePoint) then (t.flatMap encodePoint).drop 3
      else t.flatMap encodePoint) = (unmarked t).flatMap encodePoint := by
  unfold unmarked
  by_cases hmark : t.head? = some byteOrderMark
  · rw [if_pos ((isPrefixOf_mark_iff h).2 hmark), if_pos hmark]
    obtain ⟨rest, rfl⟩ := List.head?_eq_some_iff.1 hmark
    rfl
  · rw [if_neg (mt (isPrefixOf_mark_iff h).1 hmark), if_neg hmark]

/-- The parser reads a file in UTF-8 as its text with unified line ends and without a mark, unless
it declares another encoding. -/
theorem decode_of_encode? {data : List UInt8} (hdata : encode? t = some data)
    (hnul : ∀ c ∈ t, c.val ≠ 0)
    (hdeclared : ∀ name, declared ((unmarked (ended (universal t))).flatMap encodePoint) =
      some name → name = "utf-8") : decode data = .ok (unmarked (ended (universal t))) := by
  rw [encode?] at hdata
  split_ifs at hdata with hformed
  obtain rfl := Option.some.inj hdata
  have hzero : (t.flatMap encodePoint).contains 0 = false := by
    rw [Bool.eq_false_iff, ne_eq, List.contains_iff_mem, List.mem_flatMap]
    rintro ⟨c, hc, hmem⟩
    exact hnul c hc ((mem_encodePoint_iff (n := 0) (by decide)).1 hmem)
  have hended := isWellFormed_ended_universal hformed
  have hread : decodeEscaping ((unmarked (ended (universal t))).flatMap encodePoint) =
      unmarked (ended (universal t)) :=
    (decodeWith_flatMap _ (isWellFormed_unmarked hended) (Nat.le_refl _) []).trans
      (List.nil_append _)
  unfold decode
  simp only [hzero, Bool.false_eq_true, if_false, unifyLineEnds_flatMap, closeLastLine_flatMap,
    drop_mark_flatMap hended]
  cases hname : declared ((unmarked (ended (universal t))).flatMap encodePoint) with
  | none => rw [hread]
  | some name =>
    obtain rfl := hdeclared name hname
    simp only [if_true, hread]

/-- The mark stands on the first line. -/
theorem lineAt_unmarked (t : Text) (k : Nat) :
    lineAt (unmarked t) k = if k = 1 then unmarked (lineAt t k) else lineAt t k := by
  cases t with
  | nil => simp [unmarked, lineAt, lineFrom]
  | cons c rest =>
    by_cases hc : c = CodePoint.ofChar '\n'
    · subst hc
      have hfirst : lineAt (CodePoint.ofChar '\n' :: rest) 1 = [] := by
        cases rest with
        | nil => rfl
        | cons d rest => rw [lineAt, lineFrom_lineEnd (List.cons_ne_nil d rest),
            lineFrom_of_lt (Nat.lt_succ_self 1)]
      rw [unmarked, List.head?_cons, if_neg (by decide)]
      split_ifs with hk
      · rw [hk, hfirst]
        rfl
      · rfl
    · have hline : lineAt (c :: rest) k = if k = 1 then c :: lineAt rest k else lineAt rest k := by
        rw [lineAt, lineFrom_cons_of_ne hc]
        simp only [eq_comm (a := k), lineAt]
      rw [hline]
      by_cases hmark : c = byteOrderMark
      · subst hmark
        split_ifs <;> rfl
      · have hnot : (c :: rest).head? ≠ some byteOrderMark := by simpa using hmark
        rw [unmarked, if_neg hnot, hline]
        split_ifs with hk
        · rw [unmarked, if_neg (by simpa using hmark)]
        · rfl

end Source

end SourceDocs
