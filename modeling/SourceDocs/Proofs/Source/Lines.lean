import Mathlib.Data.List.Basic
import SourceDocs.Proofs.Text.Utf8
import SourceDocs.Source.Coding
import SourceDocs.Source.Lexer

/-!
# Lines of a source file

The parser counts the line ends of the text that it reads (`Cursor.placeBehind`), and that text has
no other line ends than `\n`.  An excerpt cuts at every line boundary of Unicode.
`getD_split_eq_iff` says how long the two agree.
-/

namespace SourceDocs

namespace Lines

/-- A text whose line ends are unified has no `\r`. -/
theorem return_notMem_universal (t : Text) : CodePoint.ofChar '\r' ∉ universal t := by
  have hne : CodePoint.ofChar '\r' ≠ CodePoint.ofChar '\n' := by decide
  fun_induction universal t with
  | case1 => exact List.not_mem_nil
  | case2 rest ih =>
    cases rest with
    | nil => decide
    | cons d more =>
      by_cases hd : d = CodePoint.ofChar '\n'
      · simpa [hd, hne] using ih.1
      · simpa [hd, hne] using ih.2
  | case3 c rest hc ih =>
    intro hmem
    rcases List.mem_cons.1 hmem with heq | hmem
    · exact hc heq.symm
    · exact ih hmem

theorem splitFrom_cons {c : CodePoint} (current rest : Text) (hc : c ≠ CodePoint.ofChar '\r') :
    splitFrom current (c :: rest) =
      if isBoundary c then current.reverse :: splitFrom [] rest
      else splitFrom (c :: current) rest := by
  cases rest <;> simp only [splitFrom, if_neg hc]

/-- No line of an excerpt holds a line boundary. -/
theorem isBoundary_of_mem_splitFrom {t current line : Text} {c : CodePoint}
    (ht : CodePoint.ofChar '\r' ∉ t) (hcurrent : ∀ c ∈ current, isBoundary c = false)
    (hline : line ∈ splitFrom current t) (hc : c ∈ line) : isBoundary c = false := by
  induction t generalizing current with
  | nil =>
    rw [splitFrom] at hline
    split_ifs at hline with hempty
    · cases hline
    · rw [List.mem_singleton] at hline
      subst hline
      exact hcurrent c (List.mem_reverse.1 hc)
  | cons d rest ih =>
    rw [List.mem_cons, not_or] at ht
    rw [splitFrom_cons _ _ (Ne.symm ht.1)] at hline
    by_cases hd : isBoundary d = true
    · rw [if_pos hd, List.mem_cons] at hline
      rcases hline with rfl | hline
      · exact hcurrent c (List.mem_reverse.1 hc)
      · exact ih ht.2 (List.forall_mem_nil _) hline
    · rw [if_neg hd] at hline
      rw [Bool.not_eq_true] at hd
      exact ih ht.2 (List.forall_mem_cons.2 ⟨hd, hcurrent⟩) hline

end Lines

namespace Source

open Lines

/-! ## Lines as the parser counts them -/

/-- A text with the line end that it may lack. -/
def ended (t : Text) : Text :=
  if t.getLast? = some (CodePoint.ofChar '\n') then t else t ++ Text.ofChar '\n'

/-- What a text that is read from a place on has on a line, its end left out. -/
def lineFrom (line : Nat) : Place → Text → Text
  | _, [] => []
  | place, p :: rest =>
    let more := lineFrom line (Cursor.placeBehind place p rest) rest
    if place.line = line ∧ p ≠ CodePoint.ofChar '\n' then p :: more else more

/-- A line of a source text; the first one has the number one. -/
def lineAt (t : Text) (line : Nat) : Text := lineFrom line ⟨1, 0⟩ t

variable {t rest : Text} {c : CodePoint} {line i K : Nat} {place : Place}

theorem placeBehind_of_ne (hc : c ≠ CodePoint.ofChar '\n') :
    (Cursor.placeBehind place c rest).line = place.line := by
  rw [Cursor.placeBehind, if_neg hc]

theorem le_placeBehind : place.line ≤ (Cursor.placeBehind place c rest).line := by
  unfold Cursor.placeBehind
  split_ifs
  · exact Nat.le_refl _
  · exact Nat.le_succ _
  · exact Nat.le_refl _

/-- Nothing behind a place is on a line before it. -/
theorem lineFrom_of_lt (h : line < place.line) : lineFrom line place t = [] := by
  induction t generalizing place with
  | nil => rfl
  | cons c rest ih =>
    rw [lineFrom, if_neg fun hline => by omega]
    exact ih (Nat.lt_of_lt_of_le h le_placeBehind)

/-- Only the line of a place counts, not its column. -/
theorem lineFrom_congr {other : Place} (h : place.line = other.line) :
    lineFrom line place t = lineFrom line other t := by
  induction t generalizing place other with
  | nil => rfl
  | cons c rest ih =>
    have hbehind : (Cursor.placeBehind place c rest).line =
        (Cursor.placeBehind other c rest).line := by
      unfold Cursor.placeBehind
      split_ifs
      · exact h
      · exact congrArg Nat.succ h
      · exact h
    rw [lineFrom, lineFrom, ih hbehind, h]

theorem lineFrom_cons_of_ne (hc : c ≠ CodePoint.ofChar '\n') :
    lineFrom line place (c :: rest) =
      if place.line = line then c :: lineFrom line place rest else lineFrom line place rest := by
  rw [lineFrom, lineFrom_congr (placeBehind_of_ne hc)]
  simp only [hc, ne_eq, not_false_eq_true, and_true]

theorem lineFrom_lineEnd (hrest : rest ≠ []) :
    lineFrom line place (CodePoint.ofChar '\n' :: rest) =
      lineFrom line ⟨place.line + 1, 0⟩ rest := by
  have hbehind : Cursor.placeBehind place (CodePoint.ofChar '\n') rest = ⟨place.line + 1, 0⟩ := by
    rw [Cursor.placeBehind, if_pos rfl, if_neg (by simpa using hrest)]
  rw [lineFrom, hbehind]
  simp

theorem ended_cons_of_ne (hc : c ≠ CodePoint.ofChar '\n') :
    ended (c :: rest) = c :: ended rest := by
  cases rest with
  | nil =>
    rw [ended, ended, List.getLast?_singleton, if_neg (by simpa using hc), if_neg (by simp)]
    rfl
  | cons d rest =>
    rw [ended, ended, List.getLast?_cons_cons]
    split_ifs <;> rfl

theorem ended_cons (c : CodePoint) (hrest : rest ≠ []) : ended (c :: rest) = c :: ended rest := by
  obtain ⟨d, rest, rfl⟩ := List.exists_cons_of_ne_nil hrest
  rw [ended, ended, List.getLast?_cons_cons]
  split_ifs <;> rfl

theorem ended_ne_nil (t : Text) : ended t ≠ [] := by
  unfold ended
  split_ifs with h
  · rintro rfl
    cases h
  · exact List.append_ne_nil_of_right_ne_nil _ (List.cons_ne_nil _ _)

/-! ## Lines of excerpts -/

/-- Reading on from a place on a line of which `current` has been read already, an excerpt has the
lines that the parser counts as long as these hold no line boundary. -/
theorem getD_splitFrom (current : Text) (place : Place) (ht : CodePoint.ofChar '\r' ∉ t)
    (hplain : ∀ k < K, ∀ c ∈ lineFrom (place.line + k) place (ended t), isBoundary c = false)
    (hi : i < K) : (splitFrom current t).getD i [] =
      (if i = 0 then current.reverse else []) ++ lineFrom (place.line + i) place (ended t) := by
  induction t generalizing current place i K with
  | nil =>
    have hnil : lineFrom (place.line + i) place (ended []) = [] := by
      show lineFrom (place.line + i) place [CodePoint.ofChar '\n'] = []
      simp [lineFrom]
    rw [hnil, List.append_nil, splitFrom]
    cases current <;> cases i <;> simp
  | cons c rest ih =>
    rw [List.mem_cons, not_or] at ht
    rw [splitFrom_cons _ _ (Ne.symm ht.1)]
    by_cases hc : c = CodePoint.ofChar '\n'
    · -- The line ends here; the next one is read from its start.
      subst hc
      rw [if_pos (by decide)]
      by_cases hrest : rest = []
      · subst hrest
        have hlast : lineFrom (place.line + i) place (ended [CodePoint.ofChar '\n']) = [] := by
          show lineFrom (place.line + i) place [CodePoint.ofChar '\n'] = []
          simp [lineFrom]
        rw [hlast, List.append_nil]
        cases i <;> simp [splitFrom]
      · rw [ended_cons _ hrest] at hplain ⊢
        rw [lineFrom_lineEnd (ended_ne_nil rest)]
        cases i with
        | zero =>
          rw [lineFrom_of_lt (Nat.lt_succ_self _), List.append_nil]
          rfl
        | succ i =>
          have hmore := ih (i := i) (K := K - 1) [] ⟨place.line + 1, 0⟩ ht.2
            (fun k hk c hc => hplain (k + 1) (by omega) c (by
              rwa [lineFrom_lineEnd (ended_ne_nil rest), ← Nat.add_assoc, Nat.add_right_comm]))
            (by omega)
          rw [List.getD_cons_succ, hmore, if_neg (Nat.succ_ne_zero i), ← Nat.add_assoc,
            Nat.add_right_comm]
          simp
    · rw [ended_cons_of_ne hc] at hplain ⊢
      have hplace (k : Nat) : lineFrom (place.line + k) place (c :: ended rest) =
          (if k = 0 then [c] else []) ++ lineFrom (place.line + k) place (ended rest) := by
        rw [lineFrom_cons_of_ne hc]
        cases k <;> simp
      have hboundary : isBoundary c = false := by
        refine hplain 0 (by omega) c ?_
        rw [hplace]
        exact List.mem_cons_self
      rw [hboundary, if_neg Bool.false_ne_true, hplace]
      rw [ih (c :: current) place ht.2 (fun k hk d hd => hplain k hk d (by
        rw [hplace]
        exact List.mem_append_right _ hd)) hi]
      cases i <;> simp

/-- The lines of an excerpt are those that the parser counts, up to one of them, exactly if none of
these holds a line boundary. -/
theorem getD_split_eq_iff (t : Text) (last : Nat) :
    (∀ k, 1 ≤ k → k ≤ last →
      (split (universal t)).getD (k - 1) [] = lineAt (ended (universal t)) k) ↔
      ∀ k, 1 ≤ k → k ≤ last → ∀ c ∈ lineAt (ended (universal t)) k, isBoundary c = false := by
  have hreturn := return_notMem_universal t
  constructor
  · intro hsame k hpos hk c hc
    rw [← hsame k hpos hk, List.getD_eq_getElem?_getD] at hc
    cases hline : (split (universal t))[k - 1]? with
    | none =>
      rw [hline] at hc
      cases hc
    | some line =>
      rw [hline] at hc
      exact isBoundary_of_mem_splitFrom hreturn (List.forall_mem_nil _)
        (List.mem_of_getElem? hline) hc
  · intro hplain k hpos hk
    have hline := getD_splitFrom (K := last) (i := k - 1) [] ⟨1, 0⟩ hreturn
      (fun i hi => hplain (1 + i) (Nat.le_add_right _ _) (by omega)) (by omega)
    rw [split, hline, lineAt, Nat.add_sub_cancel' hpos]
    split_ifs <;> rfl

end Source

end SourceDocs
