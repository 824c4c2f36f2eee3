import Mathlib
import SourceDocs.Matcher
import SourceDocs.Proofs.Pattern.Reads
import SourceDocs.Settings.Basic

/-!
# Files chosen by default

Five patterns choose files unless the settings say otherwise.  Here each of them is a test on the
path without the line break that it may end with (`Text.withoutBreak`): of the end of the path, or
of its last name (`Text.lastName`).  `accepts_defaults` puts these tests together.
-/

namespace SourceDocs

namespace Text

/-- The slash between the names of a path. -/
def slash : CodePoint := CodePoint.ofChar '/'

/-- The end of a line. -/
def lineBreak : CodePoint := CodePoint.ofChar '\n'

/-- A text without the line break that it may end with. -/
def withoutBreak (t : Text) : Text := if t.getLast? = some lineBreak then t.dropLast else t

/-- What stands behind the last slash of a path, or the whole path if there is none. -/
def lastName (t : Text) : Text := (t.reverse.takeWhile (· ≠ slash)).reverse

/-! ## The line break at the end -/

theorem withoutBreak_cases (t : Text) :
    t.getLast? ≠ some lineBreak ∧ withoutBreak t = t ∨ t = withoutBreak t ++ [lineBreak] := by
  unfold withoutBreak
  by_cases h : t.getLast? = some lineBreak
  · rw [if_pos h]
    exact .inr (List.dropLast_append_getLast? _ h).symm
  · rw [if_neg h]
    exact .inl ⟨h, rfl⟩

/-- Whether a place is the end of a text, or that before the line break at its end. -/
def IsEnd (t : Text) (i : Nat) : Prop :=
  i = t.length ∨ t[i]? = some lineBreak ∧ i + 1 = t.length

/-- What stands from a place to the end of a text. -/
theorem drop_withoutBreak_iff {t w : Text} {i : Nat} (hne : w ≠ [])
    (hlast : w.getLast? ≠ some lineBreak) :
    w <+: t.drop i ∧ IsEnd t (i + w.length) ↔ (withoutBreak t).drop i = w := by
  have hpos : 0 < w.length := List.length_pos_iff.2 hne
  obtain ⟨hunbroken, hsame⟩ | hbreak := withoutBreak_cases t
  · rw [hsame]
    constructor
    · rintro ⟨hw, hend | ⟨hbreak, hend⟩⟩
      · exact (hw.eq_of_length (by rw [List.length_drop]; omega)).symm
      · rw [List.getLast?_eq_getElem?, ← hend, Nat.add_sub_cancel] at hunbroken
        exact absurd hbreak hunbroken
    · rintro rfl
      rw [List.length_drop] at hpos
      exact ⟨List.prefix_refl _, .inl (by rw [List.length_drop]; omega)⟩
  · generalize withoutBreak t = q at hbreak ⊢
    subst hbreak
    constructor
    · rintro ⟨hw, hend⟩
      have hle := hw.length_le
      rw [List.length_drop, List.length_append, List.length_singleton] at hle
      rw [List.drop_append_of_le_length (by omega)] at hw
      rcases hend with hend | ⟨-, hend⟩
      · -- `w` does not end with a line break, so it ends before that of the text.
        rw [List.length_append, List.length_singleton] at hend
        have hall := hw.eq_of_length (by
          rw [List.length_append, List.length_drop, List.length_singleton]
          omega)
        rw [hall, List.getLast?_concat] at hlast
        exact absurd rfl hlast
      · rw [List.length_append, List.length_singleton] at hend
        have hbefore : w <+: q.drop i := List.prefix_of_prefix_length_le hw
          (List.prefix_append _ _) (by rw [List.length_drop]; omega)
        exact (hbefore.eq_of_length (by rw [List.length_drop]; omega)).symm
    · rintro rfl
      rw [List.length_drop] at hpos
      have hend : i + (q.drop i).length = q.length := by
        rw [List.length_drop]
        omega
      rw [List.drop_append_of_le_length (by omega), hend]
      exact ⟨List.prefix_append _ _, .inr ⟨List.getElem?_concat_length, by simp⟩⟩

theorem withoutBreak_isPrefix (t : Text) : withoutBreak t <+: t := by
  obtain ⟨-, hsame⟩ | hbreak := withoutBreak_cases t
  · rw [hsame]
  · exact ⟨[lineBreak], hbreak.symm⟩

theorem getElem?_withoutBreak {t : Text} {i : Nat} (h : i < (withoutBreak t).length) :
    (withoutBreak t)[i]? = t[i]? := by
  obtain ⟨r, hr⟩ := withoutBreak_isPrefix t
  conv_rhs => rw [← hr]
  rw [List.getElem?_append_left h]

/-! ## The last name -/

/-- A place where a name of a path begins. -/
def BeginsName (t : Text) (i : Nat) : Prop := i = 0 ∨ 0 < i ∧ t[i - 1]? = some slash

theorem beginsName_withoutBreak {t : Text} {i : Nat} (h : i ≤ (withoutBreak t).length) :
    BeginsName (withoutBreak t) i ↔ BeginsName t i := by
  refine or_congr_right (and_congr_right fun hpos => ?_)
  rw [getElem?_withoutBreak (by omega)]

theorem slash_notMem_lastName (q : Text) : slash ∉ lastName q := by
  intro h
  have hne := List.mem_takeWhile_imp (List.mem_reverse.1 h)
  exact of_decide_eq_true hne rfl

theorem lastName_of_notMem {w : Text} (h : slash ∉ w) : lastName w = w := by
  have hall : w.reverse.takeWhile (· ≠ slash) = w.reverse :=
    List.takeWhile_eq_self_iff.2 fun c hc =>
      decide_eq_true fun heq => h (heq ▸ List.mem_reverse.1 hc)
  rw [lastName, hall, List.reverse_reverse]

theorem lastName_append {w : Text} (dir : Text) (h : slash ∉ w) :
    lastName (dir ++ slash :: w) = w := by
  have hall : ∀ c ∈ w.reverse, decide (c ≠ slash) = true := fun c hc =>
    decide_eq_true fun heq => h (heq ▸ List.mem_reverse.1 hc)
  rw [lastName, List.reverse_append, List.reverse_cons, List.append_assoc,
    List.takeWhile_append_of_pos hall, List.singleton_append, List.takeWhile_cons_of_neg (by simp),
    List.append_nil, List.reverse_reverse]

/-- A path is its last name, or that behind a directory and a slash. -/
theorem lastName_cases (q : Text) :
    slash ∉ q ∧ lastName q = q ∨ ∃ dir, q = dir ++ slash :: lastName q := by
  by_cases h : slash ∈ q
  · obtain ⟨after, before, hq, hnot⟩ := List.eq_append_cons_of_mem (List.mem_reverse.2 h)
    have hsplit : q = before.reverse ++ slash :: after.reverse := by
      rw [← List.reverse_reverse q, hq]
      simp
    refine .inr ⟨before.reverse, ?_⟩
    have hname : lastName q = after.reverse := by
      rw [hsplit]
      exact lastName_append _ fun hmem => hnot (List.mem_reverse.1 hmem)
    rw [hname]
    exact hsplit
  · exact .inl ⟨h, lastName_of_notMem h⟩

theorem exists_drop_eq_lastName (q : Text) : ∃ i, BeginsName q i ∧ q.drop i = lastName q := by
  obtain ⟨-, hname⟩ | ⟨dir, hdir⟩ := lastName_cases q
  · exact ⟨0, .inl rfl, by rw [hname, List.drop_zero]⟩
  · refine ⟨dir.length + 1, .inr ⟨Nat.succ_pos _, ?_⟩, ?_⟩
    · rw [hdir, Nat.add_sub_cancel, List.getElem?_append_right (Nat.le_refl _), Nat.sub_self]
      rfl
    · conv_lhs => rw [hdir]
      rw [List.drop_length_add_append]
      rfl

theorem lastName_eq_drop {q : Text} {i : Nat} (hbegins : BeginsName q i)
    (hslash : slash ∉ q.drop i) : lastName q = q.drop i := by
  rcases hbegins with rfl | ⟨hpos, hget⟩
  · rw [List.drop_zero] at hslash ⊢
    exact lastName_of_notMem hslash
  · have hsplit : q = q.take (i - 1) ++ slash :: q.drop i := by
      have hcons := List.drop_eq_getElem?_toList_append (l := q) (i := i - 1)
      rw [hget, Nat.sub_add_cancel hpos] at hcons
      conv_lhs => rw [← List.take_append_drop (i - 1) q, hcons]
      rfl
    conv_lhs => rw [hsplit]
    exact lastName_append _ hslash

/-- A text without slashes ends a path exactly if it ends its last name. -/
theorem suffix_lastName_iff {q w : Text} (h : slash ∉ w) : w <:+ lastName q ↔ w <:+ q := by
  obtain ⟨-, hname⟩ | ⟨dir, hdir⟩ := lastName_cases q
  · rw [hname]
  · have hsuffix : lastName q <:+ q := ⟨dir ++ [slash], by
      rw [List.append_assoc, List.singleton_append]
      exact hdir.symm⟩
    refine ⟨fun hw => hw.trans hsuffix, fun hw => ?_⟩
    by_cases hle : w.length ≤ (lastName q).length
    · exact List.suffix_of_suffix_length_le hw hsuffix hle
    · -- A longer end of the path holds the slash.
      have hlonger : slash :: lastName q <:+ w := by
        refine List.suffix_of_suffix_length_le ⟨dir, hdir.symm⟩ hw ?_
        rw [List.length_cons]
        omega
      exact absurd (hlonger.subset List.mem_cons_self) h

end Text

namespace Program

open Text

variable {t : Text} {w : Text} {rest : List Step} {i j : Nat}

/-! ## The parts of the patterns -/

/-- The steps of a text that is looked for as it is. -/
def literals (w : Text) : List Step := w.map fun c => .char (.ofLiteral .none c.val false)

/-- The steps of a text at the end. -/
def ending (w : Text) : List Step := literals w ++ [.place .lineEnd false false]

/-- The steps of a group that begins a name: at the start, or behind a slash. -/
def beginning : List Step :=
  [.mark 0, .branch [[.place .lineStart false false], literals [slash]], .mark 1]

/-- Any character other than a slash. -/
def noSlash : CharTest := .ofLiteral .none slash.val true

theorem accepts_ofLiteral (n : Nat) (negated : Bool) (c : CodePoint) :
    (CharTest.ofLiteral .none n negated).accepts c =
      decide (decide (c.val = n) ≠ negated) := by
  have hrange : (decide (n ≤ c.val) && decide (c.val ≤ n)) = decide (c.val = n) := by
    rw [Bool.eq_iff_iff]
    simp only [Bool.and_eq_true, decide_eq_true_eq]
    omega
  simp [CharTest.ofLiteral, CharTest.accepts, CharTest.singles, Folding.isCased, Member.contains,
    hrange]

theorem testAt_literal {c : CodePoint} :
    testAt t.toArray i (.ofLiteral .none c.val false) = true ↔ t[i]? = some c := by
  rw [testAt, List.getElem?_toArray]
  cases t[i]? with
  | none => simp
  | some d => simp [accepts_ofLiteral, Fin.val_inj]

theorem testAt_noSlash : testAt t.toArray i noSlash = true ↔ ∃ c, t[i]? = some c ∧ c ≠ slash := by
  rw [testAt, List.getElem?_toArray]
  cases t[i]? with
  | none => simp
  | some d => simp [noSlash, accepts_ofLiteral, Fin.val_inj]

theorem reads_literals : Reads t.toArray (literals w ++ rest) i j ↔
    w <+: t.drop i ∧ Reads t.toArray rest (i + w.length) j := by
  induction w generalizing i with
  | nil => simp [literals]
  | cons c w ih =>
    have hsteps : literals (c :: w) ++ rest =
        .char (.ofLiteral .none c.val false) :: (literals w ++ rest) := rfl
    have hstarts : c :: w <+: t.drop i ↔ t[i]? = some c ∧ w <+: t.drop (i + 1) := by
      by_cases hi : i < t.length
      · rw [List.drop_eq_getElem_cons hi, List.cons_prefix_cons, List.getElem?_eq_getElem hi,
          Option.some_inj, eq_comm]
      · rw [List.drop_eq_nil_of_le (by omega), List.getElem?_eq_none (by omega)]
        simp
    rw [hsteps, reads_char, testAt_literal, ih, hstarts, and_assoc, List.length_cons,
      Nat.add_assoc, Nat.add_comm 1]

theorem holdsAt_lineEnd : holdsAt t.toArray i false false .lineEnd = true ↔ IsEnd t i := by
  simp [holdsAt, isBreakAt, IsEnd, lineBreak]

theorem reads_ending (hne : w ≠ []) (hlast : w.getLast? ≠ some lineBreak) :
    Reads t.toArray (ending w) i j ↔ (withoutBreak t).drop i = w ∧ j = i + w.length := by
  rw [ending, reads_literals, reads_place, reads_nil, holdsAt_lineEnd,
    ← drop_withoutBreak_iff hne hlast, and_assoc, eq_comm (a := j)]

theorem reads_beginning : Reads t.toArray (beginning ++ rest) i j ↔
    ∃ m, (i = 0 ∧ m = 0 ∨ t[i]? = some slash ∧ m = i + 1) ∧ Reads t.toArray rest m j := by
  have hstart : holdsAt t.toArray i false false .lineStart = true ↔ i = 0 := by
    simp [holdsAt]
  have hslash (m : Nat) :
      Reads t.toArray (literals [slash]) i m ↔ t[i]? = some slash ∧ m = i + 1 := by
    rw [literals, List.map_singleton, reads_char, testAt_literal, reads_nil, eq_comm (a := m)]
  simp only [beginning, List.cons_append, List.nil_append, reads_mark, reads_branch,
    List.mem_cons, List.not_mem_nil, or_false, exists_eq_or_imp, exists_eq_left, reads_place,
    reads_nil, hstart, hslash]
  rw [← exists_or]
  refine exists_congr fun m => ?_
  rw [← or_and_right]
  exact and_congr_left' (or_congr_left ⟨by omega, by omega⟩)

theorem exists_reads_beginning : (∃ i j, i ≤ t.length ∧ Reads t.toArray (beginning ++ rest) i j) ↔
    ∃ m, BeginsName t m ∧ ∃ j, Reads t.toArray rest m j := by
  simp only [reads_beginning]
  constructor
  · rintro ⟨i, j, -, m, hm, hj⟩
    refine ⟨m, ?_, j, hj⟩
    rcases hm with ⟨-, rfl⟩ | ⟨hslash, rfl⟩
    · exact .inl rfl
    · exact .inr ⟨Nat.succ_pos i, hslash⟩
  · rintro ⟨m, rfl | ⟨hpos, hslash⟩, j, hj⟩
    · exact ⟨0, j, Nat.zero_le _, 0, .inl ⟨rfl, rfl⟩, hj⟩
    · have hlt := (List.getElem?_eq_some_iff.1 hslash).1
      exact ⟨m - 1, j, Nat.le_of_lt hlt, m, .inr ⟨hslash, by omega⟩, hj⟩

/-! ## What the patterns find -/

theorem Straight.mono {steps : List Step} {fuel more marks behind : Nat}
    (h : Straight fuel marks steps behind) (hle : fuel ≤ more) :
    Straight more marks steps behind := by
  obtain ⟨n, rfl⟩ := Nat.exists_eq_add_of_le hle
  clear hle
  induction h with
  | nil hmarks =>
    rw [Nat.add_right_comm]
    exact .nil hmarks
  | char _ ih =>
    rw [Nat.add_right_comm]
    exact .char ih
  | mark hmarks _ ih =>
    rw [Nat.add_right_comm]
    exact .mark hmarks ih
  | place _ ih =>
    rw [Nat.add_right_comm]
    exact .place ih
  | branch _ _ ihway ih =>
    rw [Nat.add_right_comm]
    exact .branch ihway ih
  | units _ ih =>
    rw [Nat.add_right_comm]
    exact .units ih

theorem Straight.literals {fuel marks behind : Nat} (w : Text)
    (h : Straight fuel marks rest behind) :
    Straight (w.length + fuel) marks (literals w ++ rest) behind := by
  induction w with
  | nil => exact h.mono (Nat.le_add_left _ _)
  | cons c w ih => exact (Straight.char ih).mono (by rw [List.length_cons]; omega)

theorem Straight.ending (w : Text) (marks : Nat) :
    Straight (w.length + 2) marks (ending w) marks :=
  (Straight.place (.nil (Nat.le_refl marks))).literals w

theorem Straight.beginning {fuel behind : Nat} (h : Straight (fuel + 1) 2 rest behind) :
    Straight (fuel + 4) 0 (beginning ++ rest) behind := by
  refine .mark (Nat.le_refl 0) (.branch (fun a ha => ?_) (.mark (Nat.le_refl 1) h))
  simp only [List.mem_cons, List.not_mem_nil, or_false] at ha
  rcases ha with rfl | rfl
  · exact .place (.nil (Nat.le_refl 1))
  · exact .char (.nil (Nat.le_refl 1))

/-- A sequence nests as deep as its items do together. -/
theorem sum_le_depth (n : Nat) (ps : List Pattern) :
    (ps.map (Pattern.depth n)).sum ≤ (Pattern.ofItems ps).depth n := by
  induction ps with
  | nil => exact Nat.zero_le _
  | cons p rest ih =>
    cases rest with
    | nil => simp [Pattern.ofItems]
    | cons q rest =>
      rw [List.map_cons, List.sum_cons, Pattern.ofItems, Pattern.depth]
      · omega
      · simp

theorem lt_of_drop_eq {q : Text} (hne : w ≠ []) (h : q.drop i = w) : i < q.length := by
  by_contra hle
  rw [List.drop_eq_nil_of_le (by omega)] at h
  exact hne h.symm

/-- A pattern for the end of a path. -/
theorem tells_ending {p : Program} (hne : w ≠ []) (hlast : w.getLast? ≠ some lineBreak)
    (hsteps : p.steps = ending w) (hleast : p.least = w.length)
    (hdepth : ∀ n, w.length + 1 ≤ p.pattern.depth n) :
    p.Tells fun t => w <:+ withoutBreak t := by
  refine tells_of_straight 0 (fun n => ?_) (fun t => ?_) fun t i j _ hij => ?_
  · rw [hsteps]
    exact (Straight.ending w 0).mono (Nat.succ_le_succ (hdepth n))
  · simp only [hsteps, reads_ending hne hlast]
    constructor
    · rintro ⟨i, j, -, hdrop, -⟩
      exact hdrop ▸ List.drop_suffix i _
    · intro hsuffix
      have hdrop := (List.suffix_iff_eq_drop.1 hsuffix).symm
      have hlt := lt_of_drop_eq hne hdrop
      have hle := (withoutBreak_isPrefix t).length_le
      exact ⟨_, _, by omega, hdrop, rfl⟩
  · rw [hsteps, reads_ending hne hlast] at hij
    rw [hleast, hij.2]

/-- A pattern for the last name of a path. -/
theorem tells_name {p : Program} (hne : w ≠ []) (hlast : w.getLast? ≠ some lineBreak)
    (hslash : slash ∉ w) (hsteps : p.steps = beginning ++ ending w) (hleast : p.least = w.length)
    (hdepth : ∀ n, w.length + 4 ≤ p.pattern.depth n) :
    p.Tells fun t => lastName (withoutBreak t) = w := by
  refine tells_of_straight 2 (fun n => ?_) (fun t => ?_) fun t i j _ hij => ?_
  · rw [hsteps]
    exact (Straight.beginning (Straight.ending w 2)).mono (Nat.succ_le_succ (hdepth n))
  · simp only [hsteps, exists_reads_beginning, reads_ending hne hlast]
    constructor
    · rintro ⟨m, hbegins, j, hdrop, -⟩
      have hlt := lt_of_drop_eq hne hdrop
      rw [← beginsName_withoutBreak (Nat.le_of_lt hlt)] at hbegins
      exact (lastName_eq_drop hbegins (hdrop ▸ hslash)).trans hdrop
    · rintro rfl
      obtain ⟨m, hbegins, hdrop⟩ := exists_drop_eq_lastName (withoutBreak t)
      have hlt := lt_of_drop_eq hne hdrop
      exact ⟨m, (beginsName_withoutBreak (Nat.le_of_lt hlt)).1 hbegins, _, hdrop, rfl⟩
  · rw [hsteps, reads_beginning] at hij
    obtain ⟨m, hm, hij⟩ := hij
    rw [reads_ending hne hlast] at hij
    omega

/-- The steps of a last name with a start and an end. -/
def framing (front back : Text) : List Step :=
  beginning ++ (literals front ++ .units 0 none .greedy noSlash :: ending back)

/-- What the steps between a start and an end pass over holds no slash. -/
theorem reads_framed {front back : Text} (hne : back ≠ [])
    (hlast : back.getLast? ≠ some lineBreak) :
    Reads t.toArray (literals front ++ .units 0 none .greedy noSlash :: ending back) i j ↔
      front <+: t.drop i ∧ ∃ n, (∀ k < n, ∃ c, t[i + front.length + k]? = some c ∧ c ≠ slash) ∧
        (withoutBreak t).drop (i + front.length + n) = back ∧
          j = i + front.length + n + back.length := by
  rw [reads_literals, reads_units]
  simp only [Nat.zero_le, Option.getD_none, Nat.le_refl, true_and, testAt_noSlash,
    reads_ending hne hlast]

theorem slash_notMem_framed {front back : Text} {n : Nat} (hfront : slash ∉ front)
    (hback : slash ∉ back) (hbegins : front <+: t.drop i)
    (hbetween : ∀ k < n, ∃ c, t[i + front.length + k]? = some c ∧ c ≠ slash)
    (hends : (withoutBreak t).drop (i + front.length + n) = back) :
    slash ∉ (withoutBreak t).drop i := by
  intro hmem
  obtain ⟨k, hk⟩ := List.mem_iff_getElem?.1 hmem
  rw [List.getElem?_drop] at hk
  have hlt := (List.getElem?_eq_some_iff.1 hk).1
  have hget := (getElem?_withoutBreak hlt).symm.trans hk
  rcases Nat.lt_or_ge k front.length with hkfront | hkfront
  · obtain ⟨r, hr⟩ := hbegins
    rw [← List.getElem?_drop, ← hr, List.getElem?_append_left hkfront] at hget
    exact hfront (List.mem_of_getElem? hget)
  · rcases Nat.lt_or_ge (k - front.length) n with hkn | hkn
    · obtain ⟨c, hc, hne⟩ := hbetween _ hkn
      rw [show i + front.length + (k - front.length) = i + k by omega, hget] at hc
      exact hne (Option.some.inj hc).symm
    · have hlast : back[k - front.length - n]? = some slash := by
        rw [← hends, List.getElem?_drop, ← hk]
        congr 1
        omega
      exact hback (List.mem_of_getElem? hlast)

/-- An end whose first character is not in the start does not overlap with it. -/
theorem suffix_of_suffix_append {front back r : Text} {c : CodePoint} (hc : c ∉ front)
    (h : c :: back <:+ front ++ r) : c :: back <:+ r := by
  obtain ⟨before, hbefore⟩ := h
  rcases List.append_eq_append_iff.1 hbefore with ⟨a, hfront, hback⟩ | ⟨a, -, hr⟩
  · cases a with
    | nil => exact hback ▸ List.suffix_refl _
    | cons d a =>
      obtain ⟨rfl, -⟩ := List.cons.inj hback
      exact absurd (hfront ▸ List.mem_append_right _ List.mem_cons_self) hc
  · exact hr ▸ List.suffix_append _ _

/-- A last name with a start and an end is read from where it begins. -/
theorem exists_reads_framed {front back : Text} {c : CodePoint}
    (hlast : (c :: back).getLast? ≠ some lineBreak) (hback : slash ∉ c :: back)
    (hapart : c ∉ front) (hsuffix : c :: back <:+ withoutBreak t)
    (hstarts : front <+: lastName (withoutBreak t)) :
    ∃ m, BeginsName t m ∧ ∃ j, Reads t.toArray
      (literals front ++ .units 0 none .greedy noSlash :: ending (c :: back)) m j := by
  obtain ⟨m, hbegins, hdrop⟩ := exists_drop_eq_lastName (withoutBreak t)
  obtain ⟨r, hr⟩ := hstarts
  rw [← suffix_lastName_iff hback, ← hr] at hsuffix
  obtain ⟨between, hbetween⟩ := suffix_of_suffix_append hapart hsuffix
  rw [← hr, ← hbetween] at hdrop
  have hends : (withoutBreak t).drop (m + front.length + between.length) = c :: back := by
    rw [Nat.add_assoc, ← List.drop_drop, hdrop, ← List.drop_drop, List.drop_left, List.drop_left]
  have hlt := lt_of_drop_eq (List.cons_ne_nil c back) hends
  refine ⟨m, (beginsName_withoutBreak (by omega)).1 hbegins, _,
    (reads_framed (List.cons_ne_nil c back) hlast).2
      ⟨?_, between.length, fun k hk => ?_, hends, rfl⟩⟩
  · exact (hdrop ▸ List.prefix_append _ _ : front <+: (withoutBreak t).drop m).trans
      ((withoutBreak_isPrefix t).drop m)
  · have hget : t[m + front.length + k]? = some between[k] := by
      rw [← getElem?_withoutBreak (by omega), Nat.add_assoc, ← List.getElem?_drop, hdrop,
        List.getElem?_append_right (Nat.le_add_right _ _), Nat.add_sub_cancel_left,
        List.getElem?_append_left hk, List.getElem?_eq_getElem hk]
    refine ⟨between[k], hget, fun heq => ?_⟩
    -- What stands between is a part of the last name.
    refine slash_notMem_lastName (withoutBreak t) ?_
    rw [← hr, ← hbetween, ← heq]
    exact List.mem_append_right _ (List.mem_append_left _ (List.getElem_mem hk))

/-- A pattern for the last name of a path, of which a start and an end are given. -/
theorem tells_framing {p : Program} (front back : Text) (c : CodePoint)
    (hlast : (c :: back).getLast? ≠ some lineBreak) (hfront : slash ∉ front)
    (hback : slash ∉ c :: back) (hapart : c ∉ front) (hsteps : p.steps = framing front (c :: back))
    (hleast : p.least = front.length + (c :: back).length)
    (hdepth : ∀ n, front.length + back.length + 7 ≤ p.pattern.depth n) :
    p.Tells fun t => c :: back <:+ withoutBreak t ∧ front <+: lastName (withoutBreak t) := by
  refine tells_of_straight 2 (fun n => ?_) (fun t => ?_) fun t i j _ hij => ?_
  · rw [hsteps]
    have hbetween : Straight (front.length + ((c :: back).length + 2 + 1)) 2
        (literals front ++ .units 0 none .greedy noSlash :: ending (c :: back)) 2 :=
      (Straight.ending (c :: back) 2).units.literals front
    have hframing : Straight (front.length + ((c :: back).length + 2) + 4) 0
        (framing front (c :: back)) 2 := .beginning hbetween
    refine hframing.mono ?_
    have := hdepth n
    rw [List.length_cons]
    omega
  · rw [hsteps, framing, exists_reads_beginning]
    refine ⟨?_, fun h => exists_reads_framed hlast hback hapart h.1 h.2⟩
    rintro ⟨m, hbegins, j, hj⟩
    obtain ⟨hstarts, n, hbetween, hends, -⟩ := (reads_framed (List.cons_ne_nil c back) hlast).1 hj
    have hlt := lt_of_drop_eq (List.cons_ne_nil c back) hends
    rw [← beginsName_withoutBreak (by omega)] at hbegins
    have hname := lastName_eq_drop hbegins
      (slash_notMem_framed hfront hback hstarts hbetween hends)
    refine ⟨hends ▸ List.drop_suffix _ _, hname ▸ ?_⟩
    refine List.prefix_of_prefix_length_le hstarts ((withoutBreak_isPrefix t).drop m) ?_
    rw [List.length_drop]
    omega
  · rw [hsteps, framing, reads_beginning] at hij
    obtain ⟨m, hm, hij⟩ := hij
    rw [reads_framed (List.cons_ne_nil c back) hlast] at hij
    obtain ⟨-, n, -, -, hj⟩ := hij
    omega

/-! ## The five patterns -/

/-- The patterns of a text that is looked for as it is. -/
def literalPatterns (w : Text) : List Pattern := w.map fun c => .literal c.val

/-- The group that begins a name. -/
def beginningPattern : Pattern := .group 1 (.alt (.anchor .lineStart) (.literal slash.val))

/-- A sequence of a text and the end, behind other patterns, nests so deep at least. -/
theorem le_depth_ending (ps : List Pattern) (w : Text) (n : Nat) :
    (ps.map (Pattern.depth n)).sum + w.length + 1 ≤
      (Pattern.ofItems (ps ++ literalPatterns w ++ [.anchor .lineEnd])).depth n := by
  refine Nat.le_trans (Nat.le_of_eq ?_) (sum_le_depth n _)
  have hliterals : ((literalPatterns w).map (Pattern.depth n)).sum = w.length := by
    induction w with
    | nil => rfl
    | cons c w ih =>
      rw [literalPatterns, List.map_cons, List.map_cons, List.sum_cons, List.length_cons,
        Nat.add_comm]
      exact congrArg Nat.succ ih
  rw [List.map_append, List.map_append, List.sum_append, List.sum_append, hliterals]
  rfl

deriving instance DecidableEq for Pattern.Reading

/-- What becomes of a pattern that sets no options. -/
theorem ofText_of_read {text : Text} {q : Pattern} {groups least : Nat} {steps : List Step}
    (hread : Pattern.read text = .ok ⟨q, {}, groups⟩) (hsteps : q.steps groups {} = .ok steps)
    (hwidth : q.width.1 = least) (hlooks : q.looksTooFar = false) :
    Program.ofText text = .ok ⟨steps, groups, least, q⟩ := by
  simp only [ofText, hread, hsteps, hlooks, hwidth, bind, Except.bind]
  rfl

theorem exists_tells_ending (text w : Text)
    (hread : Program.ofText text = .ok ⟨ending w, 0, w.length,
      .ofItems (literalPatterns w ++ [.anchor .lineEnd])⟩)
    (hne : w ≠ []) (hlast : w.getLast? ≠ some lineBreak) :
    ∃ p, Program.ofText text = .ok p ∧ p.Tells fun t => w <:+ withoutBreak t := by
  refine ⟨_, hread, tells_ending hne hlast rfl rfl fun n => ?_⟩
  simpa using le_depth_ending [] w n

theorem exists_tells_name (text w : Text)
    (hread : Program.ofText text = .ok ⟨beginning ++ ending w, 1, w.length,
      .ofItems (beginningPattern :: literalPatterns w ++ [.anchor .lineEnd])⟩)
    (hne : w ≠ []) (hlast : w.getLast? ≠ some lineBreak) (hslash : slash ∉ w) :
    ∃ p, Program.ofText text = .ok p ∧ p.Tells fun t => lastName (withoutBreak t) = w := by
  refine ⟨_, hread, tells_name hne hlast hslash rfl rfl fun n => ?_⟩
  have hdepth := le_depth_ending [beginningPattern] w n
  have hfive : ([beginningPattern].map (Pattern.depth n)).sum = 5 := rfl
  rw [hfive] at hdepth
  exact Nat.le_trans (by omega) hdepth

theorem exists_tells_tests : ∃ p, Program.ofText "(^|/)test_[^/]*\\.py$" = .ok p ∧
    p.Tells fun t => Text.ofString ".py" <:+ withoutBreak t ∧
      Text.ofString "test_" <+: lastName (withoutBreak t) := by
  have hread : Program.ofText "(^|/)test_[^/]*\\.py$" = .ok ⟨framing "test_" ".py", 1, 8,
      .ofItems (beginningPattern :: literalPatterns "test_" ++
        [.loop 0 none .greedy (.notLiteral slash.val)] ++ literalPatterns ".py" ++
          [.anchor .lineEnd])⟩ :=
    ofText_of_read (by decide +kernel) rfl rfl rfl
  refine ⟨_, hread, tells_framing "test_" "py" (CodePoint.ofChar '.') ?_ ?_ ?_ ?_ rfl rfl
    fun n => ?_⟩
  · decide
  · decide
  · decide
  · decide
  · have hdepth := le_depth_ending (beginningPattern :: literalPatterns "test_" ++
      [.loop 0 none .greedy (.notLiteral slash.val)]) ".py" n
    refine Nat.le_trans ?_ hdepth
    show 5 + 2 + 7 ≤ 5 + (1 + (1 + (1 + (1 + (1 + ((1 + 2) * (0 + n + 2) + 0)))))) + 3 + 1
    omega

end Program

namespace Matcher

theorem anyOccurs_nil (path : Text) : anyOccurs path [] = .ok (decide False) := rfl

theorem anyOccurs_cons {p : Program} {ps : List Program} {Q : Text → Prop} {P : Prop} {path : Text}
    [DecidablePred Q] [Decidable P] (h : p.Tells Q) (hrest : anyOccurs path ps = .ok (decide P)) :
    anyOccurs path (p :: ps) = .ok (decide (Q path ∨ P)) := by
  obtain ⟨hfound, hnothing⟩ := h path
  rw [anyOccurs]
  by_cases hQ : Q path
  · rw [hfound.2 hQ]
    simp [hQ, pure, Except.pure]
  · rw [hnothing.2 hQ, hrest]
    simp [hQ]

theorem accepts_eq {m : Matcher} {path : Text} {P Q : Prop} [Decidable P] [Decidable Q]
    (hincludes : anyOccurs path m.includes = .ok (decide P))
    (hexcludes : anyOccurs path m.excludes = .ok (decide Q)) :
    m.accepts path = .ok (decide (P ∧ ¬Q)) := by
  rw [accepts, hincludes, hexcludes]
  by_cases hP : P
  · simp [hP, bind, Except.bind, pure, Except.pure]
  · simp [hP, bind, Except.bind, pure, Except.pure]

open Text in
/-- By default a path is chosen exactly if, a line break at its end apart, it ends with `.py` and
its last name is neither that of a configuration module nor, by its start or its end, that of a
test. -/
theorem accepts_defaults : ∃ m, ofTexts Settings.defaultIncludes Settings.defaultExcludes = .ok m ∧
    ∀ path : Text, m.accepts path = .ok (decide (
      Text.ofString ".py" <:+ withoutBreak path ∧
      lastName (withoutBreak path) ≠ Text.ofString "conftest.py" ∧
      lastName (withoutBreak path) ≠ Text.ofString "setup.py" ∧
      ¬ Text.ofString "test_" <+: lastName (withoutBreak path) ∧
      ¬ Text.ofString "_test.py" <:+ lastName (withoutBreak path))) := by
  obtain ⟨source, hsource, hends⟩ := Program.exists_tells_ending "\\.py$" ".py"
    (Program.ofText_of_read (by decide +kernel) rfl rfl rfl) (by decide) (by decide)
  obtain ⟨conftest, hconftest, hisConftest⟩ := Program.exists_tells_name
    "(^|/)conftest\\.py$" "conftest.py"
    (Program.ofText_of_read (by decide +kernel) rfl rfl rfl) (by decide) (by decide) (by decide)
  obtain ⟨setup, hsetup, hisSetup⟩ := Program.exists_tells_name
    "(^|/)setup\\.py$" "setup.py"
    (Program.ofText_of_read (by decide +kernel) rfl rfl rfl) (by decide) (by decide) (by decide)
  obtain ⟨test, htest, hisTest⟩ := Program.exists_tells_tests
  obtain ⟨tested, htested, hisTested⟩ := Program.exists_tells_ending "_test\\.py$"
    "_test.py" (Program.ofText_of_read (by decide +kernel) rfl rfl rfl) (by decide) (by decide)
  refine ⟨⟨[source], [conftest, setup, test, tested]⟩, ?_, fun path => ?_⟩
  · simp only [ofTexts, readAll, Settings.defaultIncludes, Settings.defaultExcludes, List.map_cons,
      List.map_nil, List.mapM_cons, List.mapM_nil, hsource, hconftest, hsetup, htest, htested]
    rfl
  · have hincludes := anyOccurs_cons hends (anyOccurs_nil path)
    have hexcludes := anyOccurs_cons hisConftest (anyOccurs_cons hisSetup (anyOccurs_cons hisTest
      (anyOccurs_cons hisTested (anyOccurs_nil path))))
    have hlast : Text.ofString "_test.py" <:+ lastName (withoutBreak path) ↔
        Text.ofString "_test.py" <:+ withoutBreak path := suffix_lastName_iff (by decide)
    rw [accepts_eq hincludes hexcludes]
    refine congrArg Except.ok (decide_eq_decide.2 ?_)
    simp only [or_false, not_or, hlast]
    refine and_congr_right fun hpy => ?_
    simp only [hpy, true_and, ne_eq]

end Matcher

end SourceDocs
