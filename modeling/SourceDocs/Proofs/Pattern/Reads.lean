import Mathlib
import SourceDocs.Pattern.Matching

/-!
# What steps read

`Reads s steps i j` says without any search that steps lead from place `i` of a text to place `j`.
For `Straight` steps, those without loops, assertions and references, trying the ways in order finds
one exactly if there is one: this is `decides_run` for a try and `search_eq_found_iff` for a whole
search.  The tries share a trail of marks, so what is proved of each of them, `Decides`, carries an
invariant of the marks along: they rise from left to right.
-/

namespace SourceDocs.Program

variable {s : Array CodePoint} {steps rest : List Step} {i j : Nat}

/-- Steps lead from one place of a text to another. -/
inductive Reads (s : Array CodePoint) : List Step → Nat → Nat → Prop where
  | nil {i : Nat} : Reads s [] i i
  | char {t : CharTest} {rest : List Step} {i j : Nat} : testAt s i t = true →
      Reads s rest (i + 1) j → Reads s (.char t :: rest) i j
  | mark {n : Nat} {rest : List Step} {i j : Nat} : Reads s rest i j →
      Reads s (.mark n :: rest) i j
  | place {a : Anchor} {multiline ascii : Bool} {rest : List Step} {i j : Nat} :
      holdsAt s i multiline ascii a = true → Reads s rest i j →
      Reads s (.place a multiline ascii :: rest) i j
  | branch {alternatives : List (List Step)} {alternative rest : List Step} {i m j : Nat} :
      alternative ∈ alternatives → Reads s alternative i m → Reads s rest m j →
      Reads s (.branch alternatives :: rest) i j
  | units {least : Nat} {most : Option Nat} {t : CharTest} {rest : List Step} {i n j : Nat} :
      least ≤ n → n ≤ most.getD n → (∀ k < n, testAt s (i + k) t = true) →
      Reads s rest (i + n) j → Reads s (.units least most .greedy t :: rest) i j

theorem lt_size_of_testAt {t : CharTest} (h : testAt s i t = true) : i < s.size := by
  by_contra hsize
  rw [testAt, Array.getElem?_eq_none (by omega)] at h
  cases h

theorem Reads.le_size (h : Reads s steps i j) (hi : i ≤ s.size) : j ≤ s.size := by
  induction h with
  | nil => exact hi
  | char ht _ ih => exact ih (lt_size_of_testAt ht)
  | mark _ ih => exact ih hi
  | place _ _ ih => exact ih hi
  | branch _ _ _ ihway ih => exact ih (ihway hi)
  | @units _ _ t _ i n _ _ _ htests _ ih =>
    refine ih ?_
    cases n with
    | zero => exact hi
    | succ n => exact lt_size_of_testAt (htests n (by omega))

section Inversion

variable {t : CharTest}

@[simp] theorem reads_nil : Reads s [] i j ↔ i = j :=
  ⟨fun h => by cases h; rfl, fun h => h ▸ .nil⟩

@[simp] theorem reads_char :
    Reads s (.char t :: rest) i j ↔ testAt s i t = true ∧ Reads s rest (i + 1) j :=
  ⟨fun h => by cases h with | char ht h => exact ⟨ht, h⟩, fun h => .char h.1 h.2⟩

@[simp] theorem reads_mark {n : Nat} : Reads s (.mark n :: rest) i j ↔ Reads s rest i j :=
  ⟨fun h => by cases h with | mark h => exact h, .mark⟩

@[simp] theorem reads_place {a : Anchor} {multiline ascii : Bool} :
    Reads s (.place a multiline ascii :: rest) i j ↔
      holdsAt s i multiline ascii a = true ∧ Reads s rest i j :=
  ⟨fun h => by cases h with | place ha h => exact ⟨ha, h⟩, fun h => .place h.1 h.2⟩

@[simp] theorem reads_branch {alternatives : List (List Step)} :
    Reads s (.branch alternatives :: rest) i j ↔
      ∃ a ∈ alternatives, ∃ m, Reads s a i m ∧ Reads s rest m j :=
  ⟨fun h => by cases h with | branch ha hway h => exact ⟨_, ha, _, hway, h⟩,
    fun ⟨_, ha, _, hway, h⟩ => .branch ha hway h⟩

@[simp] theorem reads_units {least : Nat} {most : Option Nat} :
    Reads s (.units least most .greedy t :: rest) i j ↔
      ∃ n, least ≤ n ∧ n ≤ most.getD n ∧ (∀ k < n, testAt s (i + k) t = true) ∧
        Reads s rest (i + n) j :=
  ⟨fun h => by cases h with | units hl hm ht h => exact ⟨_, hl, hm, ht, h⟩,
    fun ⟨_, hl, hm, ht, h⟩ => .units hl hm ht h⟩

end Inversion

/-! ## Marks that rise -/

/-- The marks that are set rise, and none of them lies behind a place. -/
structure Rising (place : Nat) (marks : List (Option Nat)) : Prop where
  rises : marks.Pairwise fun a b => ∀ x ∈ a, ∀ y ∈ b, x ≤ y
  le : ∀ m ∈ marks, ∀ x ∈ m, x ≤ place

namespace Rising

variable {place : Nat} {marks : List (Option Nat)}

theorem nil : Rising place [] := ⟨.nil, List.forall_mem_nil _⟩

theorem mono (h : Rising i marks) (hij : i ≤ j) : Rising j marks :=
  ⟨h.rises, fun m hm x hx => Nat.le_trans (h.le m hm x hx) hij⟩

/-- Marks that are not set do not count. -/
theorem append_none (h : Rising place marks) (n : Nat) :
    Rising place (marks ++ List.replicate n none) := by
  refine ⟨List.pairwise_append.2 ⟨h.rises, ?_, ?_⟩, fun m hm x hx => ?_⟩
  · exact List.pairwise_replicate.2 (.inr fun x hx => nomatch hx)
  · intro a _ b hb x _ y hy
    rw [List.eq_of_mem_replicate hb] at hy
    cases hy
  · rcases List.mem_append.1 hm with hm | hm
    · exact h.le m hm x hx
    · rw [List.eq_of_mem_replicate hm] at hx
      cases hx

/-- A new mark is set at the place that was reached. -/
theorem concat (h : Rising place marks) : Rising place (marks ++ [some place]) := by
  refine ⟨List.pairwise_append.2 ⟨h.rises, List.pairwise_singleton _ _, ?_⟩, fun m hm x hx => ?_⟩
  · intro a ha b hb x hx y hy
    obtain rfl := List.mem_singleton.1 hb
    cases hy
    exact h.le a ha x hx
  · rcases List.mem_append.1 hm with hm | hm
    · exact h.le m hm x hx
    · obtain rfl := List.mem_singleton.1 hm
      cases hx
      exact Nat.le_refl _

/-- Where marks rise no group ends before it starts. -/
theorem isCrossed_eq_false {t : Trail} (h : Rising place t.marks) (n : Nat) :
    isCrossed t n = false := by
  unfold isCrossed
  split
  case h_1 first last hfirst hlast =>
    obtain ⟨hstart, hfirst⟩ := List.getElem?_eq_some_iff.1 hfirst
    obtain ⟨hend, hlast⟩ := List.getElem?_eq_some_iff.1 hlast
    have hlt : Pattern.startMark n < Pattern.endMark n := Nat.lt_succ_self _
    have hle := List.pairwise_iff_getElem.1 h.rises _ _ hstart hend hlt first hfirst last hlast
    exact decide_eq_false (by omega)
  case h_2 => rfl

end Rising

/-! ## Tries that decide -/

/-- A try from a trail of rising marks, at most so many, succeeds exactly if `P` holds.  It keeps
the marks that it finds, and after a success all marks rise. -/
def Decides (marks place : Nat) (x : Try) (P : Prop) : Prop :=
  ∀ t : Trail, t.marks.length ≤ marks → Rising place t.marks →
    ((x.run t).1 = true ↔ P) ∧ t.marks <+: (x.run t).2.marks ∧
      ((x.run t).1 = true → ∃ j, Rising j (x.run t).2.marks)

namespace Decides

variable {marks more place : Nat} {x y : Try} {P Q : Prop}

theorem congr (h : Decides marks place x P) (hPQ : P ↔ Q) : Decides marks place x Q :=
  fun t hlength hrising => by
    obtain ⟨hP, hmarks⟩ := h t hlength hrising
    exact ⟨hP.trans hPQ, hmarks⟩

theorem no (h : ¬P) : Decides marks place (pure false) P :=
  fun _ _ _ => ⟨⟨fun hfalse => absurd hfalse Bool.false_ne_true, fun hP => absurd hP h⟩,
    List.prefix_refl _, fun hfalse => absurd hfalse Bool.false_ne_true⟩

theorem finish (place : Nat) : Decides marks place (finish place) True :=
  fun _ _ hrising => ⟨⟨fun _ => trivial, fun _ => rfl⟩, List.prefix_refl _,
    fun _ => ⟨place, hrising⟩⟩

theorem weaken (h : Decides more j x P) (hmarks : marks ≤ more) (hplace : place ≤ j) :
    Decides marks place x P :=
  fun t hlength hrising => h t (Nat.le_trans hlength hmarks) (hrising.mono hplace)

/-- The place that was reached plays no role. -/
theorem reach (h : Decides marks place x P) (n : Nat) :
    Decides marks place (do Program.reach n; x) P :=
  fun t hlength hrising => h { t with reached := n } hlength hrising

/-- A test before a try. -/
theorem guarded {b : Bool} (h : Decides marks place x P) :
    Decides marks place (if b then x else return false) (b = true ∧ P) := by
  cases b with
  | false => exact no fun hP => Bool.false_ne_true hP.1
  | true => exact h.congr ⟨fun hP => ⟨rfl, hP⟩, fun hP => hP.2⟩

/-- What a mark behind all those so far is set in. -/
theorem set_padded {marks : List (Option Nat)} {n : Nat} (hn : marks.length ≤ n) (m : Option Nat) :
    (marks ++ List.replicate (n + 1 - marks.length) none).set n m =
      marks ++ List.replicate (n - marks.length) none ++ [m] := by
  have hlength : (marks ++ List.replicate (n - marks.length) none).length = n := by
    rw [List.length_append, List.length_replicate]
    omega
  rw [Nat.sub_add_comm hn, List.replicate_succ', ← List.append_assoc,
    List.set_append_right _ _ (Nat.le_of_eq hlength), hlength, Nat.sub_self, List.set_cons_zero]

/-- A new mark at the place that was reached. -/
theorem setMark {n : Nat} (h : Decides (n + 1) place x P) (hn : marks ≤ n) :
    Decides marks place (do Program.setMark n place; x) P := by
  intro t hlength hrising
  have hset := set_padded (Nat.le_trans hlength hn) (some place)
  have hnew : (t.marks ++ List.replicate (n - t.marks.length) none ++ [some place]).length ≤
      n + 1 := by
    simp only [List.length_append, List.length_replicate, List.length_singleton]
    omega
  have hnext := h { t with marks := _ } hnew (hrising.append_none _).concat
  rw [← hset] at hnext
  obtain ⟨hP, hmarks, hrises⟩ := hnext
  refine ⟨hP, List.IsPrefix.trans ?_ hmarks, hrises⟩
  change t.marks <+: (t.marks ++ List.replicate (n + 1 - t.marks.length) none).set n (some place)
  rw [hset, List.append_assoc]
  exact List.prefix_append _ _

theorem firstOf_cons {α : Type} (wholly : Bool) {way : α} {ways : List α} {run : α → Try}
    {t : Trail} (hmarks : t.marks <+: ((run way).run t).2.marks) :
    (Program.firstOf wholly (way :: ways) run).run t =
      if ((run way).run t).1 then (true, ((run way).run t).2)
      else (Program.firstOf wholly ways run).run { ((run way).run t).2 with marks := t.marks } := by
  have hrestored (wholly : Bool) :
      (if wholly then t.marks else ((run way).run t).2.marks.take t.marks.length) = t.marks := by
    cases wholly with
    | true => rfl
    | false => exact (List.prefix_iff_eq_take.1 hmarks).symm
  have hstep : (Program.firstOf wholly (way :: ways) run).run t =
      match (run way).run t with
      | (true, u) => (true, u)
      | (false, u) => (ways.foldr (fun way others => do
          if ← run way then return true
          else
            restore wholly t.marks
            others) (return false) : Try).run
          { u with marks := if wholly then t.marks else u.marks.take t.marks.length } := by
    simp only [Program.firstOf, List.foldr_cons, StateT.run_bind, StateT.run_get, pure_bind]
    cases (run way).run t with
    | mk b u => cases b <;> rfl
  rw [hstep]
  revert hrestored
  cases (run way).run t with
  | mk b u =>
    intro hrestored
    cases b with
    | true => rfl
    | false =>
      simp only [hrestored]
      rfl

/-- Tries one after the other: one that fails is forgotten. -/
theorem firstOf {α : Type} (wholly : Bool) {ways : List α} {run : α → Try} {P : α → Prop}
    (h : ∀ way ∈ ways, Decides marks place (run way) (P way)) :
    Decides marks place (Program.firstOf wholly ways run) (∃ way ∈ ways, P way) := by
  induction ways with
  | nil => exact no fun ⟨way, hway, _⟩ => absurd hway List.not_mem_nil
  | cons way rest ih =>
    intro t hlength hrising
    obtain ⟨hP, hmarks, hrises⟩ := h way List.mem_cons_self t hlength hrising
    rw [firstOf_cons wholly hmarks]
    by_cases hsuccess : ((run way).run t).1 = true
    · rw [if_pos hsuccess]
      exact ⟨⟨fun _ => ⟨way, List.mem_cons_self, hP.1 hsuccess⟩, fun _ => rfl⟩, hmarks,
        fun _ => hrises hsuccess⟩
    · rw [if_neg hsuccess]
      obtain ⟨hrest, hkept⟩ := ih (fun way hway => h way (List.mem_cons_of_mem _ hway))
        { ((run way).run t).2 with marks := t.marks } hlength hrising
      refine ⟨hrest.trans ?_, hkept⟩
      rw [List.exists_mem_cons_iff]
      exact ⟨.inr, fun hway => hway.resolve_left fun hfirst => hsuccess (hP.2 hfirst)⟩

end Decides

/-! ## Straight steps -/

/-- Steps without loops, assertions and references, of which so many are matched one inside the
other at most.  So many marks may be set before them, and so many behind them. -/
inductive Straight : Nat → Nat → List Step → Nat → Prop where
  | nil {fuel marks behind : Nat} : marks ≤ behind → Straight (fuel + 1) marks [] behind
  | char {fuel marks behind : Nat} {t : CharTest} {rest : List Step} :
      Straight fuel marks rest behind → Straight (fuel + 1) marks (.char t :: rest) behind
  | mark {fuel marks behind n : Nat} {rest : List Step} : marks ≤ n →
      Straight fuel (n + 1) rest behind → Straight (fuel + 1) marks (.mark n :: rest) behind
  | place {fuel marks behind : Nat} {a : Anchor} {multiline ascii : Bool} {rest : List Step} :
      Straight fuel marks rest behind →
      Straight (fuel + 1) marks (.place a multiline ascii :: rest) behind
  | branch {fuel marks between behind : Nat} {alternatives : List (List Step)} {rest : List Step} :
      (∀ a ∈ alternatives, Straight fuel marks a between) → Straight fuel between rest behind →
      Straight (fuel + 1) marks (.branch alternatives :: rest) behind
  | units {fuel marks behind least : Nat} {most : Option Nat} {t : CharTest} {rest : List Step} :
      Straight fuel marks rest behind →
      Straight (fuel + 1) marks (.units least most .greedy t :: rest) behind

/-- What begins with a character that is looked at first is not left out wrongly. -/
theorem mayStart_of_reads (h : Reads s steps i j) : mayStart s i steps = true := by
  cases h with
  | char ht _ => simp [mayStart, ht]
  | _ => rfl

theorem testAt_of_reads {next : CharTest} (h : Reads s steps i j)
    (hstart : plainStart? steps = some next) : testAt s i next = true := by
  cases h with
  | char ht _ =>
    simp only [plainStart?] at hstart
    split_ifs at hstart
    cases hstart
    exact ht
  | _ => cases hstart

theorem le_countFrom_iff {t : CharTest} {most place n : Nat} :
    n ≤ countFrom s t most place ↔ n ≤ most ∧ ∀ k < n, testAt s (place + k) t = true := by
  induction most generalizing place n with
  | zero =>
    rw [countFrom]
    exact ⟨fun h => ⟨h, fun k hk => by omega⟩, fun h => h.1⟩
  | succ most ih =>
    rw [countFrom]
    cases n with
    | zero => simp
    | succ n =>
      split_ifs with ht
      · rw [Nat.add_le_add_iff_right, ih, Nat.add_le_add_iff_right]
        refine and_congr_right fun _ => ⟨fun h k hk => ?_, fun h k hk => ?_⟩
        · cases k with
          | zero => exact ht
          | succ k =>
            have := h k (by omega)
            rwa [show place + (k + 1) = place + 1 + k by omega]
        · have := h (k + 1) (by omega)
          rwa [show place + 1 + k = place + (k + 1) by omega]
      · refine ⟨fun h => by omega, fun h => absurd (h.2 0 (Nat.succ_pos n)) ht⟩

/-- What is counted for a repetition of a character. -/
theorem le_count_iff {t : CharTest} {most : Option Nat} {place n : Nat} :
    n ≤ countFrom s t (min (s.size - place) (most.getD s.size)) place ↔
      n ≤ most.getD n ∧ ∀ k < n, testAt s (place + k) t = true := by
  rw [le_countFrom_iff]
  refine and_congr_left fun htests => ?_
  have hsize : n ≤ s.size - place := by
    cases n with
    | zero => exact Nat.zero_le _
    | succ n =>
      have hlast := lt_size_of_testAt (htests n (Nat.lt_succ_self n))
      omega
  cases most with
  | none =>
    simp only [Option.getD_none]
    omega
  | some m =>
    simp only [Option.getD_some]
    omega

theorem mem_counts {least count n : Nat} (h : least ≤ count) :
    n ∈ (List.range (count - least + 1)).map (count - ·) ↔ least ≤ n ∧ n ≤ count := by
  rw [List.mem_map]
  constructor
  · rintro ⟨i, hi, rfl⟩
    have := List.mem_range.1 hi
    omega
  · intro hn
    exact ⟨count - n, List.mem_range.2 (by omega), by omega⟩

/-- The numbers of repetitions that are tried: those after which the next character stands there. -/
theorem exists_mem_counts {t : CharTest} {most : Option Nat} {place least count : Nat}
    {P : Nat → Prop}
    (hcount : count = countFrom s t (min (s.size - place) (most.getD s.size)) place)
    (hleast : least ≤ count) :
    (∃ n ∈ match plainStart? rest with
        | some next => ((List.range (count - least + 1)).map (count - ·)).filter fun n =>
            testAt s (place + n) next
        | none => (List.range (count - least + 1)).map (count - ·),
        ∃ j, Reads s rest (place + n) j ∧ P j) ↔
      ∃ j, Reads s (.units least most .greedy t :: rest) place j ∧ P j := by
  have hmem (n : Nat) : n ∈ (List.range (count - least + 1)).map (count - ·) ↔
      least ≤ n ∧ n ≤ most.getD n ∧ ∀ k < n, testAt s (place + k) t = true := by
    rw [mem_counts hleast, hcount, le_count_iff]
  simp only [reads_units]
  constructor
  · rintro ⟨n, hn, j, hj, hP⟩
    have hn : n ∈ (List.range (count - least + 1)).map (count - ·) := by
      split at hn
      · exact List.mem_of_mem_filter hn
      · exact hn
    obtain ⟨hl, hm, htests⟩ := (hmem n).1 hn
    exact ⟨j, ⟨n, hl, hm, htests, hj⟩, hP⟩
  · rintro ⟨j, ⟨n, hl, hm, htests, hj⟩, hP⟩
    refine ⟨n, ?_, j, hj, hP⟩
    have hn := (hmem n).2 ⟨hl, hm, htests⟩
    split
    case h_1 next hnext => exact List.mem_filter.2 ⟨hn, testAt_of_reads hj hnext⟩
    case h_2 => exact hn

theorem decides_unitsGreedy {marks place least : Nat} {most : Option Nat} {t : CharTest}
    {inner : Bool} {go : Nat → Try} {P : Nat → Prop}
    (hgo : ∀ n, Decides marks place (go (place + n)) (∃ j, Reads s rest (place + n) j ∧ P j)) :
    Decides marks place (unitsGreedy s inner place least most t rest go)
      (∃ j, Reads s (.units least most .greedy t :: rest) place j ∧ P j) := by
  obtain ⟨count, hcount⟩ : ∃ count,
      count = countFrom s t (min (s.size - place) (most.getD s.size)) place := ⟨_, rfl⟩
  have htry : Decides marks place
      (if count < least then return false
        else firstOf inner (match plainStart? rest with
          | some next => ((List.range (count - least + 1)).map (count - ·)).filter fun n =>
              testAt s (place + n) next
          | none => (List.range (count - least + 1)).map (count - ·)) fun n => do
            reach (place + n)
            go (place + n))
      (∃ j, Reads s (.units least most .greedy t :: rest) place j ∧ P j) := by
    by_cases hleast : count < least
    · rw [if_pos hleast]
      refine Decides.no ?_
      rintro ⟨j, hj, -⟩
      obtain ⟨n, hl, hm, htests, -⟩ := reads_units.1 hj
      have hle := le_count_iff.2 ⟨hm, htests⟩
      omega
    · rw [if_neg hleast]
      exact (Decides.firstOf inner fun n _ => (hgo n).reach (place + n)).congr
        (exists_mem_counts hcount (Nat.le_of_not_lt hleast))
  unfold unitsGreedy
  rw [← hcount]
  by_cases hmoves : movesWhileCounting t = true
  · rw [hmoves]
    exact htry.reach (place + count)
  · rw [Bool.not_eq_true] at hmoves
    rw [hmoves]
    exact htry

/-- Trying the ways of straight steps decides whether they lead to a place that is accepted. -/
theorem decides_run {fuel marks behind place : Nat} {k : Nat → Try} {P : Nat → Prop} (inner : Bool)
    (h : Straight fuel marks steps behind) (hk : ∀ j, place ≤ j → Decides behind j (k j) (P j)) :
    Decides marks place (run s fuel steps inner place k) (∃ j, Reads s steps place j ∧ P j) := by
  induction h generalizing place inner k P with
  | nil hle =>
    rw [run]
    refine ((hk place (Nat.le_refl _)).weaken hle (Nat.le_refl _)).congr ?_
    simp only [reads_nil, exists_eq_left']
  | @char fuel marks behind t rest _ ih =>
    have hrest := ih inner fun j hj => hk j (Nat.le_of_succ_le hj)
    rw [run]
    refine ((hrest.weaken (Nat.le_refl _) (Nat.le_succ place)).guarded
      (b := testAt s place t)).congr ?_
    simp only [reads_char, and_assoc, exists_and_left]
  | mark hle _ ih =>
    rw [run]
    refine ((ih inner hk).setMark hle).congr ?_
    simp only [reads_mark]
  | @place fuel marks behind a multiline ascii rest _ ih =>
    rw [run]
    refine ((ih inner hk).guarded (b := holdsAt s place multiline ascii a)).congr ?_
    simp only [reads_place, and_assoc, exists_and_left]
  | @branch fuel marks between behind alternatives rest _ hrest ihway ih =>
    -- Each alternative is tried with the rest of the steps behind it.
    have hway (a : List Step) (ha : a ∈ alternatives.filter (mayStart s place)) :
        Decides marks place (do
          reach place
          run s fuel a inner place fun m => run s fuel rest inner m k)
        (∃ m, Reads s a place m ∧ ∃ j, Reads s rest m j ∧ P j) := by
      refine (ihway a (List.mem_of_mem_filter ha) inner fun m hm => ?_).reach place
      exact ih inner fun j hj => hk j (Nat.le_trans hm hj)
    rw [run]
    refine (Decides.firstOf inner hway).congr ?_
    simp only [reads_branch, List.mem_filter]
    constructor
    · rintro ⟨a, ⟨ha, -⟩, m, hm, j, hj, hP⟩
      exact ⟨j, ⟨a, ha, m, hm, hj⟩, hP⟩
    · rintro ⟨j, ⟨a, ha, m, hm, hj⟩, hP⟩
      exact ⟨a, ⟨ha, mayStart_of_reads hm⟩, m, hm, j, hj, hP⟩
  | @units fuel marks behind least most t rest _ ih =>
    rw [run]
    by_cases hleast : s.size - place < least
    · rw [if_pos hleast]
      refine Decides.no ?_
      rintro ⟨j, hj, -⟩
      obtain ⟨n, hl, hm, htests, -⟩ := reads_units.1 hj
      have hle := (le_countFrom_iff.1 (le_count_iff.2 ⟨hm, htests⟩)).1
      omega
    · rw [if_neg hleast]
      refine Decides.reach (decides_unitsGreedy fun n => ?_) place
      exact (ih inner fun j hj => hk j (by omega)).weaken (Nat.le_refl _) (Nat.le_add_right _ _)

/-! ## Searching -/

/-- A search tells whether a text satisfies `Q`. -/
def Tells (p : Program) (Q : Text → Prop) : Prop :=
  ∀ t, (p.search t = .found ↔ Q t) ∧ (p.search t = .nothing ↔ ¬ Q t)

/-- A try at a place finds a match exactly if the steps lead from there to some place. -/
theorem findAt_eq {p : Program} {fuel behind : Nat} (h : Straight fuel 0 p.steps behind)
    (place : Nat) :
    (p.findAt fuel s place = .found ↔ ∃ j, Reads s p.steps place j) ∧
      (p.findAt fuel s place = .nothing ↔ ¬ ∃ j, Reads s p.steps place j) := by
  have hfinish (j : Nat) (_ : place ≤ j) : Decides behind j (finish j) True := .finish j
  obtain ⟨hreads, -, hrises⟩ := decides_run (s := s) false h hfinish
    { reached := place } (Nat.le_refl 0) .nil
  simp only [and_true] at hreads
  rw [← hreads, findAt]
  cases hrun : (run s fuel p.steps false place finish).run { reached := place } with
  | mk found t =>
    rw [hrun] at hrises
    cases found with
    | false => simp
    | true =>
      obtain ⟨j, hrising⟩ := hrises rfl
      have hcrossed : ((List.range p.groups).any fun n => isCrossed t (n + 1)) = false :=
        List.any_eq_false.2 fun n _ => by rw [hrising.isCrossed_eq_false]; exact Bool.false_ne_true
      simp [hcrossed]

/-- The last place where a match may begin stands in the text, and is not missed. -/
theorem lastStart_spec (p : Program) (s : Array CodePoint) :
    p.lastStart s ≤ s.size ∧ ∀ i, i + p.least ≤ s.size → i ≤ p.lastStart s := by
  rw [lastStart]
  split_ifs
  · exact ⟨Nat.le_refl _, fun i hi => by omega⟩
  · exact ⟨Nat.sub_le _ _, fun i hi => by omega⟩

/-- The first place with a finding decides, and findings are matches. -/
theorem firstFinding_eq {places : List Nat} {find : Nat → Option Finding} {Q : Nat → Prop}
    (hfound : ∀ i ∈ places, Q i → find i = some .found)
    (hnothing : ∀ i ∈ places, ¬ Q i → find i = none) :
    ((places.findSome? find).getD .nothing = .found ↔ ∃ i ∈ places, Q i) ∧
      ((places.findSome? find).getD .nothing = .nothing ↔ ¬ ∃ i ∈ places, Q i) := by
  induction places with
  | nil => simp
  | cons i rest ih =>
    rw [List.findSome?_cons, List.exists_mem_cons_iff]
    by_cases hi : Q i
    · rw [hfound i List.mem_cons_self hi]
      simp [hi]
    · rw [hnothing i List.mem_cons_self hi]
      simp only [hi, false_or]
      exact ih (fun j hj => hfound j (List.mem_cons_of_mem i hj))
        fun j hj => hnothing j (List.mem_cons_of_mem i hj)

/-- A search for straight steps finds a match exactly if there is one, and never one with a group
that ends before it starts. -/
theorem tells_of_straight {p : Program} {Q : Text → Prop} (behind : Nat)
    (hsteps : ∀ n, Straight (p.pattern.depth n + 1) 0 p.steps behind)
    (hreads : ∀ t : Text, (∃ i j, i ≤ t.length ∧ Reads t.toArray p.steps i j) ↔ Q t)
    (hleast : ∀ (t : Text) i j, i ≤ t.length → Reads t.toArray p.steps i j → i + p.least ≤ j) :
    p.Tells Q := by
  intro t
  have hsize : t.toArray.size = t.length := List.size_toArray
  have hbound {i j : Nat} (hi : i ≤ t.length) (hij : Reads t.toArray p.steps i j) :
      i + p.least ≤ t.toArray.size :=
    Nat.le_trans (hleast t i j hi hij) (hij.le_size (hsize ▸ hi))
  have hfind (place : Nat) := findAt_eq (s := t.toArray) (hsteps t.toArray.size) place
  rw [← hreads, search]
  dsimp only
  by_cases hshort : t.toArray.size < p.least
  · have hnone : ¬ ∃ i j, i ≤ t.length ∧ Reads t.toArray p.steps i j := by
      rintro ⟨i, j, hi, hij⟩
      have := hbound hi hij
      omega
    rw [if_pos hshort]
    exact ⟨iff_of_false nofun hnone, iff_of_true rfl hnone⟩
  · obtain ⟨hlast, hstarts⟩ := p.lastStart_spec t.toArray
    have hplaces :
        (∃ i ∈ List.range (p.lastStart t.toArray + 1), ∃ j, Reads t.toArray p.steps i j) ↔
        ∃ i j, i ≤ t.length ∧ Reads t.toArray p.steps i j := by
      constructor
      · rintro ⟨i, hi, j, hij⟩
        have := List.mem_range.1 hi
        exact ⟨i, j, by omega, hij⟩
      · rintro ⟨i, j, hi, hij⟩
        exact ⟨i, List.mem_range.2 (Nat.lt_succ_of_le (hstarts i (hbound hi hij))), j, hij⟩
    rw [if_neg hshort, ← hplaces]
    refine firstFinding_eq (fun i _ hi => ?_) fun i _ hi => ?_
    · rw [(hfind i).1.2 hi]
    · rw [(hfind i).2.2 hi]

end SourceDocs.Program
