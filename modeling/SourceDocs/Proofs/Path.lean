import Mathlib
import SourceDocs.World

/-!
# Names without dots

Of a path without double dots, `Path.withoutDots` keeps every name, and the way from a directory to
a path below it is the rest of its names.
-/

namespace SourceDocs

namespace Path

/-- Whether a path holds no double dots. -/
def NoDots (names : List Text) : Prop := ∀ n ∈ names, n.isString ".." = false

instance (names : List Text) : Decidable (NoDots names) :=
  inferInstanceAs (Decidable (∀ n ∈ names, n.isString ".." = false))

theorem NoDots.append {names rest : List Text} (h : NoDots names) (hrest : NoDots rest) :
    NoDots (names ++ rest) := by
  intro n hn
  rcases List.mem_append.1 hn with hn | hn
  · exact h n hn
  · exact hrest n hn

/-- The names that `withoutDots` has kept, last first. -/
def keepName (done : List Text) (n : Text) : List Text :=
  if n.isString ".." then done.drop 1 else n :: done

theorem withoutDots_eq_foldl (names : List Text) :
    withoutDots names = (names.foldl keepName []).reverse := rfl

theorem foldl_keepName_of_noDots {names : List Text} (h : NoDots names) (done : List Text) :
    names.foldl keepName done = names.reverse ++ done := by
  induction names generalizing done with
  | nil => rfl
  | cons n rest ih =>
    have hn : keepName done n = n :: done := by simp [keepName, h n List.mem_cons_self]
    rw [List.foldl_cons, hn, ih fun m hm => h m (List.mem_cons_of_mem _ hm)]
    simp

theorem withoutDots_of_noDots {names : List Text} (h : NoDots names) :
    withoutDots names = names := by
  rw [withoutDots_eq_foldl, foldl_keepName_of_noDots h]
  simp

theorem noDots_foldl_keepName {done : List Text} (h : NoDots done) (names : List Text) :
    NoDots (names.foldl keepName done) := by
  induction names generalizing done with
  | nil => exact h
  | cons n rest ih =>
    apply ih
    unfold keepName
    by_cases hn : n.isString ".."
    · rw [if_pos hn]
      exact fun m hm => h m (List.mem_of_mem_drop hm)
    · rw [if_neg hn]
      exact List.forall_mem_cons.2 ⟨Bool.eq_false_iff.2 hn, h⟩

theorem noDots_withoutDots (names : List Text) : NoDots (withoutDots names) := by
  intro n hn
  rw [withoutDots_eq_foldl, List.mem_reverse] at hn
  exact noDots_foldl_keepName (fun _ h => absurd h List.not_mem_nil) names n hn

theorem dropCommon_append (names rest : List Text) :
    dropCommon names (names ++ rest) = ([], rest) := by
  induction names with
  | nil => cases rest <;> rfl
  | cons n more ih => simp [dropCommon, ih]

/-- The way from a directory to a path below it. -/
theorem relativeTo_append {base rest : List Text} (h : NoDots (base ++ rest)) :
    relativeTo ⟨1, base ++ rest⟩ ⟨1, base⟩ = ⟨0, rest⟩ := by
  have hbase : NoDots base := fun n hn => h n (List.mem_append_left _ hn)
  simp only [relativeTo, withoutDots_of_noDots h, withoutDots_of_noDots hbase, dropCommon_append,
    List.map_nil, List.nil_append]

theorem toText_relative {rest : List Text} (h : rest ≠ []) :
    toText ⟨0, rest⟩ = Text.join "/" rest := by
  have hempty : rest.isEmpty = false := by simp [h]
  simp [toText, hempty]

theorem toText_absolute (names : List Text) :
    toText ⟨1, names⟩ = CodePoint.ofChar '/' :: Text.join "/" names := rfl

end Path

theorem World.relative_append (w : World) {base rest : List Text}
    (h : Path.NoDots (base ++ rest)) : w.relative ⟨1, base ++ rest⟩ ⟨1, base⟩ = ⟨0, rest⟩ := by
  have hbase : Path.NoDots base := fun n hn => h n (List.mem_append_left _ hn)
  have habs (names : List Text) : (Path.mk 1 names).isAbsolute = true := rfl
  simp only [World.relative, World.absolute, habs, if_true, Path.withoutDots_of_noDots h,
    Path.withoutDots_of_noDots hbase]
  exact Path.relativeTo_append h

theorem Text.join_cons (separator n : Text) {names : List Text} (h : names ≠ []) :
    Text.join separator (n :: names) = n ++ separator ++ Text.join separator names := by
  obtain ⟨m, rest, rfl⟩ := List.exists_cons_of_ne_nil h
  rfl

theorem Text.join_concat (separator : Text) {names : List Text} (h : names ≠ []) (n : Text) :
    Text.join separator (names ++ [n]) = Text.join separator names ++ separator ++ n := by
  induction names with
  | nil => exact absurd rfl h
  | cons m rest ih =>
    cases rest with
    | nil => simp [Text.join]
    | cons k more =>
      have := ih (by simp)
      simp only [List.cons_append, Text.join] at this ⊢
      rw [this]
      simp

/-! ## Reading paths -/

namespace Lines

/-- A text without the mark is one part. -/
theorem splitAtFrom_of_not_mem {mark : CodePoint} (current : Text) {t : Text} (h : mark ∉ t) :
    splitAtFrom mark current t = [current.reverse ++ t] := by
  induction t generalizing current with
  | nil => simp [splitAtFrom]
  | cons c rest ih =>
    rw [List.mem_cons, not_or] at h
    rw [splitAtFrom, if_neg (Ne.symm h.1), ih _ h.2]
    simp

theorem splitAtFrom_append {mark : CodePoint} (current : Text) {t : Text} (h : mark ∉ t)
    (rest : Text) : splitAtFrom mark current (t ++ mark :: rest) =
      (current.reverse ++ t) :: splitAtFrom mark [] rest := by
  induction t generalizing current with
  | nil => simp [splitAtFrom]
  | cons c more ih =>
    rw [List.mem_cons, not_or] at h
    rw [List.cons_append, splitAtFrom, if_neg (Ne.symm h.1), ih _ h.2]
    simp

/-- The last part of a text keeps an ending without the mark. -/
theorem exists_ending {mark : CodePoint} (current t : Text) {ending : Text} (h : mark ∉ ending) :
    ∃ n ∈ splitAtFrom mark current (t ++ ending), ∃ start, n = start ++ ending := by
  induction t generalizing current with
  | nil =>
    rw [List.nil_append, splitAtFrom_of_not_mem current h]
    exact ⟨_, List.mem_singleton_self _, _, rfl⟩
  | cons c rest ih =>
    rw [List.cons_append, splitAtFrom]
    split_ifs
    · obtain ⟨n, hn, hstart⟩ := ih []
      exact ⟨n, List.mem_cons_of_mem _ hn, hstart⟩
    · exact ih _

end Lines

theorem CodePoint.eq_of_toChar_slash {c : CodePoint} (h : c.toChar = '/') :
    c = CodePoint.ofChar '/' := by
  unfold CodePoint.toChar at h
  split at h
  · exact absurd h (by decide)
  · unfold Char.ofNat at h
    split at h
    · have hval := congrArg Char.toNat h
      exact Fin.ext hval
    · exact absurd h (by decide)

namespace Path

/-- What can stand between the slashes of a path and does not vanish. -/
def IsPart (n : Text) : Prop := vanishes n = false ∧ CodePoint.ofChar '/' ∉ n

theorem splitAt_join {names : List Text} (h : ∀ n ∈ names, IsPart n) (hne : names ≠ []) :
    Lines.splitAt '/' (Text.join "/" names) = names := by
  induction names with
  | nil => exact absurd rfl hne
  | cons n rest ih =>
    have hn := (h n List.mem_cons_self).2
    cases rest with
    | nil => exact Lines.splitAtFrom_of_not_mem [] hn
    | cons m more =>
      have hrest := ih (fun k hk => h k (List.mem_cons_of_mem _ hk)) (by simp)
      have hjoin : Text.join "/" (n :: m :: more) =
          n ++ CodePoint.ofChar '/' :: Text.join "/" (m :: more) := by
        rw [Text.join, List.append_assoc]
        · rfl
        · intro hfalse
          cases hfalse
      rw [hjoin, Lines.splitAt, Lines.splitAtFrom_append [] hn]
      exact congrArg (n :: ·) hrest

/-- The path that names are written as leads along these names. -/
theorem ofText_join {names : List Text} (h : ∀ n ∈ names, IsPart n) (hne : names ≠ []) :
    ofText (Text.join "/" names) = ⟨0, names⟩ := by
  have hslashes : (Text.join "/" names).takeWhile (fun c => c.toChar = '/') = [] := by
    obtain ⟨n, rest, rfl⟩ := List.exists_cons_of_ne_nil hne
    obtain ⟨hvanish, hslash⟩ := h n List.mem_cons_self
    obtain ⟨c, cs, rfl⟩ : ∃ c cs, n = c :: cs := by
      refine List.exists_cons_of_ne_nil fun hnil => ?_
      rw [hnil] at hvanish
      cases hvanish
    have hc : ¬ c.toChar = '/' := fun hc =>
      hslash (CodePoint.eq_of_toChar_slash hc ▸ List.mem_cons_self)
    cases rest <;> simp [Text.join, hc]
  have hkept : names.filter (fun n => !vanishes n) = names := by
    refine List.filter_eq_self.2 fun n hn => ?_
    rw [(h n hn).1]
    rfl
  unfold ofText
  simp only [hslashes, List.length_nil, List.drop_zero, splitAt_join h hne, hkept]
  rfl

/-- The leading slashes of a text with an ending that has none are those of the text. -/
theorem exists_drop_slashes (t : Text) {ending : Text} (h : CodePoint.ofChar '/' ∉ ending) :
    ∃ rest, (t ++ ending).drop ((t ++ ending).takeWhile fun c => c.toChar = '/').length =
      rest ++ ending := by
  induction t with
  | nil =>
    have hnone : ending.takeWhile (fun c => c.toChar = '/') = [] := by
      cases ending with
      | nil => rfl
      | cons c rest =>
        have hc : ¬ c.toChar = '/' := fun hc =>
          h (CodePoint.eq_of_toChar_slash hc ▸ List.mem_cons_self)
        simp [hc]
    rw [List.nil_append, hnone]
    exact ⟨[], rfl⟩
  | cons c rest ih =>
    by_cases hc : c.toChar = '/'
    · simp only [List.cons_append, List.takeWhile_cons, hc, decide_true, if_true,
        List.length_cons, List.drop_succ_cons]
      exact ih
    · simp only [List.cons_append, List.takeWhile_cons, hc, decide_false, Bool.false_eq_true,
        if_false, List.length_nil, List.drop_zero]
      exact ⟨c :: rest, rfl⟩

theorem not_vanishes_of_length {n : Text} (h : 1 < n.length) : ¬ vanishes n = true := by
  intro hvanishes
  rw [vanishes, Bool.or_eq_true, List.isEmpty_iff, Text.isString, decide_eq_true_eq] at hvanishes
  have hone : (Text.ofString ".").length = 1 := by decide +kernel
  rcases hvanishes with hnil | hdot
  · rw [hnil, List.length_nil] at h
    omega
  · rw [hdot, hone] at h
    omega

/-- A text with an ending of more than one character is a path with a name. -/
theorem names_ofText_append (t : Text) {ending : Text} (h : CodePoint.ofChar '/' ∉ ending)
    (hlong : 1 < ending.length) : (ofText (t ++ ending)).names ≠ [] := by
  obtain ⟨rest, hrest⟩ := exists_drop_slashes t h
  obtain ⟨n, hn, start, rfl⟩ := Lines.exists_ending [] rest h
  have hkept : ¬ vanishes (start ++ ending) = true := by
    refine not_vanishes_of_length ?_
    rw [List.length_append]
    omega
  have hmem : start ++ ending ∈ (ofText (t ++ ending)).names := by
    rw [ofText]
    simp only [hrest]
    rw [List.mem_filter]
    exact ⟨hn, by simpa using hkept⟩
  exact List.ne_nil_of_mem hmem

end Path

namespace Files

theorem byteLength_append (s t : Text) : byteLength (s ++ t) = byteLength s + byteLength t := by
  induction s with
  | nil => simp [byteLength]
  | cons c rest ih =>
    simp only [byteLength, List.cons_append, List.foldr_cons] at ih ⊢
    omega

/-- A path is no longer than one with one more name. -/
theorem byteLength_le_child (names : List Text) (n : Text) :
    byteLength (Path.toText ⟨1, names⟩) ≤ byteLength (Path.toText ⟨1, names ++ [n]⟩) := by
  rw [Path.toText_absolute, Path.toText_absolute]
  by_cases h : names = []
  · subst h
    have : CodePoint.ofChar '/' :: Text.join "/" ([] ++ [n]) =
        (CodePoint.ofChar '/' :: Text.join "/" []) ++ n := rfl
    rw [this, byteLength_append]
    exact Nat.le_add_right _ _
  · rw [Text.join_concat _ h, List.append_assoc, ← List.cons_append, byteLength_append]
    exact Nat.le_add_right _ _

end Files

end SourceDocs
