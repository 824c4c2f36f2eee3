import SourceDocs.Proofs.Path

/-!
# Look-ups in trees without links

A tree is well named if every directory in it holds distinct names that a file system accepts, and
link free if no symbolic link is in it.  In a link-free part of a well-named tree, following a path
is no more than `Entry.get?`, apart from what the system refuses: this file says so for `advance`,
`World.entry`, `World.holds` and `World.resolve`.
-/

namespace SourceDocs

/-! ## Names and trees -/

namespace Files

/-- Whether a file system accepts a name for an entry of a directory. -/
def isName (n : Text) : Bool :=
  !n.isEmpty && !n.isString "." && !n.isString ".." && byteLength n ≤ maxName &&
    n.all fun c => c ≠ CodePoint.ofChar '/' && c.val ≠ 0 && (!c.isSurrogate || isByte c)

theorem not_dots_of_isName {n : Text} (h : isName n) : n.isString ".." = false := by
  simp only [isName, Bool.and_eq_true, Bool.not_eq_eq_eq_not, Bool.not_true] at h
  exact h.1.1.2

theorem byteLength_le_of_isName {n : Text} (h : isName n) : byteLength n ≤ maxName := by
  simp only [isName, Bool.and_eq_true, decide_eq_true_eq] at h
  exact h.1.2

theorem isPart_of_isName {n : Text} (h : isName n) : Path.IsPart n := by
  simp only [isName, Bool.and_eq_true, Bool.not_eq_true', List.all_eq_true,
    decide_eq_true_eq] at h
  refine ⟨?_, fun hslash => ?_⟩
  · rw [Path.vanishes, h.1.1.1.1, h.1.1.1.2]
    rfl
  · exact (h.2 _ hslash).1.1 rfl

theorem checkPath_of_isName {k : Nat} {names : List Text} (h : ∀ n ∈ names, isName n) :
    checkPath ⟨k, names⟩ = .ok () := by
  have each : ∀ n ∈ names, ∀ c ∈ n, c ≠ (0 : CodePoint) ∧ (c.isSurrogate = false ∨ isByte c) := by
    intro n hn c hc
    have hname := h n hn
    simp only [isName, Bool.and_eq_true, List.all_eq_true] at hname
    have := hname.2 c hc
    simp only [decide_eq_true_eq, Bool.or_eq_true, Bool.not_eq_eq_eq_not, Bool.not_true] at this
    exact ⟨fun hzero => this.1.2 (congrArg Fin.val hzero), this.2⟩
  have encodable : (names.any fun n => n.any fun c => c.isSurrogate && !isByte c) = false := by
    rw [List.any_eq_false]
    intro n hn hany
    obtain ⟨c, hc, hbad⟩ := List.any_eq_true.1 hany
    have := (each n hn c hc).2
    simp_all
  have noNul : (names.any fun n => n.any fun c => decide (c = (0 : CodePoint))) = false := by
    rw [List.any_eq_false]
    intro n hn hany
    obtain ⟨c, hc, hzero⟩ := List.any_eq_true.1 hany
    exact (each n hn c hc).1 (of_decide_eq_true hzero)
  unfold checkPath
  simp only [encodable, noNul, Bool.false_eq_true, if_false]

end Files

namespace Entry

mutual

/-- Whether every directory in a tree holds distinct names that a file system accepts. -/
def isWellNamed : Entry → Bool
  | .directory es => (es.map Prod.fst).Nodup && areWellNamed es
  | _ => true

/-- Whether the entries of a directory are well named. -/
def areWellNamed : List (Text × Entry) → Bool
  | [] => true
  | (n, e) :: rest => Files.isName n && isWellNamed e && areWellNamed rest

end

mutual

/-- Whether no symbolic link is in a tree. -/
def isLinkFree : Entry → Bool
  | .file _ => true
  | .directory es => areLinkFree es
  | .link _ => false

/-- Whether no symbolic link is in the entries of a directory. -/
def areLinkFree : List (Text × Entry) → Bool
  | [] => true
  | (_, e) :: rest => isLinkFree e && areLinkFree rest

end

theorem mem_of_areWellNamed {es : List (Text × Entry)} (h : areWellNamed es) {n : Text} {e : Entry}
    (hmem : (n, e) ∈ es) : Files.isName n ∧ e.isWellNamed := by
  induction es with
  | nil => simp at hmem
  | cons x rest ih =>
    simp only [areWellNamed, Bool.and_eq_true] at h
    rcases List.mem_cons.1 hmem with rfl | hrest
    · exact h.1
    · exact ih h.2 hrest

theorem mem_of_areLinkFree {es : List (Text × Entry)} (h : areLinkFree es) {n : Text} {e : Entry}
    (hmem : (n, e) ∈ es) : e.isLinkFree := by
  induction es with
  | nil => simp at hmem
  | cons x rest ih =>
    simp only [areLinkFree, Bool.and_eq_true] at h
    rcases List.mem_cons.1 hmem with rfl | hrest
    · exact h.1
    · exact ih h.2 hrest

/-- What a look-up finds is an entry of the list. -/
theorem mem_of_lookup {es : List (Text × Entry)} {n : Text} {e : Entry}
    (h : es.lookup n = some e) : (n, e) ∈ es := by
  induction es with
  | nil => simp at h
  | cons x rest ih =>
    rw [List.lookup_cons] at h
    split at h
    · rename_i hn
      obtain rfl := beq_iff_eq.1 hn
      obtain rfl := Option.some.inj h
      exact List.mem_cons_self
    · exact List.mem_cons_of_mem _ (ih h)

theorem lookup_of_mem {es : List (Text × Entry)} (hnodup : (es.map Prod.fst).Nodup) {n : Text}
    {e : Entry} (hmem : (n, e) ∈ es) : es.lookup n = some e := by
  induction es with
  | nil => simp at hmem
  | cons x rest ih =>
    rw [List.map_cons, List.nodup_cons] at hnodup
    rw [List.lookup_cons]
    rcases List.mem_cons.1 hmem with rfl | hrest
    · simp
    · have hne : n ≠ x.1 := by
        rintro rfl
        exact hnodup.1 (List.mem_map.2 ⟨_, hrest, rfl⟩)
      rw [beq_eq_false_iff_ne.2 hne]
      exact ih hnodup.2 hrest

/-! ## Looking along names -/

@[simp] theorem get?_nil (t : Entry) : t.get? [] = some t := by
  cases t <;> rfl

theorem get?_cons (t : Entry) (n : Text) (rest : List Text) :
    t.get? (n :: rest) = (t.entries.lookup n).bind fun c => c.get? rest := by
  cases t <;> rfl

theorem get?_append (t : Entry) (names rest : List Text) :
    t.get? (names ++ rest) = (t.get? names).bind fun c => c.get? rest := by
  induction names generalizing t with
  | nil => simp
  | cons n more ih =>
    rw [List.cons_append, get?_cons, get?_cons, Option.bind_assoc]
    exact congrArg _ (funext fun c => ih c)

/-- Only a directory has something under a name. -/
theorem get?_cons_eq_some {t e : Entry} {n : Text} {rest : List Text}
    (h : t.get? (n :: rest) = some e) :
    ∃ es c, t = .directory es ∧ es.lookup n = some c ∧ c.get? rest = some e := by
  rw [get?_cons] at h
  obtain ⟨c, hc, he⟩ := Option.bind_eq_some_iff.1 h
  cases t with
  | directory es => exact ⟨es, c, rfl, hc, he⟩
  | file data => simp [entries] at hc
  | link target => simp [entries] at hc

theorem get?_append_cons {t e : Entry} {here rest : List Text} {n : Text}
    (h : t.get? (here ++ n :: rest) = some e) :
    ∃ es c, t.get? here = some (.directory es) ∧ es.lookup n = some c ∧ c.get? rest = some e := by
  rw [get?_append] at h
  obtain ⟨d, hd, h⟩ := Option.bind_eq_some_iff.1 h
  obtain ⟨es, c, rfl, hc, he⟩ := get?_cons_eq_some h
  exact ⟨es, c, hd, hc, he⟩

theorem get?_child {t : Entry} {here : List Text} {es : List (Text × Entry)}
    (h : t.get? here = some (.directory es)) (n : Text) : t.get? (here ++ [n]) = es.lookup n := by
  rw [get?_append, h, Option.bind_some, get?_cons]
  simp [entries]

theorem isWellNamed_get? {t e : Entry} {names : List Text} (ht : t.isWellNamed)
    (h : t.get? names = some e) : e.isWellNamed ∧ ∀ n ∈ names, Files.isName n := by
  induction names generalizing t with
  | nil =>
    obtain rfl := Option.some.inj ((get?_nil t).symm.trans h)
    exact ⟨ht, by simp⟩
  | cons n rest ih =>
    obtain ⟨es, c, rfl, hc, hrest⟩ := get?_cons_eq_some h
    rw [isWellNamed, Bool.and_eq_true] at ht
    obtain ⟨hn, hcn⟩ := mem_of_areWellNamed ht.2 (mem_of_lookup hc)
    obtain ⟨he, hall⟩ := ih hcn hrest
    exact ⟨he, List.forall_mem_cons.2 ⟨hn, hall⟩⟩

theorem isLinkFree_get? {t e : Entry} {names : List Text} (ht : t.isLinkFree)
    (h : t.get? names = some e) : e.isLinkFree := by
  induction names generalizing t with
  | nil =>
    obtain rfl := Option.some.inj ((get?_nil t).symm.trans h)
    exact ht
  | cons n rest ih =>
    obtain ⟨es, c, rfl, hc, hrest⟩ := get?_cons_eq_some h
    rw [isLinkFree] at ht
    exact ih (mem_of_areLinkFree ht (mem_of_lookup hc)) hrest

theorem insertInOrder_perm (x : Text × Entry) (es : List (Text × Entry)) :
    (insertInOrder x es).Perm (x :: es) := by
  induction es with
  | nil => exact .refl _
  | cons y rest ih =>
    rw [insertInOrder]
    split
    · exact (ih.cons y).trans (.swap x y rest)
    · exact .refl _

theorem inOrder_perm (es : List (Text × Entry)) : (inOrder es).Perm es := by
  induction es with
  | nil => exact .refl _
  | cons x rest ih => exact (insertInOrder_perm x _).trans (ih.cons x)

theorem mem_inOrder {es : List (Text × Entry)} {x : Text × Entry} : x ∈ inOrder es ↔ x ∈ es :=
  (inOrder_perm es).mem_iff

theorem pairwise_insertInOrder {x : Text × Entry} {es : List (Text × Entry)}
    (h : es.Pairwise fun s t => s.1 ≤ t.1) :
    (insertInOrder x es).Pairwise fun s t => s.1 ≤ t.1 := by
  induction es with
  | nil => exact List.pairwise_singleton _ _
  | cons y rest ih =>
    obtain ⟨hy, hrest⟩ := List.pairwise_cons.1 h
    rw [insertInOrder]
    split
    case isTrue hlt =>
      refine List.pairwise_cons.2 ⟨fun z hz => ?_, ih hrest⟩
      rcases List.mem_cons.1 ((insertInOrder_perm x rest).mem_iff.1 hz) with rfl | hz
      · exact le_of_lt hlt
      · exact hy z hz
    case isFalse hge =>
      refine List.pairwise_cons.2 ⟨fun z hz => ?_, h⟩
      rcases List.mem_cons.1 hz with rfl | hz
      · exact not_lt.1 hge
      · exact le_trans (not_lt.1 hge) (hy z hz)

/-- The names of a directory are listed in increasing order. -/
theorem pairwise_inOrder {es : List (Text × Entry)} (h : (es.map Prod.fst).Nodup) :
    (inOrder es).Pairwise fun s t => s.1 < t.1 := by
  have hle : (inOrder es).Pairwise fun s t => s.1 ≤ t.1 := by
    clear h
    induction es with
    | nil => exact .nil
    | cons x rest ih => exact pairwise_insertInOrder ih
  have hne : (inOrder es).Pairwise fun s t => s.1 ≠ t.1 :=
    List.pairwise_map.1 (((inOrder_perm es).map Prod.fst).nodup_iff.2 h)
  exact (hle.and hne).imp fun hst => lt_of_le_of_ne hst.1 hst.2

mutual

/-- The names that lead to the entries of a tree. -/
def paths : Entry → List (List Text)
  | .directory es => [] :: pathsOf es
  | _ => [[]]

/-- The names that lead to the entries of the trees in a directory. -/
def pathsOf : List (Text × Entry) → List (List Text)
  | [] => []
  | (n, e) :: rest => (paths e).map (n :: ·) ++ pathsOf rest

end

mutual

theorem length_paths : ∀ t : Entry, t.paths.length = t.size
  | .directory es => by
    rw [paths, size, List.length_cons, length_pathsOf es, Nat.add_comm]
  | .file _ => by simp [paths, size]
  | .link _ => by simp [paths, size]

theorem length_pathsOf : ∀ es : List (Text × Entry), (pathsOf es).length = sizeOf es
  | [] => by simp [pathsOf, sizeOf]
  | (n, e) :: rest => by
    rw [pathsOf, sizeOf, List.length_append, List.length_map, length_paths e, length_pathsOf rest]

end

theorem mem_pathsOf {es : List (Text × Entry)} {n : Text} {e : Entry} {names : List Text}
    (he : (n, e) ∈ es) (hnames : names ∈ e.paths) : n :: names ∈ pathsOf es := by
  induction es with
  | nil => simp at he
  | cons entry rest ih =>
    obtain ⟨m, c⟩ := entry
    rw [pathsOf, List.mem_append]
    rcases List.mem_cons.1 he with heq | he
    · obtain ⟨rfl, rfl⟩ := Prod.mk.inj heq
      exact Or.inl (List.mem_map.2 ⟨names, hnames, rfl⟩)
    · exact Or.inr (ih he)

theorem mem_paths {t e : Entry} {names : List Text} (h : t.get? names = some e) :
    names ∈ t.paths := by
  induction names generalizing t with
  | nil => cases t <;> simp [paths]
  | cons n rest ih =>
    obtain ⟨es, c, rfl, hc, hrest⟩ := get?_cons_eq_some h
    rw [paths]
    exact List.mem_cons_of_mem _ (mem_pathsOf (mem_of_lookup hc) (ih hrest))

end Entry

/-! ## Following paths -/

namespace Files

open Entry

variable {t : Entry}

/-- A look-up goes straight through directories. -/
theorem advance_append (followLast : Bool) (here : List Text) {names : List Text}
    {es : List (Text × Entry)} (hnames : ∀ n ∈ names, isName n)
    (h : t.get? (here ++ names) = some (.directory es)) (rest : List Text) :
    advance t followLast here (names ++ rest) = advance t followLast (here ++ names) rest := by
  induction names generalizing here with
  | nil => simp
  | cons n more ih =>
    obtain ⟨ds, c, hd, hc, hmore⟩ := get?_append_cons h
    obtain ⟨hn, hrest⟩ := List.forall_mem_cons.1 hnames
    have hlong : ¬ maxName < byteLength n := Nat.not_lt.2 (byteLength_le_of_isName hn)
    have notLink : ∀ target, c ≠ .link target := by
      rintro target rfl
      cases more with
      | nil => simp at hmore
      | cons m ms => simp [get?_cons, entries] at hmore
    have hnext : here ++ n :: more = here ++ [n] ++ more := by simp
    rw [List.cons_append, advance, hd]
    simp only [not_dots_of_isName hn, hlong, hc, Bool.false_eq_true, if_false]
    rw [hnext, ← ih _ hrest (by rw [← hnext]; exact h)]

/-- Faults that leave open only whether the system could look a path up. -/
def IsMiss (f : FileFault) : Prop := f = .notFound ∨ f = .notDirectory ∨ f = .nameTooLong

theorem advance_error {followLast : Bool} {here rest : List Text} {f : FileFault}
    (h : advance t followLast here rest = .error f) : IsMiss f := by
  fun_induction advance t followLast here rest with
  | case1 | case5 | case7 | case8 => cases h
  | case3 _ _ _ _ _ _ ih => exact ih h
  | case9 _ _ _ _ _ _ _ _ _ _ ih => exact ih h
  | case4 => exact Or.inr (Or.inr (Except.error.inj h).symm)
  | case10 => exact Or.inr (Or.inl (Except.error.inj h).symm)
  | case2 | case6 | case11 => exact Or.inl (Except.error.inj h).symm

/-- Following links, a look-up may also give up. -/
theorem followNames_error {followLast : Bool} {links : Nat} {here rest : List Text} {f : FileFault}
    (h : followNames t followLast links here rest = .error f) : IsMiss f ∨ f = .linkLoop := by
  fun_induction followNames t followLast links here rest with
  | case1 _ _ _ _ hadvance =>
    obtain rfl := Except.error.inj h
    exact Or.inl (advance_error hadvance)
  | case2 | case3 => cases h
  | case4 => exact Or.inr (Except.error.inj h).symm
  | case5 _ _ _ _ _ _ _ _ _ _ ih => exact ih h

/-- In a link-free directory, a look-up along names finds what `Entry.get?` finds, or misses. -/
theorem advance_linkFree (followLast : Bool) {here rest : List Text} {es : List (Text × Entry)}
    (hhere : t.get? here = some (.directory es)) (named : (Entry.directory es).isWellNamed)
    (free : (Entry.directory es).isLinkFree) (hrest : Path.NoDots rest) :
    (∃ e, t.get? (here ++ rest) = some e ∧ e.isLinkFree ∧
      advance t followLast here rest = .ok (.found (here ++ rest) e)) ∨
    (t.get? (here ++ rest) = none ∧
      (advance t followLast here rest = .ok (.missing (here ++ rest)) ∨
        ∃ f, IsMiss f ∧ advance t followLast here rest = .error f)) := by
  induction rest generalizing here es with
  | nil =>
    refine Or.inl ⟨.directory es, by simpa using hhere, free, ?_⟩
    rw [advance, hhere]
    simp
  | cons n more ih =>
    obtain ⟨hn, hmore⟩ := List.forall_mem_cons.1 hrest
    have hget : t.get? (here ++ n :: more) = (es.lookup n).bind fun c => c.get? more := by
      rw [get?_append, hhere, Option.bind_some, get?_cons, entries]
    have hnext : here ++ n :: more = here ++ [n] ++ more := by simp
    rw [isWellNamed, Bool.and_eq_true] at named
    rw [isLinkFree] at free
    rw [advance, hhere]
    simp only [hn, Bool.false_eq_true, if_false]
    by_cases hlong : maxName < byteLength n
    · rw [if_pos hlong]
      refine Or.inr ⟨?_, Or.inr ⟨.nameTooLong, by simp [IsMiss], rfl⟩⟩
      rw [hget, Option.bind_eq_none_iff]
      intro c hc
      have := byteLength_le_of_isName (mem_of_areWellNamed named.2 (mem_of_lookup hc)).1
      omega
    · rw [if_neg hlong]
      cases hc : es.lookup n with
      | none =>
        refine Or.inr ⟨by rw [hget, hc]; rfl, ?_⟩
        by_cases hm : more = []
        · subst hm
          exact Or.inl (by simp)
        · exact Or.inr ⟨.notFound, by simp [IsMiss], by simp [hm]⟩
      | some c =>
        have hchild : t.get? (here ++ [n]) = some c := by rw [get?_child hhere, hc]
        have hcn := (mem_of_areWellNamed named.2 (mem_of_lookup hc)).2
        have hcf := mem_of_areLinkFree free (mem_of_lookup hc)
        cases c with
        | link target => simp [isLinkFree] at hcf
        | directory cs =>
          rw [hnext]
          exact ih hchild hcn hcf hmore
        | file data =>
          cases more with
          | nil =>
            refine Or.inl ⟨.file data, hchild, hcf, ?_⟩
            simp [advance, hchild]
          | cons m ms =>
            refine Or.inr ⟨by rw [hget, hc]; simp [get?_cons, entries], Or.inr ?_⟩
            exact ⟨.notDirectory, by simp [IsMiss], by simp [advance, hchild]⟩

/-- Names that lead over no link and no double dots are resolved to themselves. -/
theorem resolveNames_straight {fuel : Nat} (here : List Text) {rest : List Text} (seen : Seen)
    (hfuel : rest.length < fuel) (hdots : Path.NoDots rest)
    (hlink : ∀ there, there <+: here ++ rest → ∀ names target,
      follow t [] ⟨1, there⟩ false ≠ .ok (names, some (.link target))) :
    resolveNames t fuel here rest seen = ((here ++ rest, true), seen) := by
  induction rest generalizing fuel here with
  | nil =>
    obtain ⟨k, rfl⟩ := Nat.exists_eq_succ_of_ne_zero (Nat.ne_of_gt hfuel)
    simp [resolveNames]
  | cons n more ih =>
    obtain ⟨k, rfl⟩ := Nat.exists_eq_succ_of_ne_zero (Nat.ne_of_gt (Nat.zero_lt_of_lt hfuel))
    obtain ⟨hn, hmore⟩ := List.forall_mem_cons.1 hdots
    have hnext : here ++ n :: more = here ++ [n] ++ more := by simp
    have hstep : resolveNames t k (here ++ [n]) more seen = ((here ++ n :: more, true), seen) := by
      rw [ih _ (Nat.lt_of_succ_lt_succ hfuel) hmore (by rwa [← hnext]), hnext]
    have hfree := hlink (here ++ [n]) (by rw [hnext]; exact List.prefix_append _ _)
    rw [resolveNames]
    simp only [hn, Bool.false_eq_true, if_false]
    exact hstep

/-- Checking a path fails only in three ways. -/
theorem checkLookup_error {p : Path} {f : FileFault} (h : checkLookup p = .error f) :
    f = .unencodable ∨ f = .nulCharacter ∨ f = .nameTooLong := by
  unfold checkLookup checkPath at h
  simp only [bind, Except.bind] at h
  split_ifs at h with h₁ h₂ h₃
  all_goals simp_all [throw, throwThe, MonadExceptOf.throw, pure, Except.pure]

theorem checkPath_error {p : Path} {f : FileFault} (h : checkPath p = .error f) :
    f = .unencodable ∨ f = .nulCharacter := by
  unfold checkPath at h
  simp only at h
  split_ifs at h
  · exact Or.inl (Except.error.inj h).symm
  · exact Or.inr (Except.error.inj h).symm

theorem checkLookup_of_isName {k : Nat} {names : List Text} (h : ∀ n ∈ names, isName n) :
    checkLookup ⟨k, names⟩ =
      if pathBound ≤ byteLength (Path.toText ⟨k, names⟩) then .error .nameTooLong else .ok () := by
  unfold checkLookup
  rw [checkPath_of_isName h]
  simp only [bind, Except.bind]
  split_ifs <;> rfl

end Files

/-! ## Link-free directories of a world -/

namespace World

open Files Entry

theorem entry_error {w : World} {p : Path} {f : FileFault} (h : w.entry p = .error f) :
    isAbsence f ∨ f = .nameTooLong := by
  unfold World.entry Files.entry follow at h
  cases hlook : checkLookup p with
  | error g =>
    simp only [hlook, bind, Except.bind] at h
    obtain rfl := Except.error.inj h
    rcases checkLookup_error hlook with rfl | rfl | rfl
    · exact Or.inl rfl
    · exact Or.inl rfl
    · exact Or.inr rfl
  | ok u =>
    simp only [hlook, bind, Except.bind] at h
    rcases hfollow : followNames w.tree true maxLinks (if p.isAbsolute then [] else w.current)
      p.names with g | ⟨names, e | _⟩
    · rw [hfollow] at h
      obtain rfl := Except.error.inj h
      rcases followNames_error hfollow with (rfl | rfl | rfl) | rfl
      · exact Or.inl rfl
      · exact Or.inl rfl
      · exact Or.inr rfl
      · exact Or.inl rfl
    · rw [hfollow] at h
      obtain rfl := Except.error.inj h
      exact Or.inl rfl
    · rw [hfollow] at h
      cases h

/-- The system refuses to answer only if a path or a name in it is too long. -/
theorem holds_error {w : World} {test : Entry → Bool} {p : Path} {f : FileFault}
    (h : w.holds test p = .error f) : f = .nameTooLong := by
  unfold World.holds at h
  cases hentry : w.entry p with
  | ok e =>
    rw [hentry] at h
    cases h
  | error g =>
    simp only [hentry] at h
    split_ifs at h with habsence
    obtain rfl := Except.error.inj h
    exact (entry_error hentry).resolve_left habsence

/-- A directory of a well-named world, with these entries, below which there is no link. -/
structure LinkFreeAt (w : World) (here : List Text) (es : List (Text × Entry)) : Prop where
  found : w.tree.get? here = some (.directory es)
  named : w.tree.isWellNamed
  free : (Entry.directory es).isLinkFree

theorem entry_absolute (w : World) {names : List Text} (h : checkLookup ⟨1, names⟩ = .ok ()) :
    w.entry ⟨1, names⟩ =
      match followNames w.tree true maxLinks [] names with
      | .ok (_, some e) => .ok e
      | .ok (_, none) => .error .notFound
      | .error f => .error f := by
  have habs : (Path.mk 1 names).isAbsolute = true := rfl
  simp only [World.entry, Files.entry, follow, h, bind, Except.bind, habs, if_true]
  rcases followNames w.tree true maxLinks [] names with f | ⟨there, e | _⟩ <;> rfl

namespace LinkFreeAt

variable {w : World} {here rest : List Text} {es cs : List (Text × Entry)} {n : Text} {e : Entry}

theorem isName_here (h : w.LinkFreeAt here es) : ∀ n ∈ here, isName n :=
  (isWellNamed_get? h.named h.found).2

theorem named_here (h : w.LinkFreeAt here es) : (Entry.directory es).isWellNamed :=
  (isWellNamed_get? h.named h.found).1

theorem nodup (h : w.LinkFreeAt here es) : (es.map Prod.fst).Nodup := by
  have := h.named_here
  rw [isWellNamed, Bool.and_eq_true] at this
  exact of_decide_eq_true this.1

/-- A directory below a link-free one is link free. -/
theorem below (h : w.LinkFreeAt here es) (hcs : w.tree.get? (here ++ rest) = some (.directory cs)) :
    w.LinkFreeAt (here ++ rest) cs := by
  have hrest : (Entry.directory es).get? rest = some (.directory cs) := by
    rwa [get?_append, h.found, Option.bind_some] at hcs
  exact ⟨hcs, h.named, isLinkFree_get? h.free hrest⟩

theorem get?_of_mem (h : w.LinkFreeAt here es) (hmem : (n, e) ∈ es) :
    w.tree.get? (here ++ [n]) = some e := by
  rw [get?_child h.found, lookup_of_mem h.nodup hmem]

theorem mem_inOrder_iff (h : w.LinkFreeAt here es) :
    (n, e) ∈ inOrder es ↔ w.tree.get? (here ++ [n]) = some e := by
  rw [mem_inOrder]
  refine ⟨h.get?_of_mem, fun hget => ?_⟩
  rw [get?_child h.found] at hget
  exact mem_of_lookup hget

theorem not_link_of_mem (h : w.LinkFreeAt here es) {target : Text} :
    (n, .link target) ∉ es := by
  intro hmem
  have := mem_of_areLinkFree h.free hmem
  simp [isLinkFree] at this

/-- Nothing is where the system refuses a path for another reason than its length. -/
theorem get?_eq_none_of_refused (h : w.LinkFreeAt here es) {names : List Text} {f : FileFault}
    (hlook : checkLookup ⟨1, names⟩ = .error f) (hf : f ≠ .nameTooLong) :
    w.tree.get? names = none := by
  by_contra hne
  obtain ⟨e, he⟩ := Option.ne_none_iff_exists'.1 hne
  rw [checkLookup_of_isName (isWellNamed_get? h.named he).2] at hlook
  split_ifs at hlook
  exact hf (Except.error.inj hlook).symm

/-- In a link-free directory, a look-up follows no link. -/
theorem followNames_cases (h : w.LinkFreeAt here es) (hrest : Path.NoDots rest) :
    (∃ e, w.tree.get? (here ++ rest) = some e ∧
      followNames w.tree true maxLinks [] (here ++ rest) = .ok (here ++ rest, some e)) ∨
    (w.tree.get? (here ++ rest) = none ∧
      (followNames w.tree true maxLinks [] (here ++ rest) = .ok (here ++ rest, none) ∨
        ∃ f, IsMiss f ∧ followNames w.tree true maxLinks [] (here ++ rest) = .error f)) := by
  have hstraight : advance w.tree true [] (here ++ rest) = advance w.tree true here rest := by
    simpa using advance_append true [] h.isName_here (by simpa using h.found) rest
  rw [followNames, hstraight]
  rcases advance_linkFree true h.found h.named_here h.free hrest with
    ⟨e, he, -, hadv⟩ | ⟨hnone, hadv | ⟨f, hf, hadv⟩⟩
  · rw [hadv]
    exact Or.inl ⟨e, he, rfl⟩
  · rw [hadv]
    exact Or.inr ⟨hnone, Or.inl rfl⟩
  · rw [hadv]
    exact Or.inr ⟨hnone, Or.inr ⟨f, hf, rfl⟩⟩

/-- In a link-free directory the system finds what is there, misses it, or refuses the path. -/
theorem entry_cases (h : w.LinkFreeAt here es) (hrest : Path.NoDots rest) :
    (∃ e, w.tree.get? (here ++ rest) = some e ∧ w.entry ⟨1, here ++ rest⟩ = .ok e) ∨
    (∃ f, w.entry ⟨1, here ++ rest⟩ = .error f ∧
      (f = .nameTooLong ∨ w.tree.get? (here ++ rest) = none ∧ isAbsence f)) := by
  cases hlook : checkLookup ⟨1, here ++ rest⟩ with
  | error f =>
    refine Or.inr ⟨f, ?_, ?_⟩
    · simp only [World.entry, Files.entry, follow, hlook, bind, Except.bind]
    · rcases checkLookup_error hlook with rfl | rfl | rfl
      · exact Or.inr ⟨h.get?_eq_none_of_refused hlook (by decide), rfl⟩
      · exact Or.inr ⟨h.get?_eq_none_of_refused hlook (by decide), rfl⟩
      · exact Or.inl rfl
  | ok u =>
    have hentry := w.entry_absolute hlook
    rcases h.followNames_cases hrest with ⟨e, he, hfollow⟩ | ⟨hnone, hfollow | ⟨f, hf, hfollow⟩⟩
    · rw [hfollow] at hentry
      exact Or.inl ⟨e, he, hentry⟩
    · rw [hfollow] at hentry
      exact Or.inr ⟨_, hentry, Or.inr ⟨hnone, rfl⟩⟩
    · rw [hfollow] at hentry
      refine Or.inr ⟨f, hentry, ?_⟩
      rcases hf with rfl | rfl | rfl
      · exact Or.inr ⟨hnone, rfl⟩
      · exact Or.inr ⟨hnone, rfl⟩
      · exact Or.inl rfl

/-- The system answers with what is there. -/
theorem holds_eq_ok (h : w.LinkFreeAt here es) (hrest : Path.NoDots rest) {test : Entry → Bool}
    {b : Bool} (hb : w.holds test ⟨1, here ++ rest⟩ = .ok b) :
    (w.tree.get? (here ++ rest)).any test = b := by
  rw [World.holds] at hb
  rcases h.entry_cases hrest with ⟨e, he, hentry⟩ | ⟨f, hentry, rfl | ⟨hnone, hf⟩⟩
  · rw [hentry] at hb
    rw [he]
    exact Except.ok.inj hb
  · rw [hentry] at hb
    cases hb
  · rw [hentry] at hb
    simp only [hf, if_true, Except.ok.injEq] at hb
    rw [hnone, ← hb]
    rfl

/-- What the system says to be there can be looked at. -/
theorem entry_of_holds (h : w.LinkFreeAt here es) (hrest : Path.NoDots rest)
    {test : Entry → Bool} (hb : w.holds test ⟨1, here ++ rest⟩ = .ok true) :
    ∃ e, w.tree.get? (here ++ rest) = some e ∧ test e ∧ w.entry ⟨1, here ++ rest⟩ = .ok e := by
  have hany := h.holds_eq_ok hrest hb
  rw [World.holds] at hb
  rcases h.entry_cases hrest with ⟨e, he, hentry⟩ | ⟨f, hentry, -⟩
  · rw [hentry] at hb
    exact ⟨e, he, Except.ok.inj hb, hentry⟩
  · rw [hentry] at hb
    simp only at hb
    split_ifs at hb
    simp at hb

/-- A directory can be looked at unless its path is too long. -/
theorem entry_self (h : w.LinkFreeAt here es) :
    w.entry ⟨1, here⟩ =
      if pathBound ≤ byteLength (Path.toText ⟨1, here⟩) then .error .nameTooLong
      else .ok (.directory es) := by
  have hlook := checkLookup_of_isName (k := 1) h.isName_here
  split_ifs at hlook ⊢ with hlong
  · simp only [World.entry, Files.entry, follow, hlook, bind, Except.bind]
  · have hstraight := advance_append true [] h.isName_here h.found []
    rw [List.append_nil, List.nil_append] at hstraight
    rw [w.entry_absolute hlook, followNames, hstraight, advance, h.found]

/-- Unless a path is too long, the system tells what is there under a name in a directory. -/
theorem holds_name (h : w.LinkFreeAt here es) (hn : isName n) (test : Entry → Bool) :
    w.holds test ⟨1, here ++ [n]⟩ =
      if pathBound ≤ byteLength (Path.toText ⟨1, here ++ [n]⟩) then .error .nameTooLong
      else .ok ((w.tree.get? (here ++ [n])).any test) := by
  have hnames : ∀ m ∈ here ++ [n], isName m := by
    simpa [or_imp, forall_and] using And.intro h.isName_here hn
  have hlook := checkLookup_of_isName (k := 1) hnames
  split_ifs at hlook ⊢ with hlong
  · simp only [World.holds, World.entry, Files.entry, follow, hlook, bind, Except.bind]
    rfl
  · have hstraight := advance_append true [] h.isName_here h.found [n]
    rw [List.nil_append] at hstraight
    rw [World.holds, w.entry_absolute hlook, followNames, hstraight, get?_child h.found, advance,
      h.found]
    simp only [not_dots_of_isName hn, Nat.not_lt.2 (byteLength_le_of_isName hn),
      Bool.false_eq_true, if_false]
    cases hc : es.lookup n with
    | none => rfl
    | some c =>
      cases c with
      | link target => exact absurd (mem_of_lookup hc) h.not_link_of_mem
      | _ =>
        simp only [advance, get?_child h.found, hc]
        rfl

/-- A directory can be looked at if the system answers for a name in it. -/
theorem entry_here (h : w.LinkFreeAt here es) (hn : isName n) {test : Entry → Bool} {b : Bool}
    (hb : w.holds test ⟨1, here ++ [n]⟩ = .ok b) : w.entry ⟨1, here⟩ = .ok (.directory es) := by
  rw [h.holds_name hn] at hb
  split_ifs at hb with hshort
  rw [h.entry_self, if_neg]
  exact fun hlong => hshort (Nat.le_trans hlong (byteLength_le_child here n))

/-! ### Real paths -/

theorem not_link_on_way (h : w.LinkFreeAt here es) (hrest : Path.NoDots rest)
    {there names : List Text} {target : Text} (hpre : there <+: here ++ rest) :
    follow w.tree [] ⟨1, there⟩ false ≠ .ok (names, some (.link target)) := by
  intro hfollow
  have hlook : checkLookup ⟨1, there⟩ = .ok () := by
    cases hl : checkLookup ⟨1, there⟩ with
    | ok u => rfl
    | error f => simp [follow, hl, bind, Except.bind] at hfollow
  have habs : (Path.mk 1 there).isAbsolute = true := rfl
  simp only [follow, hlook, bind, Except.bind, habs, if_true] at hfollow
  rw [followNames] at hfollow
  rcases Nat.le_total there.length here.length with hle | hle
  · -- an ancestor of the link-free directory is a directory
    obtain ⟨more, rfl⟩ := List.prefix_of_prefix_length_le hpre (List.prefix_append _ _) hle
    obtain ⟨ds, hds⟩ : ∃ ds, w.tree.get? there = some (.directory ds) := by
      cases more with
      | nil => exact ⟨es, by simpa using h.found⟩
      | cons m ms =>
        obtain ⟨ds, -, hds, -⟩ := get?_append_cons h.found
        exact ⟨ds, hds⟩
    have hstraight := advance_append false [] (isWellNamed_get? h.named hds).2 hds []
    rw [List.append_nil, List.nil_append] at hstraight
    rw [hstraight, advance, hds] at hfollow
    simp at hfollow
  · obtain ⟨more, rfl⟩ := List.prefix_of_prefix_length_le (List.prefix_append _ _) hpre hle
    have hmore : Path.NoDots more := fun n hn =>
      hrest n (((List.prefix_append_right_inj here).1 hpre).subset hn)
    have hstraight : advance w.tree false [] (here ++ more) = advance w.tree false here more := by
      simpa using advance_append false [] h.isName_here (by simpa using h.found) more
    rw [hstraight] at hfollow
    rcases advance_linkFree false h.found h.named_here h.free hmore with
      ⟨e, -, hfree, hadv⟩ | ⟨-, hadv | ⟨f, -, hadv⟩⟩ <;> rw [hadv] at hfollow
    · simp only [Except.ok.injEq, Prod.mk.injEq, Option.some.injEq] at hfollow
      rw [hfollow.2] at hfree
      simp [isLinkFree] at hfree
    · simp at hfollow
    · cases hfollow

/-- Without links, no look-up runs in a circle. -/
theorem follow_ne_linkLoop (h : w.LinkFreeAt here es) (hrest : Path.NoDots rest) :
    follow w.tree w.current ⟨1, here ++ rest⟩ ≠ .error .linkLoop := by
  intro hloop
  have habs : (Path.mk 1 (here ++ rest)).isAbsolute = true := rfl
  unfold follow at hloop
  cases hlook : checkLookup ⟨1, here ++ rest⟩ with
  | error f =>
    rw [hlook] at hloop
    obtain rfl := Except.error.inj hloop
    simpa using checkLookup_error hlook
  | ok u =>
    simp only [hlook, bind, Except.bind, habs, if_true] at hloop
    rcases h.followNames_cases hrest with ⟨e, -, hfollow⟩ | ⟨-, hfollow | ⟨f, hf, hfollow⟩⟩
    · rw [hfollow] at hloop
      cases hloop
    · rw [hfollow] at hloop
      cases hloop
    · rw [hfollow] at hloop
      obtain rfl := Except.error.inj hloop
      simp [IsMiss] at hf

/-- A path without double dots in a link-free directory is its own real path, if the system can be
handed it at all. -/
theorem resolve_straight (h : w.LinkFreeAt here es) (hrest : Path.NoDots rest) :
    w.resolve ⟨1, here ++ rest⟩ = (checkPath ⟨1, here ++ rest⟩).map fun _ => ⟨1, here ++ rest⟩ := by
  have hdots : Path.NoDots (here ++ rest) :=
    Path.NoDots.append (fun n hn => not_dots_of_isName (h.isName_here n hn)) hrest
  have hfuel : (here ++ rest).length <
      ((here ++ rest).length + 1) * (linkNames w.tree + 2) + 2 := by
    have hpos : 0 < linkNames w.tree + 2 := by omega
    have := Nat.le_mul_of_pos_right ((here ++ rest).length + 1) hpos
    omega
  have hstraight := resolveNames_straight [] [] hfuel hdots
    fun there hpre names target => h.not_link_on_way hrest hpre
  have habs : (Path.mk 1 (here ++ rest)).isAbsolute = true := rfl
  unfold World.resolve realPath
  cases hc : checkPath ⟨1, here ++ rest⟩ with
  | error f => rfl
  | ok u =>
    simp only [bind, Except.bind, habs, if_true, hstraight, List.nil_append,
      Path.withoutDots_of_noDots hdots]
    split
    · rename_i hloop
      exact absurd hloop (h.follow_ne_linkLoop hrest)
    · rfl

theorem resolve_eq (h : w.LinkFreeAt here es) (hrest : Path.NoDots rest) {p : Path}
    (hp : w.resolve ⟨1, here ++ rest⟩ = .ok p) : p = ⟨1, here ++ rest⟩ := by
  rw [h.resolve_straight hrest] at hp
  cases hc : checkPath ⟨1, here ++ rest⟩ with
  | error f =>
    rw [hc] at hp
    cases hp
  | ok u =>
    rw [hc] at hp
    exact (Except.ok.inj hp).symm

end LinkFreeAt

/-- A path has no real path only if it cannot be written. -/
theorem resolve_error {w : World} {es : List (Text × Entry)} (h : w.LinkFreeAt [] es) {p : Path}
    {f : FileFault} (hf : w.resolve p = .error f) : f = .unencodable ∨ f = .nulCharacter := by
  unfold World.resolve realPath at hf
  cases hc : checkPath p with
  | error g =>
    simp only [hc, bind, Except.bind] at hf
    obtain rfl := Except.error.inj hf
    exact checkPath_error hc
  | ok u =>
    simp only [hc, bind, Except.bind] at hf
    split at hf
    · rename_i hloop
      exact absurd hloop (h.follow_ne_linkLoop (Path.noDots_withoutDots _))
    · cases hf

/-- A real path is absolute and holds no double dots. -/
theorem resolve_shape {w : World} {p q : Path} (h : w.resolve p = .ok q) :
    q.root = 1 ∧ Path.NoDots q.names := by
  unfold World.resolve realPath at h
  cases hc : checkPath p with
  | error f => simp [hc, bind, Except.bind] at h
  | ok u =>
    simp only [hc, bind, Except.bind] at h
    split at h
    · cases h
    · obtain rfl := (Except.ok.inj h).symm
      exact ⟨rfl, Path.noDots_withoutDots _⟩

end World

end SourceDocs
