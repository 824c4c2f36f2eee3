import SourceDocs.Proofs.Files.LinkFree
import SourceDocs.Proofs.Files.Placing

/-!
# Tidy names

In a file system every name stands between slashes and none is a dot or two, and the names of a path
that is read from a text stand between slashes.  Look-ups in a tidy tree lead to such names, whether
anything is there or not, and what is put where a path leads keeps a tree tidy.
-/

namespace SourceDocs

open Files Entry World

/-! ## Names of paths -/

namespace Lines

theorem not_mem_of_mem_splitAtFrom {mark : CodePoint} {current t n : Text}
    (hcurrent : mark ∉ current) (h : n ∈ splitAtFrom mark current t) : mark ∉ n := by
  induction t generalizing current with
  | nil =>
    rw [splitAtFrom, List.mem_singleton] at h
    rw [h, List.mem_reverse]
    exact hcurrent
  | cons c rest ih =>
    rw [splitAtFrom] at h
    split_ifs at h with hc
    · rcases List.mem_cons.1 h with rfl | h
      · rw [List.mem_reverse]
        exact hcurrent
      · exact ih List.not_mem_nil h
    · refine ih (fun hmem => ?_) h
      rcases List.mem_cons.1 hmem with rfl | hmem
      · exact hc rfl
      · exact hcurrent hmem

end Lines

namespace Path

/-- All names are parts of paths. -/
def AreParts (names : List Text) : Prop := ∀ n ∈ names, IsPart n

/-- All names are parts of paths and lead down. -/
def AreLabels (names : List Text) : Prop := AreParts names ∧ NoDots names

instance (names : List Text) : Decidable (AreParts names) :=
  inferInstanceAs (Decidable (∀ n ∈ names, vanishes n = false ∧ CodePoint.ofChar '/' ∉ n))

theorem AreParts.append {names rest : List Text} (h : AreParts names) (hrest : AreParts rest) :
    AreParts (names ++ rest) := fun n hn => (List.mem_append.1 hn).elim (h n) (hrest n)

theorem AreParts.nil : AreParts [] := fun _ hn => absurd hn List.not_mem_nil

theorem AreLabels.append {names rest : List Text} (h : AreLabels names) (hrest : AreLabels rest) :
    AreLabels (names ++ rest) := ⟨h.1.append hrest.1, h.2.append hrest.2⟩

theorem areLabels_of_isName {names : List Text} (h : ∀ n ∈ names, isName n) : AreLabels names :=
  ⟨fun n hn => isPart_of_isName (h n hn), fun n hn => not_dots_of_isName (h n hn)⟩

/-- The names of a text are parts. -/
theorem areParts_ofText (t : Text) : AreParts (ofText t).names := by
  intro n hn
  obtain ⟨hmem, hvanishes⟩ := List.mem_filter.1 hn
  rw [Bool.not_eq_true'] at hvanishes
  exact ⟨hvanishes, Lines.not_mem_of_mem_splitAtFrom List.not_mem_nil hmem⟩

/-- A part and a slash at the beginning of a text are one name of it. -/
theorem ofText_part_slash {n : Text} (hn : IsPart n) (t : Text) :
    ofText (n ++ CodePoint.ofChar '/' :: t) =
      ⟨0, n :: (Lines.splitAt '/' t).filter fun m => !vanishes m⟩ := by
  obtain ⟨c, cs, rfl⟩ : ∃ c cs, n = c :: cs := by
    refine List.exists_cons_of_ne_nil fun hnil => ?_
    rw [hnil] at hn
    cases hn.1
  have hc : ¬ c.toChar = '/' := fun hc =>
    hn.2 (CodePoint.eq_of_toChar_slash hc ▸ List.mem_cons_self)
  have hslashes : ((c :: cs) ++ CodePoint.ofChar '/' :: t).takeWhile (fun c => c.toChar = '/') =
      [] := by simp [hc]
  have hsplit : Lines.splitAt '/' ((c :: cs) ++ CodePoint.ofChar '/' :: t) =
      (c :: cs) :: Lines.splitAt '/' t := Lines.splitAtFrom_append [] hn.2 t
  unfold ofText
  simp only [hslashes, List.length_nil, List.drop_zero, hsplit]
  rw [List.filter_cons_of_pos (by simp [hn.1])]
  rfl

theorem AreParts.child {p : Path} (h : AreParts p.names) (t : Text) :
    AreParts (p.child t).names := by
  unfold Path.child Path.join
  split_ifs
  · exact areParts_ofText t
  · exact h.append (areParts_ofText t)

theorem AreParts.dropLast {names : List Text} (h : AreParts names) : AreParts names.dropLast :=
  fun n hn => h n (List.dropLast_subset _ hn)

theorem mem_foldl_keepName {done names : List Text} {n : Text}
    (h : n ∈ names.foldl keepName done) : n ∈ done ∨ n ∈ names := by
  induction names generalizing done with
  | nil => exact .inl h
  | cons m rest ih =>
    rcases ih h with h | h
    · unfold keepName at h
      split_ifs at h
      · exact .inl (List.mem_of_mem_drop h)
      · rcases List.mem_cons.1 h with rfl | h
        · exact .inr List.mem_cons_self
        · exact .inl h
    · exact .inr (List.mem_cons_of_mem _ h)

theorem AreParts.withoutDots {names : List Text} (h : AreParts names) :
    AreLabels (withoutDots names) := by
  refine ⟨fun n hn => h n ?_, noDots_withoutDots names⟩
  rw [withoutDots_eq_foldl, List.mem_reverse] at hn
  exact (mem_foldl_keepName hn).resolve_left List.not_mem_nil

/-- A path from the root with tidy names. -/
structure IsReal (p : Path) : Prop where
  root : p.root = 1
  names : AreLabels p.names

theorem IsReal.child {p : Path} (h : p.IsReal) {n : Text} (hn : AreLabels [n]) :
    IsReal ⟨p.root, p.names ++ [n]⟩ := ⟨h.root, h.names.append hn⟩

/-- What is left of two lists without what they begin with alike is at their ends. -/
theorem dropCommon_suffix (as bs : List Text) : (dropCommon as bs).2 <:+ bs := by
  induction as generalizing bs with
  | nil => cases bs <;> exact List.suffix_refl _
  | cons a as ih =>
    cases bs with
    | nil => exact List.suffix_refl _
    | cons b bs =>
      rw [dropCommon]
      split_ifs
      · exact (ih bs).trans (List.suffix_cons b bs)
      · exact List.suffix_refl _

/-- The way between real paths has no slash at its beginning. -/
theorem IsReal.head?_relativeTo {p : Path} (h : p.IsReal) (start : Path) :
    (p.relativeTo start).toText.head? ≠ some (CodePoint.ofChar '/') := by
  have hparts : AreParts (p.relativeTo start).names := by
    refine AreParts.append (fun n hn => ?_) fun n hn => ?_
    · obtain ⟨m, -, rfl⟩ := List.mem_map.1 hn
      constructor <;> decide +kernel
    · rw [withoutDots_of_noDots h.names.2] at hn
      exact h.names.1 n ((dropCommon_suffix _ _).subset hn)
  have hrel : p.relativeTo start = ⟨0, (p.relativeTo start).names⟩ := rfl
  cases hnames : (p.relativeTo start).names with
  | nil =>
    rw [hrel, hnames]
    decide +kernel
  | cons n rest =>
    rw [hnames] at hparts
    obtain ⟨hvanishes, hslash⟩ := hparts n List.mem_cons_self
    rw [hrel, hnames, toText_relative (List.cons_ne_nil n rest)]
    cases n with
    | nil => cases hvanishes
    | cons c cs =>
      intro hhead
      have hc : c = CodePoint.ofChar '/' := by cases rest <;> exact Option.some.inj hhead
      exact hslash (hc ▸ List.mem_cons_self)

/-- The way down to a path is what its names have more. -/
theorem IsReal.relativeTo_of_above {p root : Path} (h : p.IsReal) (hroot : root.IsReal)
    (hway : root.names <+: p.names) :
    ∃ rest, AreLabels rest ∧ p.relativeTo root = ⟨0, rest⟩ := by
  obtain ⟨k, names⟩ := p
  obtain ⟨j, above⟩ := root
  obtain ⟨rest, rfl⟩ := hway
  obtain rfl : k = 1 := h.root
  obtain rfl : j = 1 := hroot.root
  refine ⟨rest, ⟨fun n hn => h.names.1 n ?_, fun n hn => h.names.2 n ?_⟩, ?_⟩
  · exact List.mem_append_right _ hn
  · exact List.mem_append_right _ hn
  · exact relativeTo_append h.names.2

end Path

/-! ## Trees -/

/-- All that is in a tree has a name that a path can lead to. -/
def Entry.Tidy (t : Entry) : Prop := ∀ names k, t.kind? names = some k → Path.AreLabels names

theorem Entry.tidy_of_isWellNamed {t : Entry} (h : t.isWellNamed) : t.Tidy := by
  intro names k hk
  obtain ⟨e, he, -⟩ := Option.map_eq_some_iff.1 hk
  exact Path.areLabels_of_isName (isWellNamed_get? h he).2

theorem Entry.Tidy.set {t e : Entry} {names : List Text} (h : t.Tidy) (hfits : Fits t names e)
    (hnames : Path.AreLabels names) : (t.set names e).Tidy := by
  intro there k hk
  rw [hfits.kind?_set] at hk
  split_ifs at hk with hthere
  · exact hthere ▸ hnames
  · exact h there k hk

/-- A way leads to tidy names, whether anything is there or not. -/
theorem Files.Leads.areLabels {t : Entry} {k : Nat} {here rest names : List Text}
    {found : Option Entry} (h : Leads t k here rest (names, found)) (ht : t.Tidy)
    (hrest : Path.AreParts rest) : Path.AreLabels names := by
  have htail {n : Text} {rest : List Text} (h : Path.AreParts (n :: rest)) : Path.AreParts rest :=
    fun m hm => h m (List.mem_cons_of_mem _ hm)
  generalize hr : (names, found) = r at h
  induction h with
  | @here k here e he =>
    cases hr
    exact ht _ e.kind (by rw [kind?, he, Option.map_some])
  | free hdir hplain _ =>
    cases hr
    refine (ht _ _ hdir).append ⟨hrest, fun m hm => ?_⟩
    rw [List.mem_singleton.1 hm]
    exact hplain.1
  | up _ _ _ ih => exact ih (htail hrest) hr
  | link _ _ _ _ ih => exact ih ((Path.areParts_ofText _).append (htail hrest)) hr
  | into _ _ _ _ _ ih => exact ih (htail hrest) hr

/-- The names that links have led to are parts. -/
def Files.Seen.AreParts (seen : Seen) : Prop :=
  ∀ names known, (names, some known) ∈ seen → Path.AreParts known

theorem Files.Seen.AreParts.nil : Seen.AreParts [] := fun _ _ hmem => absurd hmem List.not_mem_nil

theorem Files.Seen.AreParts.met {seen : Seen} (h : seen.AreParts) (there : List Text) :
    Seen.AreParts ((there, none) :: seen) := by
  intro names known hmem
  rcases List.mem_cons.1 hmem with hfalse | hmem
  · cases hfalse
  · exact h names known hmem

theorem Files.Seen.AreParts.resolved {seen : Seen} (h : seen.AreParts) (there : List Text)
    {known : List Text} (hknown : Path.AreParts known) :
    Seen.AreParts ((there, some known) :: seen) := by
  intro names known' hmem
  rcases List.mem_cons.1 hmem with heq | hmem
  · cases heq
    exact hknown
  · exact h names known' hmem

/-- Resolving a path gives no names but those of the path, of links and of the start. -/
theorem Files.areParts_resolveNames (t : Entry) (fuel : Nat) {here rest : List Text} {seen : Seen}
    (hhere : Path.AreParts here) (hrest : Path.AreParts rest) (hseen : seen.AreParts) :
    Path.AreParts (resolveNames t fuel here rest seen).1.1 ∧
      (resolveNames t fuel here rest seen).2.AreParts := by
  induction fuel generalizing here rest seen with
  | zero =>
    rw [resolveNames]
    exact ⟨hhere.append hrest, hseen⟩
  | succ fuel ih =>
    cases rest with
    | nil =>
      rw [resolveNames]
      · exact ⟨hhere, hseen⟩
      · exact Nat.succ_ne_zero fuel
    | cons n more =>
      have hmore : Path.AreParts more := fun m hm => hrest m (List.mem_cons_of_mem _ hm)
      have hthere : Path.AreParts (here ++ [n]) := hhere.append fun m hm => by
        rw [List.mem_singleton.1 hm]
        exact hrest n List.mem_cons_self
      have hstart (target : Text) :
          Path.AreParts (if (targetNames target).1 then [] else here) := by
        split_ifs
        · exact .nil
        · exact hhere
      rw [resolveNames]
      split_ifs
      · exact ih hhere.dropLast hmore hseen
      · simp only
        split
        · split
          · rename_i known hknown
            obtain ⟨before, after, rfl, -⟩ := List.lookup_eq_some_iff.1 hknown
            exact ih (hseen _ known (List.mem_append_right _ List.mem_cons_self)) hmore hseen
          · exact ⟨hthere.append hmore, hseen⟩
          · rename_i target _ _ _
            have htarget : Path.AreParts (targetNames target).2 := Path.areParts_ofText target
            obtain ⟨hfound, hseen'⟩ := ih (hstart target) htarget (hseen.met (here ++ [n]))
            split
            · rename_i found seen' hresolved
              rw [hresolved] at hfound hseen'
              exact ih hfound hmore (hseen'.resolved _ hfound)
            · rename_i found seen' hresolved
              rw [hresolved] at hfound hseen'
              exact ⟨hfound.append hmore, hseen'⟩
        · exact ih hthere hmore hseen

/-! ## Worlds -/

namespace World

variable {w v : World} {p q : Path} {names : List Text} {e : Entry} {found : Option Entry}

/-- All that is in the tree has a name that a path can lead to, and so has the current directory. -/
structure Tidy (w : World) : Prop where
  tree : w.tree.Tidy
  current : Path.AreParts w.current

theorem Tidy.of_isWellNamed (h : w.tree.isWellNamed) (hcurrent : ∀ n ∈ w.current, isName n) :
    w.Tidy := ⟨Entry.tidy_of_isWellNamed h, (Path.areLabels_of_isName hcurrent).1⟩

theorem Tidy.of_sameFiles (h : w.Tidy) (hsame : w.SameFiles v) : v.Tidy :=
  ⟨hsame.tree ▸ h.tree, hsame.current ▸ h.current⟩

theorem Tidy.leadsTo (h : w.Tidy) (hp : Path.AreParts p.names)
    (hleads : w.LeadsTo p (names, found)) : Path.AreLabels names :=
  Leads.areLabels hleads h.tree hp

theorem Tidy.put (h : w.Tidy) (hfits : Fits w.tree names e) (hnames : Path.AreLabels names) :
    (w.put names e).Tidy := ⟨h.tree.set hfits hnames, h.current⟩

/-- What is in a directory has a name that leads down. -/
theorem Tidy.inside (h : w.Tidy) {es : List (Text × Entry)} {n : Text}
    (hentry : w.entry p = .ok (.directory es)) (hmem : (n, e) ∈ es) : Path.AreLabels [n] := by
  obtain ⟨-, place, hleads⟩ := entry_eq_ok.1 hentry
  obtain ⟨c, hc⟩ : ∃ c, es.lookup n = some c := by
    rw [← Option.isSome_iff_exists, List.lookup_isSome_iff]
    exact ⟨(n, e), hmem, beq_self_eq_true n⟩
  have hkind : w.tree.kind? (place ++ [n]) = some c.kind := by
    rw [lookup_kind (Leads.get? hleads), hc, Option.map_some]
  obtain ⟨hparts, hdots⟩ := h.tree _ _ hkind
  exact ⟨fun m hm => hparts m (List.mem_append_right _ hm),
    fun m hm => hdots m (List.mem_append_right _ hm)⟩

/-- A real path has tidy names. -/
theorem Tidy.resolve (h : w.Tidy) (hp : Path.AreParts p.names) (hq : w.resolve p = .ok q) :
    q.IsReal := by
  have hstart : Path.AreParts (if p.isAbsolute then [] else w.current) := by
    split_ifs
    · exact .nil
    · exact h.current
  unfold World.resolve realPath at hq
  cases hc : checkPath p with
  | error f =>
    rw [hc] at hq
    cases hq
  | ok u =>
    simp only [hc, bind, Except.bind] at hq
    split at hq
    · cases hq
    · obtain rfl := (Except.ok.inj hq).symm
      exact ⟨rfl, (areParts_resolveNames w.tree _ hstart hp .nil).1.withoutDots⟩

/-- The way between real paths does not depend on the current directory. -/
theorem relative_of_isReal (w : World) (hp : p.IsReal) (hq : q.IsReal) :
    w.relative p q = p.relativeTo q := by
  have habsolute {p : Path} (hp : p.IsReal) : w.absolute p = p := by
    obtain ⟨root, names⟩ := p
    obtain rfl : root = 1 := hp.root
    exact congrArg (Path.mk 1) (Path.withoutDots_of_noDots hp.names.2)
  rw [World.relative, habsolute hp, habsolute hq]

theorem Tidy.makes (h : w.Tidy) (hp : Path.AreParts p.names)
    (hmakes : Relation.ReflTransGen (Action.Makes p) w v) : v.Tidy := by
  induction hmakes with
  | refl => exact h
  | tail _ hmake ih =>
    obtain ⟨-, hway, hleads⟩ := hmake
    exact ih.put hleads.fits_empty (ih.leadsTo (fun n hn => hp n (hway.subset hn)) hleads)

end World

end SourceDocs
