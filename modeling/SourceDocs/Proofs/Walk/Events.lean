import SourceDocs.Proofs.Walk.Walked

/-!
# What a walk finds

By induction on derivations (`Walk.Walked`): everything a walk finds is in a directory that it
reaches (`Walked.expects`), a walk that ends well finds all that is there (`Walked.complete`), and
it ends well if and only if the system answers in all those directories and enough calls are left
there (`Walked.ok_iff`).  Nothing
is found twice on ways that do not meet again (`Walked.nodup_path`).  If packages keep their sources
below themselves, files come in the order of their names (`Walked.pairwise_files`) and belong to the
nearest package (`Walked.nearest`).
-/

namespace SourceDocs

namespace Walk

open World

variable {w : World} {root here there next : List Text} {package : Option Descriptor} {s : Stage}
  {r : Except Failure Unit} {found : List Event} {room : Nat}

/-! ## Where a walk goes next -/

theorem enters_iff_child (h : w.descriptorData? here = none) :
    Enters w here next ↔
      ∃ n es, next = here ++ [n] ∧ w.tree.get? (here ++ [n]) = some (.directory es) := by
  constructor
  · intro henters
    cases henters with
    | child _ hget => exact ⟨_, _, rfl, hget⟩
    | sources hat _ => exact absurd h (descriptorData?_of_sourcesAt? hat)
  · rintro ⟨n, es, rfl, hget⟩
    exact .child h hget

theorem enters_iff_sources (h : w.descriptorData? here ≠ none) :
    Enters w here next ↔
      ∃ src, w.sourcesAt? here = some src ∧ next = src.names ∧
        ∃ es, w.tree.get? src.names = some (.directory es) := by
  constructor
  · intro henters
    cases henters with
    | child hnone _ => exact absurd hnone h
    | sources hat hget => exact ⟨_, hat, rfl, _, hget⟩
  · rintro ⟨src, hat, rfl, es, hget⟩
    exact .sources hat hget

theorem reachable_of_no_enters (h : ∀ next, ¬ Enters w here next) :
    Reachable w here there ↔ there = here := by
  rw [reachable_iff]
  constructor
  · rintro (heq | ⟨next, henters, -⟩)
    · exact heq
    · exact absurd henters (h next)
  · exact Or.inl

namespace Stage

/-- The directories that a walk still reaches. -/
def Reaches (w : World) : Stage → List Text → Prop
  | .directory here _, there => Reachable w here there
  | .entries here _ left, there =>
    ∃ n cs, (n, .directory cs) ∈ left ∧ Reachable w (here ++ [n]) there

/-- The files, by their directories and names, that a walk still comes to. -/
def Offers (w : World) : Stage → List Text → Text → Prop
  | .directory here _, there, n => Reachable w here there ∧ FileIn w there n
  | .entries here outer left, there, n =>
    (there = here ∧ FileIn w here n ∧ ∃ data, (n, .file data) ∈ left) ∨
      (Reaches w (.entries here outer left) there ∧ FileIn w there n)

/-- The events that a walk may still find. -/
def Expects (w : World) (root : List Text) (s : Stage) : Event → Prop
  | .package d => ∃ here, s.Reaches w here ∧ w.packageAt? here = some d
  | .file p t package =>
    ∃ here n, s.Offers w here n ∧ .file p t package = fileEvent w root here package n

/-- The package that files belong to unless they are in one of the packages to come. -/
def outer : Stage → Option Descriptor
  | .directory _ outer => outer
  | .entries _ outer _ => outer

/-- A property of all directories that are still to be walked. -/
def All (P : List Text → Prop) : Stage → Prop
  | .directory here _ => P here
  | .entries here _ left => ∀ n cs, (n, .directory cs) ∈ left → P (here ++ [n])

/-- One stage comes to no more than another. -/
structure Within (w : World) (s s' : Stage) : Prop where
  reaches : ∀ here, s.Reaches w here → s'.Reaches w here
  offers : ∀ here n, s.Offers w here n → s'.Offers w here n

theorem Expects.mono {s s' : Stage} {e : Event} (hs : s.Within w s') (h : s.Expects w root e) :
    s'.Expects w root e := by
  cases e with
  | file p t package =>
    obtain ⟨here, n, hoffers, heq⟩ := h
    exact ⟨here, n, hs.offers here n hoffers, heq⟩
  | package d =>
    obtain ⟨here, hreach, hd⟩ := h
    exact ⟨here, hs.reaches here hreach, hd⟩

/-! ### Stages within stages -/

variable {d : Descriptor} {src : Path} {es cs left : List (Text × Entry)} {n : Text} {e : Entry}

theorem reachable_listing (outer : Option Descriptor)
    (htell : w.Tells Entry.isFile (descriptorPath here) false) (hfree : w.LinkFreeAt here es) :
    Reachable w here there ↔
      there = here ∨ Reaches w (.entries here outer (Entry.inOrder es)) there := by
  have hnone : w.descriptorData? here = none := by simpa using htell.descriptorData?
  rw [reachable_iff, Reaches]
  refine or_congr_right ⟨?_, ?_⟩
  · rintro ⟨next, henters, hreach⟩
    obtain ⟨n, cs, rfl, hget⟩ := (enters_iff_child hnone).1 henters
    exact ⟨n, cs, hfree.mem_inOrder_iff.2 hget, hreach⟩
  · rintro ⟨n, cs, hmem, hreach⟩
    exact ⟨here ++ [n], .child hnone (hfree.mem_inOrder_iff.1 hmem), hreach⟩

theorem offers_listing (outer : Option Descriptor)
    (htell : w.Tells Entry.isFile (descriptorPath here) false) (hfree : w.LinkFreeAt here es) :
    Offers w (.directory here outer) there n ↔
      Offers w (.entries here outer (Entry.inOrder es)) there n := by
  rw [Offers, Offers, reachable_listing outer htell hfree, or_and_right]
  refine or_congr_left ⟨?_, ?_⟩
  · rintro ⟨rfl, hfile⟩
    obtain ⟨data, hdata⟩ := hfile.2
    exact ⟨rfl, hfile, data, hfree.mem_inOrder_iff.2 hdata⟩
  · rintro ⟨rfl, hfile, -⟩
    exact ⟨rfl, hfile⟩

theorem reachable_sources (hat : w.sourcesAt? here = some src)
    (htell : w.Tells Entry.isDirectory src true) :
    Reachable w here there ↔ there = here ∨ Reachable w src.names there := by
  have hdata := descriptorData?_of_sourcesAt? hat
  rw [reachable_iff]
  refine or_congr_right ⟨?_, fun hreach => ?_⟩
  · rintro ⟨next, henters, hreach⟩
    obtain ⟨src', hat', rfl, -⟩ := (enters_iff_sources hdata).1 henters
    rwa [Option.some.inj (hat.symm.trans hat')]
  · exact ⟨src.names, (enters_iff_sources hdata).2 ⟨src, hat, rfl, htell.directory⟩, hreach⟩

/-- A package without a directory of sources leads nowhere. -/
theorem not_enters_alone (hat : w.sourcesAt? here = some src)
    (htell : w.Tells Entry.isDirectory src false) (next : List Text) : ¬ Enters w here next := by
  intro henters
  obtain ⟨src', hat', rfl, es, hes⟩ :=
    (enters_iff_sources (descriptorData?_of_sourcesAt? hat)).1 henters
  have hfact := htell.fact
  rw [Option.some.inj (hat.symm.trans hat'), hes] at hfact
  simp [Entry.isDirectory] at hfact

/-- What describes no package leads nowhere. -/
theorem not_enters_unreadable (hdata : w.descriptorData? here ≠ none)
    (hd : w.packageAt? here = none) (next : List Text) : ¬ Enters w here next := by
  intro henters
  obtain ⟨src, hat, -⟩ := (enters_iff_sources hdata).1 henters
  simp [sourcesAt?, hd] at hat

theorem reachable_alone (hat : w.sourcesAt? here = some src)
    (htell : w.Tells Entry.isDirectory src false) : Reachable w here there ↔ there = here :=
  reachable_of_no_enters (not_enters_alone hat htell)

theorem reachable_unreadable (hload : w.Loads room here) (hd : w.packageAt? here = none) :
    Reachable w here there ↔ there = here :=
  reachable_of_no_enters (not_enters_unreadable hload.descriptorData? hd)

theorem reaches_cons_file {data : List UInt8} :
    Reaches w (.entries here package ((n, .file data) :: left)) there ↔
      Reaches w (.entries here package left) there := by
  simp [Reaches]

theorem reaches_cons_directory :
    Reaches w (.entries here package ((n, .directory cs) :: left)) there ↔
      Reachable w (here ++ [n]) there ∨ Reaches w (.entries here package left) there := by
  constructor
  · rintro ⟨m, ds, hmem, hreach⟩
    rcases List.mem_cons.1 hmem with heq | hmem
    · obtain ⟨rfl, -⟩ := Prod.mk.inj heq
      exact Or.inl hreach
    · exact Or.inr ⟨m, ds, hmem, hreach⟩
  · rintro (hreach | ⟨m, ds, hmem, hreach⟩)
    · exact ⟨n, cs, List.mem_cons_self, hreach⟩
    · exact ⟨m, ds, List.mem_cons_of_mem _ hmem, hreach⟩

theorem offers_cons_file {data : List UInt8} {m : Text} (hfile : FileIn w here n) :
    Offers w (.entries here package ((n, .file data) :: left)) there m ↔
      there = here ∧ m = n ∨ Offers w (.entries here package left) there m := by
  rw [Offers, Offers, reaches_cons_file, ← or_assoc]
  refine or_congr_left ⟨?_, ?_⟩
  · rintro ⟨rfl, hm, data', hmem⟩
    rcases List.mem_cons.1 hmem with heq | hmem
    · exact Or.inl ⟨rfl, (Prod.mk.inj heq).1⟩
    · exact Or.inr ⟨rfl, hm, data', hmem⟩
  · rintro (⟨rfl, rfl⟩ | ⟨rfl, hm, data', hmem⟩)
    · exact ⟨rfl, hfile, data, List.mem_cons_self⟩
    · exact ⟨rfl, hm, data', List.mem_cons_of_mem _ hmem⟩

theorem offers_cons_directory {m : Text} :
    Offers w (.entries here package ((n, .directory cs) :: left)) there m ↔
      Offers w (.directory (here ++ [n]) package) there m ∨
        Offers w (.entries here package left) there m := by
  have hmem : (∃ data, (m, Entry.file data) ∈ (n, Entry.directory cs) :: left) ↔
      ∃ data, (m, Entry.file data) ∈ left := by simp
  rw [Offers, Offers, Offers, reaches_cons_directory, or_and_right, hmem, or_left_comm]

theorem all_cons_file {P : List Text → Prop} {data : List UInt8} :
    All P (.entries here package ((n, .file data) :: left)) ↔
      All P (.entries here package left) := by
  simp [All]

theorem all_cons_directory {P : List Text → Prop} :
    All P (.entries here package ((n, .directory cs) :: left)) ↔
      P (here ++ [n]) ∧ All P (.entries here package left) := by
  constructor
  · exact fun h =>
      ⟨h n cs List.mem_cons_self, fun m ds hmem => h m ds (List.mem_cons_of_mem _ hmem)⟩
  · rintro ⟨hfirst, hrest⟩ m ds hmem
    rcases List.mem_cons.1 hmem with heq | hmem
    · rwa [(Prod.mk.inj heq).1]
    · exact hrest m ds hmem

/-- Room for a directory without a descriptor file is room for all directories in it. -/
theorem hasRoom_entries (package : Option Descriptor)
    (htell : w.Tells Entry.isFile (descriptorPath here) false) (hfree : w.LinkFreeAt here es) :
    HasRoom w (room + 2) here ↔
      All (HasRoom w room) (.entries here package (Entry.inOrder es)) := by
  rw [hasRoom_listing (by simpa using htell.descriptorData?)]
  exact forall_congr' fun n => forall_congr' fun cs => by rw [hfree.mem_inOrder_iff]

theorem within_listing (package : Option Descriptor)
    (htell : w.Tells Entry.isFile (descriptorPath here) false) (hfree : w.LinkFreeAt here es) :
    Within w (.entries here package (Entry.inOrder es)) (.directory here package) :=
  ⟨fun _ h => (reachable_listing package htell hfree).2 (Or.inr h),
    fun _ _ h => (offers_listing package htell hfree).2 h⟩

theorem within_sources (package package' : Option Descriptor) (hat : w.sourcesAt? here = some src)
    (htell : w.Tells Entry.isDirectory src true) :
    Within w (.directory src.names package') (.directory here package) :=
  ⟨fun _ h => (reachable_sources hat htell).2 (Or.inr h),
    fun _ _ h => ⟨(reachable_sources hat htell).2 (Or.inr h.1), h.2⟩⟩

theorem within_cons_file {data : List UInt8} (hfile : FileIn w here n) :
    Within w (.entries here package left) (.entries here package ((n, .file data) :: left)) :=
  ⟨fun _ h => reaches_cons_file.2 h, fun _ _ h => (offers_cons_file hfile).2 (Or.inr h)⟩

theorem within_first : Within w (.directory (here ++ [n]) package)
    (.entries here package ((n, .directory cs) :: left)) :=
  ⟨fun _ h => reaches_cons_directory.2 (Or.inl h), fun _ _ h => offers_cons_directory.2 (Or.inl h)⟩

theorem within_rest : Within w (.entries here package left)
    (.entries here package ((n, .directory cs) :: left)) :=
  ⟨fun _ h => reaches_cons_directory.2 (Or.inr h), fun _ _ h => offers_cons_directory.2 (Or.inr h)⟩

end Stage

/-! ## All that is there, and nothing else -/

/-- A walk finds only what can be expected of it. -/
theorem Walked.expects (h : Walked w root room s r found) : ∀ e ∈ found, s.Expects w root e := by
  induction h with
  | exhausted | unanswered | buried | unreadable | malformed | unresolved | cramped | done => simp
  | refused htell hd _ _ => exact List.forall_mem_singleton.2 ⟨_, .refl, hd⟩
  | alone htell hd _ _ => exact List.forall_mem_singleton.2 ⟨_, .refl, hd⟩
  | sources htell hd hat hdir _ ih =>
    refine List.forall_mem_cons.2 ⟨⟨_, .refl, hd⟩, fun e he => ?_⟩
    exact (ih e he).mono (Stage.within_sources _ _ hat hdir)
  | listing htell hfree _ ih =>
    exact fun e he => (ih e he).mono (Stage.within_listing _ htell hfree)
  | file hfile hfirst _ ih =>
    refine List.forall_mem_cons.2 ⟨⟨_, _, ?_, rfl⟩, fun e he => ?_⟩
    · exact (Stage.offers_cons_file hfile).2 (Or.inl ⟨rfl, rfl⟩)
    · exact (ih e he).mono (Stage.within_cons_file hfile)
  | enter hfirst _ _ ih ih' =>
    intro e he
    rcases List.mem_append.1 he with he | he
    · exact (ih e he).mono Stage.within_first
    · exact (ih' e he).mono Stage.within_rest
  | stopped _ ih => exact fun e he => (ih e he).mono Stage.within_first

/-- The events of everything that a walk comes to. -/
structure Stage.Complete (w : World) (root : List Text) (s : Stage) (found : List Event) :
    Prop where
  package : ∀ here d, s.Reaches w here → w.packageAt? here = some d → .package d ∈ found
  file : ∀ here n, s.Offers w here n → ∃ package, fileEvent w root here package n ∈ found

theorem not_fileIn_of_tells {n : Text} (h : w.Tells Entry.isFile (descriptorPath here) true) :
    ¬ FileIn w here n := by
  rintro ⟨hnone, -⟩
  have := h.descriptorData?
  simp [hnone] at this

/-- A walk that ends well finds everything. -/
theorem Walked.complete (h : Walked w root room s r found) (hr : r = .ok ()) :
    s.Complete w root found := by
  induction h with
  | exhausted | unanswered | buried | malformed | unresolved | refused | cramped | stopped =>
    cases hr
  | unreadable htell hd =>
    refine ⟨fun here d hreach hsome => ?_, fun here n hoffers => ?_⟩
    · rw [(Stage.reachable_unreadable htell hd).1 hreach, hd] at hsome
      cases hsome
    · obtain ⟨hreach, hfile⟩ := hoffers
      rw [(Stage.reachable_unreadable htell hd).1 hreach] at hfile
      exact absurd hfile (not_fileIn_of_tells htell.tells)
  | alone htell hd hat hdir =>
    refine ⟨fun here d hreach hsome => ?_, fun here n hoffers => ?_⟩
    · rw [(Stage.reachable_alone hat hdir).1 hreach, hd] at hsome
      exact List.mem_singleton.2 (congrArg _ (Option.some.inj hsome).symm)
    · obtain ⟨hreach, hfile⟩ := hoffers
      rw [(Stage.reachable_alone hat hdir).1 hreach] at hfile
      exact absurd hfile (not_fileIn_of_tells htell.tells)
  | sources htell hd hat hdir _ ih =>
    obtain ⟨hpackages, hfiles⟩ := ih hr
    refine ⟨fun here d hreach hsome => ?_, fun here n hoffers => ?_⟩
    · rcases (Stage.reachable_sources hat hdir).1 hreach with rfl | hreach
      · rw [hd] at hsome
        exact List.mem_cons.2 (Or.inl (congrArg _ (Option.some.inj hsome).symm))
      · exact List.mem_cons_of_mem _ (hpackages here d hreach hsome)
    · obtain ⟨hreach, hfile⟩ := hoffers
      rcases (Stage.reachable_sources hat hdir).1 hreach with rfl | hreach
      · exact absurd hfile (not_fileIn_of_tells htell.tells)
      · obtain ⟨package, hmem⟩ := hfiles here n ⟨hreach, hfile⟩
        exact ⟨package, List.mem_cons_of_mem _ hmem⟩
  | @listing _ here package es _ _ htell hfree _ ih =>
    obtain ⟨hpackages, hfiles⟩ := ih hr
    have hnone : w.descriptorData? here = none := by simpa using htell.descriptorData?
    refine ⟨fun there d hreach hsome => ?_, fun there n hoffers => ?_⟩
    · rcases (Stage.reachable_listing package htell hfree).1 hreach with rfl | hreach
      · simp [packageAt?, hnone] at hsome
      · exact hpackages there d hreach hsome
    · exact hfiles there n ((Stage.offers_listing package htell hfree).1 hoffers)
  | done =>
    refine ⟨fun here d hreach _ => ?_, fun here n hoffers => ?_⟩
    · simp [Stage.Reaches] at hreach
    · simp [Stage.Offers, Stage.Reaches] at hoffers
  | file hfile hfirst _ ih =>
    obtain ⟨hpackages, hfiles⟩ := ih hr
    refine ⟨fun here d hreach hsome => ?_, fun here n hoffers => ?_⟩
    · exact List.mem_cons_of_mem _ (hpackages here d (Stage.reaches_cons_file.1 hreach) hsome)
    · rcases (Stage.offers_cons_file hfile).1 hoffers with ⟨rfl, rfl⟩ | hoffers
      · exact ⟨_, List.mem_cons_self⟩
      · obtain ⟨package, hmem⟩ := hfiles here n hoffers
        exact ⟨package, List.mem_cons_of_mem _ hmem⟩
  | enter hfirst _ _ ih ih' =>
    obtain ⟨hpackages, hfiles⟩ := ih rfl
    obtain ⟨hpackages', hfiles'⟩ := ih' hr
    refine ⟨fun here d hreach hsome => ?_, fun here n hoffers => ?_⟩
    · rcases Stage.reaches_cons_directory.1 hreach with hreach | hreach
      · exact List.mem_append_left _ (hpackages here d hreach hsome)
      · exact List.mem_append_right _ (hpackages' here d hreach hsome)
    · rcases Stage.offers_cons_directory.1 hoffers with hoffers | hoffers
      · obtain ⟨package, hmem⟩ := hfiles here n hoffers
        exact ⟨package, List.mem_append_left _ hmem⟩
      · obtain ⟨package, hmem⟩ := hfiles' here n hoffers
        exact ⟨package, List.mem_append_right _ hmem⟩

/-! ## How a walk ends -/

/-- The system answers what a walk asks about a directory. -/
structure Answered (w : World) (here : List Text) : Prop where
  descriptor : ∃ b, w.holds Entry.isFile (descriptorPath here) = .ok b
  sources : ∀ d, w.packageAt? here = some d →
    ∃ src b, w.sourcesAt? here = some src ∧ w.holds Entry.isDirectory src = .ok b

theorem sourcesAt?_of_malformed {d : Descriptor} {f : Failure} (hd : w.packageAt? here = some d)
    (hname : d.sourceName = .error f) : w.sourcesAt? here = none := by
  simp [sourcesAt?, hd, hname, Except.toOption]

theorem sourcesAt?_of_unresolved {d : Descriptor} {t : Text} {f : FileFault}
    (hd : w.packageAt? here = some d) (hname : d.sourceName = .ok t)
    (hsrc : w.resolve (d.directory.child t) = .error f) : w.sourcesAt? here = none := by
  simp [sourcesAt?, hd, hname, hsrc, Except.toOption]

theorem sourceName_of_sourcesAt? {d : Descriptor} {src : Path} (hd : w.packageAt? here = some d)
    (hat : w.sourcesAt? here = some src) :
    ∃ s, d.sourceName = .ok s ∧ w.resolve (d.directory.child s) = .ok src := by
  obtain ⟨d', s, hd', hname, hsrc⟩ := exists_of_sourcesAt? hat
  obtain rfl := Option.some.inj (hd.symm.trans hd')
  exact ⟨s, hname, hsrc⟩

theorem not_answered_of_sourcesAt? {d : Descriptor} (hd : w.packageAt? here = some d)
    (hat : w.sourcesAt? here = none) : ¬ Answered w here := by
  intro h
  obtain ⟨src, b, hsome, -⟩ := h.sources d hd
  rw [hat] at hsome
  cases hsome

theorem answered_package {src : Path} {b b' : Bool}
    (htell : w.Tells Entry.isFile (descriptorPath here) b) (hat : w.sourcesAt? here = some src)
    (hdir : w.Tells Entry.isDirectory src b') : Answered w here :=
  ⟨⟨_, htell.answer⟩, fun _ _ => ⟨src, b', hat, hdir.answer⟩⟩

theorem answered_of_packageAt?_eq_none {b : Bool}
    (htell : w.Tells Entry.isFile (descriptorPath here) b) (hd : w.packageAt? here = none) :
    Answered w here := by
  refine ⟨⟨_, htell.answer⟩, fun d hsome => ?_⟩
  rw [hd] at hsome
  cases hsome

/-- A walk ends well if and only if the system answers in all directories that it reaches, and has
enough calls left there. -/
theorem Walked.ok_iff (h : Walked w root room s r found) :
    r = .ok () ↔ (∀ here, s.Reaches w here → Answered w here) ∧ s.All (HasRoom w room) := by
  have fails {f : Failure} {s : Stage} {here : List Text} {room : Nat} (hreach : s.Reaches w here)
      (hnot : ¬ Answered w here) :
      (Except.error f : Except Failure Unit) = .ok () ↔
        (∀ here, s.Reaches w here → Answered w here) ∧ s.All (HasRoom w room) :=
    iff_of_false nofun fun hall => hnot (hall.1 here hreach)
  induction h with
  | exhausted => exact iff_of_false nofun fun hall => not_hasRoom_zero hall.2
  | buried _ hdeep => exact iff_of_false nofun fun hall => not_hasRoom_of_overflows hdeep hall.2
  | cramped htell =>
    exact iff_of_false nofun fun hall =>
      not_hasRoom_one (by simpa using htell.descriptorData?) hall.2
  | unanswered hfile =>
    refine fails .refl fun hanswered => ?_
    obtain ⟨b, hb⟩ := hanswered.descriptor
    rw [hfile] at hb
    cases hb
  | malformed hload hd hname =>
    exact fails .refl (not_answered_of_sourcesAt? hd (sourcesAt?_of_malformed hd hname))
  | unresolved hload hd hname hsrc =>
    exact fails .refl (not_answered_of_sourcesAt? hd (sourcesAt?_of_unresolved hd hname hsrc))
  | refused hload hd hat hdir =>
    refine fails .refl fun hanswered => ?_
    obtain ⟨src, b, hsome, hb⟩ := hanswered.sources _ hd
    rw [Option.some.inj (hsome.symm.trans hat), hdir] at hb
    cases hb
  | unreadable hload hd =>
    refine iff_of_true rfl ⟨fun there hreach => ?_, hasRoom_end hload.descriptorData? hload.fits
      (Stage.not_enters_unreadable hload.descriptorData? hd)⟩
    rw [(Stage.reachable_unreadable hload hd).1 hreach]
    exact answered_of_packageAt?_eq_none hload.tells hd
  | alone hload hd hat hdir =>
    refine iff_of_true rfl ⟨fun there hreach => ?_, hasRoom_end hload.descriptorData? hload.fits
      (Stage.not_enters_alone hat hdir)⟩
    rw [(Stage.reachable_alone hat hdir).1 hreach]
    exact answered_package hload.tells hat hdir
  | sources hload hd hat hdir _ ih =>
    obtain ⟨cs, hcs⟩ := hdir.directory
    refine ih.trans (and_congr ⟨fun hall there hreach => ?_, fun hall there hreach => ?_⟩
      (hasRoom_sources hload.fits hat hcs).symm)
    · rcases (Stage.reachable_sources hat hdir).1 hreach with rfl | hreach
      · exact answered_package hload.tells hat hdir
      · exact hall there hreach
    · exact hall there ((Stage.reachable_sources hat hdir).2 (Or.inr hreach))
  | @listing _ here package es _ _ htell hfree _ ih =>
    refine ih.trans (and_congr ⟨fun hall there hreach => ?_, fun hall there hreach => ?_⟩
      (Stage.hasRoom_entries package htell hfree).symm)
    · rcases (Stage.reachable_listing package htell hfree).1 hreach with rfl | hreach
      · have hnone : w.descriptorData? there = none := by simpa using htell.descriptorData?
        exact answered_of_packageAt?_eq_none htell (by simp [packageAt?, hnone])
      · exact hall there hreach
    · exact hall there ((Stage.reachable_listing package htell hfree).2 (Or.inr hreach))
  | done =>
    exact iff_of_true rfl ⟨fun there hreach => by simp [Stage.Reaches] at hreach,
      fun n cs hmem => absurd hmem List.not_mem_nil⟩
  | file hfile hfirst _ ih =>
    exact ih.trans (and_congr (forall_congr' fun there => by rw [Stage.reaches_cons_file])
      Stage.all_cons_file.symm)
  | enter hfirst _ _ ih ih' =>
    obtain ⟨hchild, hroom⟩ := ih.1 rfl
    refine ih'.trans (and_congr (forall_congr' fun there => ?_) ?_)
    · rw [Stage.reaches_cons_directory]
      refine ⟨fun hrest hreach => ?_, fun hall hreach => hall (Or.inr hreach)⟩
      rcases hreach with hreach | hreach
      · exact hchild there hreach
      · exact hrest hreach
    · rw [Stage.all_cons_directory]
      exact (and_iff_right hroom).symm
  | stopped _ ih =>
    refine iff_of_false nofun fun hall => ?_
    exact nomatch ih.2 ⟨fun there hreach =>
      hall.1 there (Stage.reaches_cons_directory.2 (Or.inl hreach)),
      (Stage.all_cons_directory.1 hall.2).1⟩

theorem sourceName_error {d : Descriptor} {f : Failure} (h : d.sourceName = .error f) :
    ∃ typeName, f = .descriptor d.path typeName := by
  unfold Descriptor.sourceName at h
  split at h
  · split at h
    · cases h
    · cases h
    · cases h
    · exact ⟨_, (Except.error.inj h).symm⟩
  · cases h

/-- What a walk can fail with: a malformed descriptor, a path that the system refuses, or too few
calls that are left. -/
inductive Stage.Fails (w : World) (room : Nat) (s : Stage) : Failure → Prop where
  | malformed {here : List Text} {d : Descriptor} {typeName : String} :
    s.Reaches w here → w.packageAt? here = some d → Fails w room s (.descriptor d.path typeName)
  | refused {g : FileFault} : g = .nameTooLong ∨ (∃ p, w.resolve p = .error g) →
      Fails w room s (.raised (.file g))
  | tooDeep : ¬ s.All (HasRoom w room) → Fails w room s (.raised .tooDeep)

theorem Stage.Fails.mono {s s' : Stage} {more : Nat} {f : Failure} (h : s.Fails w room f)
    (hs : s.Within w s') (hroom : s'.All (HasRoom w more) → s.All (HasRoom w room)) :
    s'.Fails w more f := by
  cases h with
  | malformed hreach hd => exact .malformed (hs.reaches _ hreach) hd
  | refused hg => exact .refused hg
  | tooDeep hdeep => exact .tooDeep fun hall => hdeep (hroom hall)

/-- A walk that fails has met something that it can fail with. -/
theorem Walked.failure (h : Walked w root room s r found) {f : Failure} (hr : r = .error f) :
    s.Fails w room f := by
  induction h with
  | unreadable | alone | done => cases hr
  | exhausted =>
    obtain rfl := Except.error.inj hr
    exact .tooDeep not_hasRoom_zero
  | buried _ hdeep =>
    obtain rfl := Except.error.inj hr
    exact .tooDeep (not_hasRoom_of_overflows hdeep)
  | cramped htell =>
    obtain rfl := Except.error.inj hr
    exact .tooDeep (not_hasRoom_one (by simpa using htell.descriptorData?))
  | unanswered hfile =>
    obtain rfl := Except.error.inj hr
    exact .refused (Or.inl (holds_error hfile))
  | malformed _ hd hname =>
    obtain rfl := Except.error.inj hr
    obtain ⟨typeName, rfl⟩ := sourceName_error hname
    exact .malformed .refl hd
  | unresolved _ _ _ hsrc =>
    obtain rfl := Except.error.inj hr
    exact .refused (Or.inr ⟨_, hsrc⟩)
  | refused _ _ _ hdir =>
    obtain rfl := Except.error.inj hr
    exact .refused (Or.inl (holds_error hdir))
  | sources hload _ hat hdir _ ih =>
    obtain ⟨cs, hcs⟩ := hdir.directory
    exact (ih hr).mono (Stage.within_sources _ _ hat hdir) (hasRoom_sources hload.fits hat hcs).1
  | listing htell hfree _ ih =>
    exact (ih hr).mono (Stage.within_listing _ htell hfree) (Stage.hasRoom_entries _ htell hfree).1
  | file hfile _ _ ih => exact (ih hr).mono (Stage.within_cons_file hfile) Stage.all_cons_file.1
  | enter _ _ _ _ ih' =>
    exact (ih' hr).mono Stage.within_rest fun hall => (Stage.all_cons_directory.1 hall).2
  | stopped _ ih =>
    exact (ih hr).mono Stage.within_first fun hall => (Stage.all_cons_directory.1 hall).1

/-! ## Nothing is found twice -/

/-- The path that an event is about. -/
def Event.path : Event → Path
  | .file p _ _ => p
  | .package d => d.path

theorem path_packageAt? {d : Descriptor} (h : w.packageAt? here = some d) :
    d.path = descriptorPath here := by
  obtain ⟨-, -, -, hpath⟩ := packageAt?_eq_some h
  exact hpath

/-- An event of a directory is about something in a directory that is reached from there. -/
theorem Stage.Expects.directory {e : Event} {package : Option Descriptor}
    (h : Expects w root (.directory here package) e) :
    ∃ there n, Reachable w here there ∧ e.path = ⟨1, there ++ [n]⟩ := by
  cases e with
  | file p t q =>
    obtain ⟨there, n, ⟨hreach, -⟩, heq⟩ := h
    exact ⟨there, n, hreach, congrArg Event.path heq⟩
  | package d =>
    obtain ⟨there, hreach, hd⟩ := h
    exact ⟨there, _, hreach, path_packageAt? hd⟩

/-- An event of entries is about one of them, or about something in a directory that is reached from
there. -/
theorem Stage.Expects.entries {e : Event} {package : Option Descriptor}
    {left : List (Text × Entry)} (h : Expects w root (.entries here package left) e) :
    (∃ n data, (n, .file data) ∈ left ∧ e.path = ⟨1, here ++ [n]⟩) ∨
      ∃ m cs there n, (m, .directory cs) ∈ left ∧ Reachable w (here ++ [m]) there ∧
        e.path = ⟨1, there ++ [n]⟩ := by
  cases e with
  | file p t q =>
    obtain ⟨there, n, ⟨rfl, -, data, hmem⟩ | ⟨⟨m, cs, hmem, hreach⟩, -⟩, heq⟩ := h
    · exact Or.inl ⟨n, data, hmem, congrArg Event.path heq⟩
    · exact Or.inr ⟨m, cs, there, n, hmem, hreach, congrArg Event.path heq⟩
  | package d =>
    obtain ⟨there, ⟨m, cs, hmem, hreach⟩, hd⟩ := h
    exact Or.inr ⟨m, cs, there, _, hmem, hreach, path_packageAt? hd⟩

/-- Ways from the entries of a directory do not lead back to it, and do not meet. -/
structure SplitAt (w : World) (here : List Text) (left : List (Text × Entry)) : Prop where
  below : ∀ n cs, (n, .directory cs) ∈ left → OneWay w (here ++ [n])
  forward : ∀ n cs, (n, .directory cs) ∈ left → ¬ Reachable w (here ++ [n]) here
  apart : ∀ n m cs ds there, (n, .directory cs) ∈ left → (m, .directory ds) ∈ left →
    Reachable w (here ++ [n]) there → Reachable w (here ++ [m]) there → n = m

/-- The walk of a stage goes one way. -/
def Stage.IsOneWay (w : World) : Stage → Prop
  | .directory here _ => OneWay w here
  | .entries here _ left => SplitAt w here left

theorem OneWay.of_enters (h : OneWay w root) (henters : Enters w root here) : OneWay w here :=
  ⟨fun there next hthere => h.forward there next (.head henters hthere),
    fun there next next' last hthere => h.apart there next next' last (.head henters hthere)⟩

theorem OneWay.splitAt (h : OneWay w here) {es : List (Text × Entry)}
    (hnone : w.descriptorData? here = none) (hfree : w.LinkFreeAt here es) :
    SplitAt w here (Entry.inOrder es) := by
  have henters {n : Text} {cs : List (Text × Entry)}
      (hmem : (n, Entry.directory cs) ∈ Entry.inOrder es) : Enters w here (here ++ [n]) :=
    .child hnone (hfree.mem_inOrder_iff.1 hmem)
  refine ⟨fun n cs hmem => h.of_enters (henters hmem),
    fun n cs hmem => h.forward here _ .refl (henters hmem),
    fun n m cs ds there hn hm hreach hreach' => ?_⟩
  have heq := h.apart here _ _ there .refl (henters hn) (henters hm) hreach hreach'
  exact List.singleton_inj.1 (List.append_cancel_left heq)

theorem SplitAt.tail {n : Text} {e : Entry} {left : List (Text × Entry)}
    (h : SplitAt w here ((n, e) :: left)) : SplitAt w here left :=
  ⟨fun m cs hmem => h.below m cs (List.mem_cons_of_mem _ hmem),
    fun m cs hmem => h.forward m cs (List.mem_cons_of_mem _ hmem),
    fun m k cs ds there hm hk =>
      h.apart m k cs ds there (List.mem_cons_of_mem _ hm) (List.mem_cons_of_mem _ hk)⟩

theorem eq_of_path_eq {names rest : List Text} {n m : Text}
    (h : (⟨1, names ++ [n]⟩ : Path) = ⟨1, rest ++ [m]⟩) : names = rest ∧ n = m := by
  obtain ⟨hnames, hlast⟩ := List.append_inj' (Path.mk.inj h).2 rfl
  exact ⟨hnames, List.singleton_inj.1 hlast⟩

/-- On ways that do not meet again, no two events of a walk have the same path. -/
theorem Walked.nodup_path (h : Walked w root room s r found) (hone : s.IsOneWay w) :
    (found.map Event.path).Nodup := by
  induction h with
  | exhausted | unanswered | buried | unreadable | malformed | unresolved | cramped | done =>
    exact List.nodup_nil
  | refused | alone => exact List.nodup_singleton _
  | @sources _ here _ d src _ found htell hd hat hdir hwalked ih =>
    obtain ⟨cs, hcs⟩ := hdir.directory
    have henters : Enters w here src.names := .sources hat hcs
    refine List.nodup_cons.2 ⟨fun hmem => ?_, ih (OneWay.of_enters hone henters)⟩
    obtain ⟨e, he, hpath⟩ := List.mem_map.1 hmem
    obtain ⟨there, n, hreach, heq⟩ := (hwalked.expects e he).directory
    rw [heq, Event.path, path_packageAt? hd, descriptorPath] at hpath
    obtain ⟨rfl, -⟩ := eq_of_path_eq hpath
    exact hone.forward there src.names .refl henters hreach
  | listing htell hfree _ ih =>
    exact ih (OneWay.splitAt hone (by simpa using htell.descriptorData?) hfree)
  | @file _ here package n data left _ found hfile hfirst hwalked ih =>
    refine List.nodup_cons.2 ⟨fun hmem => ?_, ih hone.tail⟩
    obtain ⟨e, he, hpath⟩ := List.mem_map.1 hmem
    rcases (hwalked.expects e he).entries with
      ⟨m, data', hm, heq⟩ | ⟨m, cs, there, k, hm, hreach, heq⟩
    · obtain ⟨-, rfl⟩ := eq_of_path_eq (heq.symm.trans hpath)
      exact lt_irrefl _ (hfirst _ hm)
    · obtain ⟨rfl, -⟩ := eq_of_path_eq (heq.symm.trans hpath)
      exact hone.forward m cs (List.mem_cons_of_mem _ hm) hreach
  | @enter _ here package n cs left _ found more hfirst hwalked hwalked' ih ih' =>
    rw [List.map_append, List.nodup_append]
    refine ⟨ih (hone.below n cs List.mem_cons_self), ih' hone.tail, fun a ha b hb hab => ?_⟩
    obtain ⟨e, he, rfl⟩ := List.mem_map.1 ha
    obtain ⟨e', he', rfl⟩ := List.mem_map.1 hb
    obtain ⟨there, k, hreach, heq⟩ := (hwalked.expects e he).directory
    rcases (hwalked'.expects e' he').entries with
      ⟨m, data, hm, heq'⟩ | ⟨m, ds, there', k', hm, hreach', heq'⟩
    · obtain ⟨rfl, -⟩ := eq_of_path_eq (heq.symm.trans (hab.trans heq'))
      exact hone.forward n cs List.mem_cons_self hreach
    · obtain ⟨rfl, -⟩ := eq_of_path_eq (heq.symm.trans (hab.trans heq'))
      obtain rfl := hone.apart n m cs ds there List.mem_cons_self (List.mem_cons_of_mem _ hm) hreach
        hreach'
      exact lt_irrefl _ (hfirst _ hm)
  | stopped _ ih => exact ih (hone.below _ _ List.mem_cons_self)

/-! ## Order and packages -/

/-- The names of the path of a file. -/
def Event.file? : Event → Option (List Text)
  | .file p _ _ => some p.names
  | .package _ => none

theorem path_of_file? {e : Event} {names : List Text} (h : e.file? = some names) :
    e.path.names = names := by
  cases e with
  | file p t q => exact Option.some.inj h
  | package d => cases h

theorem Stage.Expects.below {e : Event} {package : Option Descriptor}
    (h : Expects w root (.directory here package) e) (hsrc : SourcesBelow w here) :
    ∃ rest, rest ≠ [] ∧ e.path.names = here ++ rest := by
  obtain ⟨there, n, hreach, hpath⟩ := h.directory
  obtain ⟨rest, rfl⟩ := hsrc.root_above hreach
  exact ⟨rest ++ [n], by simp, by simp [hpath]⟩

theorem Stage.Expects.below_entry {e : Event} {package : Option Descriptor}
    {left : List (Text × Entry)} (h : Expects w root (.entries here package left) e)
    (hsrc : All (SourcesBelow w) (.entries here package left)) :
    ∃ entry ∈ left, ∃ rest, e.path.names = here ++ entry.1 :: rest := by
  rcases h.entries with ⟨n, data, hmem, hpath⟩ | ⟨m, cs, there, n, hmem, hreach, hpath⟩
  · exact ⟨_, hmem, [], by simp [hpath]⟩
  · obtain ⟨rest, rfl⟩ := (hsrc m cs hmem).root_above hreach
    exact ⟨_, hmem, rest ++ [n], by simp [hpath]⟩

theorem Stage.All.tail {P : List Text → Prop} {package : Option Descriptor} {n : Text} {e : Entry}
    {left : List (Text × Entry)} (h : All P (.entries here package ((n, e) :: left))) :
    All P (.entries here package left) :=
  fun m cs hmem => h m cs (List.mem_cons_of_mem _ hmem)

theorem SourcesBelow.of_enters (h : SourcesBelow w root) (henters : Enters w root here) :
    SourcesBelow w here :=
  h.of_reachable (.single henters)

theorem SourcesBelow.entries {es : List (Text × Entry)} {package : Option Descriptor}
    (h : SourcesBelow w here) (htell : w.Tells Entry.isFile (descriptorPath here) false)
    (hfree : w.LinkFreeAt here es) :
    Stage.All (SourcesBelow w) (.entries here package (Entry.inOrder es)) := fun n cs hmem =>
  h.of_enters (.child (by simpa using htell.descriptorData?) (hfree.mem_inOrder_iff.1 hmem))

theorem append_cons_lt {names rest rest' : List Text} {n m : Text} (h : n < m) :
    names ++ n :: rest < names ++ m :: rest' :=
  List.append_left_lt (List.cons_lt_cons_iff.2 (Or.inl h))

/-- With sources below their packages, files are found in the order of their names. -/
theorem Walked.pairwise_files (h : Walked w root room s r found) (hsrc : s.All (SourcesBelow w)) :
    (found.filterMap Event.file?).Pairwise (· < ·) := by
  induction h with
  | exhausted | unanswered | buried | unreadable | malformed | unresolved | refused | alone |
    cramped | done => exact List.Pairwise.nil
  | sources htell hd hat hdir _ ih =>
    obtain ⟨cs, hcs⟩ := hdir.directory
    exact ih (SourcesBelow.of_enters hsrc (.sources hat hcs))
  | listing htell hfree _ ih => exact ih (SourcesBelow.entries hsrc htell hfree)
  | @file _ here package n data left _ found hfile hfirst hwalked ih =>
    refine List.pairwise_cons.2 ⟨fun names hnames => ?_, ih hsrc.tail⟩
    obtain ⟨e, he, hname⟩ := List.mem_filterMap.1 hnames
    obtain ⟨entry, hmem, rest, hpath⟩ := (hwalked.expects e he).below_entry hsrc.tail
    rw [← path_of_file? hname, hpath]
    exact append_cons_lt (hfirst entry hmem)
  | @enter _ here package n cs left _ found more hfirst hwalked hwalked' ih ih' =>
    rw [List.filterMap_append, List.pairwise_append]
    have hbelow := hsrc n cs List.mem_cons_self
    refine ⟨ih hbelow, ih' hsrc.tail, fun a ha b hb => ?_⟩
    obtain ⟨e, he, hname⟩ := List.mem_filterMap.1 ha
    obtain ⟨e', he', hname'⟩ := List.mem_filterMap.1 hb
    obtain ⟨rest, -, hpath⟩ := (hwalked.expects e he).below hbelow
    obtain ⟨entry, hmem, rest', hpath'⟩ := (hwalked'.expects e' he').below_entry hsrc.tail
    rw [← path_of_file? hname, ← path_of_file? hname', hpath, hpath', List.append_assoc]
    exact append_cons_lt (hfirst entry hmem)
  | stopped _ ih => exact ih (hsrc _ _ List.mem_cons_self)

/-- The package that the files in a directory belong to: the nearest one above them among those
found, or else the one around them all. -/
inductive Nearest (found : List Event) (outer : Option Descriptor) (here : List Text) :
    Option Descriptor → Prop where
  | outer : (∀ d, .package d ∈ found → ¬ d.directory.names <+: here) →
      Nearest found outer here outer
  | found {d : Descriptor} : .package d ∈ found → d.directory.names <+: here →
      (∀ d', .package d' ∈ found → d'.directory.names <+: here →
        d'.directory.names <+: d.directory.names) →
      Nearest found outer here (some d)

/-- Packages that are not above a directory do not change which one is nearest. -/
theorem Nearest.mono {found' : List Event} {outer q : Option Descriptor}
    (h : Nearest found outer here q) (hmem : ∀ d, .package d ∈ found → .package d ∈ found')
    (hnew : ∀ d, .package d ∈ found' → d.directory.names <+: here → .package d ∈ found) :
    Nearest found' outer here q := by
  cases h with
  | outer hnone => exact .outer fun d hd hpre => hnone d (hnew d hd hpre) hpre
  | found hd hpre hmax =>
    exact .found (hmem _ hd) hpre fun d' hd' hpre' => hmax d' (hnew d' hd' hpre') hpre'

/-- Files of the sources of a package belong to it unless another one is nearer. -/
theorem Nearest.of_sources {outer q : Option Descriptor} {d : Descriptor}
    (h : Nearest found (some d) there q) (hpre : d.directory.names <+: there)
    (hbelow : ∀ d', .package d' ∈ found → d.directory.names <+: d'.directory.names) :
    Nearest (.package d :: found) outer there q := by
  cases h with
  | outer hnone =>
    refine .found List.mem_cons_self hpre fun d' hd' hpre' => ?_
    rcases List.mem_cons.1 hd' with heq | hd'
    · obtain rfl := Event.package.inj heq
      exact List.prefix_rfl
    · exact absurd hpre' (hnone d' hd')
  | found hd hpre₁ hmax =>
    refine .found (List.mem_cons_of_mem _ hd) hpre₁ fun d' hd' hpre' => ?_
    rcases List.mem_cons.1 hd' with heq | hd'
    · rw [Event.package.inj heq]
      exact hbelow _ hd
    · exact hmax d' hd' hpre'

theorem Stage.Expects.package_below {d : Descriptor} {package : Option Descriptor}
    (h : Expects w root (.directory here package) (.package d)) (hsrc : SourcesBelow w here) :
    here <+: d.directory.names := by
  obtain ⟨there, hreach, hd⟩ := h
  rw [directory_packageAt? hd]
  exact hsrc.root_above hreach

theorem Stage.Expects.package_below_entry {d : Descriptor} {package : Option Descriptor}
    {left : List (Text × Entry)} (h : Expects w root (.entries here package left) (.package d))
    (hsrc : All (SourcesBelow w) (.entries here package left)) :
    ∃ entry ∈ left, here ++ [entry.1] <+: d.directory.names := by
  obtain ⟨there, ⟨m, cs, hmem, hreach⟩, hd⟩ := h
  rw [directory_packageAt? hd]
  exact ⟨_, hmem, (hsrc m cs hmem).root_above hreach⟩

theorem Stage.Expects.file_below {n t : Text} {package q : Option Descriptor}
    (h : Expects w root (.directory here package) (.file ⟨1, there ++ [n]⟩ t q))
    (hsrc : SourcesBelow w here) : here <+: there := by
  obtain ⟨there', n', hreach, hpath⟩ := h.directory
  obtain ⟨rfl, -⟩ := eq_of_path_eq hpath
  exact hsrc.root_above hreach

theorem Stage.Expects.file_below_entry {n t : Text} {package q : Option Descriptor}
    {left : List (Text × Entry)}
    (h : Expects w root (.entries here package left) (.file ⟨1, there ++ [n]⟩ t q))
    (hsrc : All (SourcesBelow w) (.entries here package left)) :
    there = here ∨ ∃ entry ∈ left, here ++ [entry.1] <+: there := by
  rcases h.entries with ⟨n', data, hmem, hpath⟩ | ⟨m, cs, there', n', hmem, hreach, hpath⟩
  · exact Or.inl (eq_of_path_eq hpath).1
  · obtain ⟨rfl, -⟩ := eq_of_path_eq hpath
    exact Or.inr ⟨_, hmem, (hsrc m cs hmem).root_above hreach⟩

theorem not_prefix_of_child {names : List Text} {n : Text} (h : here ++ [n] <+: names) :
    ¬ names <+: here := by
  intro hpre
  have hlength := (h.trans hpre).length_le
  rw [List.length_append, List.length_singleton] at hlength
  omega

theorem eq_of_children_above {n m : Text} (hn : here ++ [n] <+: there)
    (hm : here ++ [m] <+: there) : n = m := by
  have heq := (List.prefix_of_prefix_length_le hn hm (by simp)).eq_of_length (by simp)
  exact List.singleton_inj.1 (List.append_cancel_left heq)

/-- With sources below their packages, every file belongs to the nearest package. -/
theorem Walked.nearest (h : Walked w root room s r found) (hsrc : s.All (SourcesBelow w))
    {n t : Text} {q : Option Descriptor} (hmem : .file ⟨1, there ++ [n]⟩ t q ∈ found) :
    Nearest found s.outer there q := by
  induction h with
  | exhausted | unanswered | buried | unreadable | malformed | unresolved | refused | alone |
    cramped | done => simp at hmem
  | @sources _ here package d src _ found htell hd hat hdir hwalked ih =>
    obtain ⟨cs, hcs⟩ := hdir.directory
    have hbelow := SourcesBelow.of_enters hsrc (.sources hat hcs)
    obtain ⟨rest, -, hnames⟩ := hsrc here .refl src hat
    have hhere : d.directory.names <+: src.names := by
      rw [directory_packageAt? hd, hnames]
      exact List.prefix_append _ _
    have hmem' : .file ⟨1, there ++ [n]⟩ t q ∈ found := by simpa using hmem
    refine (ih hbelow hmem').of_sources ?_ fun d' hd' => ?_
    · exact hhere.trans ((hwalked.expects _ hmem').file_below hbelow)
    · exact hhere.trans ((hwalked.expects _ hd').package_below hbelow)
  | listing htell hfree _ ih => exact ih (SourcesBelow.entries hsrc htell hfree) hmem
  | @file _ here package m data left _ found hfile hfirst hwalked ih =>
    have hpackages {d : Descriptor} (hd : .package d ∈ fileEvent w root here package m :: found) :
        .package d ∈ found := (List.mem_cons.1 hd).resolve_left nofun
    rcases List.mem_cons.1 hmem with heq | hmem
    · obtain ⟨hpath, -, rfl⟩ := Event.file.inj heq
      obtain ⟨rfl, -⟩ := eq_of_path_eq hpath
      refine .outer fun d hd => ?_
      obtain ⟨entry, -, hpre⟩ :=
        (hwalked.expects _ (hpackages hd)).package_below_entry hsrc.tail
      exact not_prefix_of_child hpre
    · exact (ih hsrc.tail hmem).mono (fun d hd => List.mem_cons_of_mem _ hd)
        fun d hd _ => hpackages hd
  | @enter _ here package m cs left _ found more hfirst hwalked hwalked' ih ih' =>
    have hbelow := hsrc m cs List.mem_cons_self
    rcases List.mem_append.1 hmem with hmem | hmem
    · refine (ih hbelow hmem).mono (fun d hd => List.mem_append_left _ hd) fun d hd hpre => ?_
      refine (List.mem_append.1 hd).resolve_right fun hd => ?_
      obtain ⟨entry, hentry, hpre'⟩ := (hwalked'.expects _ hd).package_below_entry hsrc.tail
      have hfile := (hwalked.expects _ hmem).file_below hbelow
      have heq := eq_of_children_above hfile (hpre'.trans hpre)
      exact lt_irrefl _ (heq ▸ hfirst entry hentry)
    · refine (ih' hsrc.tail hmem).mono (fun d hd => List.mem_append_right _ hd) fun d hd hpre => ?_
      refine (List.mem_append.1 hd).resolve_left fun hd => ?_
      have hpre' := (hwalked.expects _ hd).package_below hbelow
      rcases (hwalked'.expects _ hmem).file_below_entry hsrc.tail with rfl | ⟨entry, hentry, hfile⟩
      · exact not_prefix_of_child hpre' hpre
      · have heq := eq_of_children_above (hpre'.trans hpre) hfile
        exact lt_irrefl _ (heq ▸ hfirst entry hentry)
  | @stopped _ here package m cs left _ found _ ih => exact ih (hsrc m cs List.mem_cons_self) hmem

end Walk

end SourceDocs
