import SourceDocs.Proofs.Archive.Placed

/-!
# What a destination holds

A destination need not exist when a run begins; where it leads to may even depend on the directories
that the run creates on the way.  `Holds` says which files are below a destination that held nothing
in the beginning, wherever it turns out to be.  The creation of directories where nothing is changes
nothing about it (`Holds.makes`), a file that is put below the destination is there (`Holds.file`),
and so the files are those of the jobs that were carried out (`Holds.carryOut`).
-/

namespace SourceDocs

open Files Entry World

/-- The files below a directory, by their names from there on. -/
abbrev FileMap := List Text → Option (List UInt8)

variable {destination p q : Path} {w v v' : World} {files : FileMap}
  {names place rest : List Text} {e : Entry} {found : Option Entry}

/-! ## Paths through a directory -/

namespace World

/-- A path leads to a directory. -/
def IsPlace (v : World) (p : Path) (place : List Text) : Prop :=
  ∃ es, v.LeadsTo p (place, some (.directory es))

theorem SameFiles.leadsTo (h : v.SameFiles v') {r : List Text × Option Entry}
    (hleads : v.LeadsTo p r) : v'.LeadsTo p r := by
  unfold LeadsTo start at *
  rw [h.tree, h.current]
  exact hleads

theorem SameFiles.isPlace_iff (h : v.SameFiles v') : v'.IsPlace p place ↔ v.IsPlace p place :=
  ⟨fun ⟨es, hes⟩ => ⟨es, h.symm.leadsTo hes⟩, fun ⟨es, hes⟩ => ⟨es, h.leadsTo hes⟩⟩

theorem IsPlace.unique (h : v.IsPlace p place) (h' : v.IsPlace p names) : place = names := by
  obtain ⟨es, hes⟩ := h
  obtain ⟨ds, hds⟩ := h'
  exact congrArg Prod.fst (hes.unique hds)

theorem IsPlace.kind? (h : v.IsPlace p place) : v.tree.kind? place = some .directory := by
  obtain ⟨es, hes⟩ := h
  exact kind?_eq_directory.2 ⟨es, Leads.get? hes⟩

/-- A place stays one when something is put where it fits. -/
theorem IsPlace.put (h : v.IsPlace p place) (hfits : Fits v.tree names e) :
    (v.put names e).IsPlace p place := by
  obtain ⟨es, hes⟩ := h
  have hdir : v.tree.kind? place = some .directory := IsPlace.kind? ⟨es, hes⟩
  obtain ⟨ds, hds⟩ := kind?_eq_directory.1 (hfits.grows _ _ hdir)
  have hleads := Leads.directory_of_grows hes hdir hfits.grows
  rw [hds] at hleads
  exact ⟨ds, hleads⟩

/-- A path leads through the places of the paths before it. -/
theorem LeadsTo.through {r : List Text × Option Entry}
    (h : v.LeadsTo ⟨p.root, p.names ++ rest⟩ r) (hrest : rest ≠ []) :
    ∃ place j, v.IsPlace p place ∧ Leads v.tree j place rest r := by
  obtain ⟨place, j, hdir, hfirst, hmore⟩ := Leads.split h hrest
  obtain ⟨es, hes⟩ := kind?_eq_directory.1 hdir
  rw [hes] at hfirst
  exact ⟨place, j, ⟨es, hfirst⟩, hmore⟩

/-- What is put below a place without links is put under the names that lead there. -/
theorem LeadsTo.straight (h : v.LeadsTo ⟨p.root, p.names ++ rest⟩ (names, found))
    (hplace : v.IsPlace p place) (hlinks : NoLinks v.tree place) (hdots : Path.NoDots rest)
    (hrest : rest ≠ []) : names = place ++ rest := by
  obtain ⟨place', j, hplace', hmore⟩ := h.through hrest
  obtain rfl := hplace.unique hplace'
  exact hmore.straight hlinks hdots

/-- Nothing missing is on the way to a place. -/
theorem IsPlace.not_missing (h : v.IsPlace p place) (hroot : q.root = p.root)
    (hway : q.names <+: p.names) : ¬ v.LeadsTo q (names, none) := by
  intro hmissing
  obtain ⟨more, hmore⟩ := hway
  obtain ⟨es, hes⟩ := h
  obtain ⟨root, pnames⟩ := p
  obtain rfl : q.root = root := hroot
  obtain rfl : q.names ++ more = pnames := hmore
  by_cases hnil : more = []
  · subst hnil
    rw [List.append_nil] at hes
    cases hes.unique hmissing
  · obtain ⟨place', j, ⟨ds, hds⟩, -⟩ := hes.through hnil
    cases hds.unique hmissing

/-- What is missing on the way to something below a place is missing below the place. -/
theorem IsPlace.exists_below (h : v.IsPlace p place) (hlinks : NoLinks v.tree place)
    (hroot : q.root = p.root) (hway : q.names <+: p.names ++ rest) (hdots : Path.NoDots rest)
    (hmissing : v.LeadsTo q (names, none)) :
    ∃ more, more ≠ [] ∧ more <+: rest ∧ names = place ++ more := by
  obtain ⟨more, hmore, hne⟩ : ∃ more, q.names = p.names ++ more ∧ more ≠ [] := by
    rcases List.prefix_or_prefix_of_prefix hway (List.prefix_append _ _) with hq | ⟨more, hmore⟩
    · exact absurd hmissing (h.not_missing hroot hq)
    · refine ⟨more, hmore.symm, fun hnil => ?_⟩
      rw [hnil, List.append_nil] at hmore
      exact h.not_missing hroot (hmore ▸ List.prefix_refl _) hmissing
  rw [hmore, List.prefix_append_right_inj] at hway
  obtain ⟨root, qnames⟩ := q
  obtain rfl : root = p.root := hroot
  obtain rfl : qnames = p.names ++ more := hmore
  exact ⟨more, hne, hway, hmissing.straight h hlinks (fun n hn => hdots n (hway.subset hn)) hne⟩

end World

/-! ## What a destination holds -/

/-- Nothing is below names. -/
def Vacant (w : World) (place : List Text) : Prop := ∀ n, w.tree.get? (place ++ [n]) = none

theorem Vacant.get?_eq_none (h : Vacant w place) (hrest : rest ≠ []) :
    w.tree.get? (place ++ rest) = none := by
  obtain ⟨n, more, rfl⟩ := List.exists_cons_of_ne_nil hrest
  have happend : place ++ n :: more = place ++ [n] ++ more := by simp
  rw [happend, get?_append, h n, Option.bind_none]

/-- These are the files below the destination, where `w` was the world in the beginning. -/
structure Holds (destination : Path) (w v : World) (files : FileMap) : Prop where
  current : v.current = w.current
  /-- As long as the destination leads to no directory, nothing but directories is new. -/
  before : (∀ place, ¬ v.IsPlace destination place) →
    (∀ names k, v.tree.kind? names = some k → w.tree.kind? names = some k ∨ k = .directory) ∧
      ∀ names, files names = none
  /-- If it leads to a place that was vacant, the files are there, and no links. -/
  after : ∀ place, v.IsPlace destination place → Vacant w place →
    NoLinks v.tree place ∧ ∀ names, names ≠ [] → v.tree.data? (place ++ names) = files names

namespace Holds

theorem refl (destination : Path) (w : World) : Holds destination w w fun _ => none where
  current := rfl
  before _ := ⟨fun _ _ h => .inl h, fun _ => rfl⟩
  after place hplace hvacant := by
    constructor
    · intro rest target hlink
      by_cases hrest : rest = []
      · rw [hrest, List.append_nil, hplace.kind?] at hlink
        cases hlink
      · rw [kind?, hvacant.get?_eq_none hrest] at hlink
        cases hlink
    · intro names hnames
      rw [data?, hvacant.get?_eq_none hnames]
      rfl

theorem of_sameFiles (h : Holds destination w v files) (hsame : v.SameFiles v') :
    Holds destination w v' files where
  current := hsame.current.trans h.current
  before hnone := by
    rw [hsame.tree]
    exact h.before fun place hplace => hnone place (hsame.isPlace_iff.2 hplace)
  after place hplace hvacant := by
    rw [hsame.tree]
    exact h.after place (hsame.isPlace_iff.1 hplace) hvacant

/-- A directory where nothing is changes nothing. -/
theorem directory (h : Holds destination w v files) (hmissing : v.LeadsTo q (names, none)) :
    Holds destination w (v.put names Entry.empty) files := by
  have hfits := Leads.fits_empty hmissing
  by_cases hsome : ∃ place, v.IsPlace destination place
  · -- The destination is there, so the directory is below it.
    obtain ⟨place, hplace⟩ := hsome
    have hplace' := hplace.put hfits
    refine ⟨h.current, fun hnone => absurd hplace' (hnone place), fun place' hplace'' hvacant => ?_⟩
    obtain rfl := hplace'.unique hplace''
    obtain ⟨hlinks, hfiles⟩ := h.after place hplace hvacant
    refine ⟨hlinks.set hfits, fun there hthere => ?_⟩
    rw [World.put, hfits.data?_set]
    split_ifs with heq
    · rw [← hfiles there hthere, heq, data?, Leads.get? hmissing]
      rfl
    · exact hfiles there hthere
  · -- All that is new is directories, also below the place that the destination leads to now.
    rw [not_exists] at hsome
    obtain ⟨hnew, hnone⟩ := h.before hsome
    have hnew' : ∀ there k, (v.put names Entry.empty).tree.kind? there = some k →
        w.tree.kind? there = some k ∨ k = .directory := by
      intro there k hk
      rw [World.put, hfits.kind?_set] at hk
      split_ifs at hk
      · exact .inr (Option.some.inj hk).symm
      · exact hnew there k hk
    have hbelow {place more : List Text} (hvacant : Vacant w place) (hne : more ≠ []) {k : Kind}
        (hk : (v.put names Entry.empty).tree.kind? (place ++ more) = some k) : k = .directory := by
      refine (hnew' _ k hk).resolve_left fun hold => ?_
      rw [kind?, hvacant.get?_eq_none hne] at hold
      cases hold
    refine ⟨h.current, fun _ => ⟨hnew', hnone⟩, fun place hplace hvacant => ⟨?_, ?_⟩⟩
    · intro rest target hlink
      by_cases hrest : rest = []
      · rw [hrest, List.append_nil, hplace.kind?] at hlink
        cases hlink
      · cases hbelow hvacant hrest hlink
    · intro names hnames
      rw [hnone names]
      by_contra hdata
      obtain ⟨data, hdata⟩ := Option.ne_none_iff_exists'.1 hdata
      cases hbelow hvacant hnames (kind?_of_data? hdata)

/-- A file that is put below the destination is there. -/
theorem file (h : Holds destination w v files) (hdots : Path.NoDots rest) (hrest : rest ≠ [])
    (hleads : v.LeadsTo ⟨destination.root, destination.names ++ rest⟩ (names, found))
    (hfound : ∀ es, found ≠ some (.directory es)) (data : List UInt8) :
    Holds destination w (v.put names (.file data)) (Function.update files rest (some data)) := by
  have hne : destination.names ++ rest ≠ [] := by simp [hrest]
  have hfits := hleads.fits_file hne hfound data
  obtain ⟨place, j, hplace, -⟩ := hleads.through hrest
  have hplace' := hplace.put hfits
  refine ⟨h.current, fun hnone => absurd hplace' (hnone place), fun place' hplace'' hvacant => ?_⟩
  obtain rfl := hplace'.unique hplace''
  obtain ⟨hlinks, hfiles⟩ := h.after place hplace hvacant
  obtain rfl := hleads.straight hplace hlinks hdots hrest
  refine ⟨hlinks.set hfits, fun names hnames => ?_⟩
  rw [World.put, hfits.data?_set]
  by_cases heq : names = rest
  · rw [heq, if_pos rfl, Function.update_self]
    rfl
  · rw [if_neg (by simpa using heq), Function.update_of_ne heq]
    exact hfiles names hnames

theorem makes (h : Holds destination w v files)
    (hmakes : Relation.ReflTransGen (Action.Makes p) v v') : Holds destination w v' files := by
  induction hmakes with
  | refl => exact h
  | tail _ hstep ih =>
    obtain ⟨-, -, hmissing⟩ := hstep
    exact ih.directory hmissing

/-- The file of a job that succeeds is there, with all of its tree. -/
theorem carryOut {j : Archive.Job} {path : Path} (h : Holds destination w v files)
    (hj : j.Inside names)
    (hrun : (Archive.carryOut (Archive.below destination).root j).runIn v = (.ok path, v')) :
    ∃ data, Archive.treeData j.tree = some data ∧
      Holds destination w v'
        (Function.update files (Archive.directoryName :: names) (some data)) := by
  obtain ⟨v₁, place, found, data, hdata, hmakes, hleads, hfound, hsame⟩ :=
    Archive.carryOut_ok hj hrun
  have hdots : Path.NoDots (Archive.directoryName :: names) :=
    Archive.noDots_directoryName.append hj.noDots
  have h₁ := h.makes hmakes
  -- The file is emptied before it is written.
  have h₂ := h₁.file hdots (List.cons_ne_nil _ _) hleads hfound []
  have hagain := hleads.put (hleads.fits_file (by simp) hfound [])
  have h₃ := h₂.file hdots (List.cons_ne_nil _ _) hagain (fun es hfalse => by cases hfalse) data
  rw [Function.update_idem] at h₃
  exact ⟨data, hdata, h₃.of_sameFiles hsame⟩

end Holds

end SourceDocs
