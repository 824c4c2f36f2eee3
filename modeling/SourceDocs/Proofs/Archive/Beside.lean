import SourceDocs.Proofs.Archive.Holding

/-!
# What is beside the archive

The archive puts its directories and files under one name of the destination.  What the destination
has under another name stays (`Archived.entry_beside`), also if the destination is created on the
way.  Only a path with double dots can lead through directories that the archive creates and leave
them again, and so end at a place where one of them is beside the archive.
-/

namespace SourceDocs

open Files Entry World

namespace Archive

variable {destination q : Path} {v v' w : World} {names place rest : List Text} {n : Text}
  {old found : Option Entry} {e : Entry}

/-- A destination without links has this under a name, or leads to no directory and can have nothing
under the name once it does. -/
inductive Has (destination : Path) (n : Text) (old : Option Entry) (v : World) : Prop where
  | nowhere : Path.NoDots destination.names → (∀ place, ¬ v.IsPlace destination place) →
      old = none → Has destination n old v
  | there {place : List Text} : v.IsPlace destination place → NoLinks v.tree place →
      v.tree.get? (place ++ [n]) = old → Has destination n old v

/-- What is there under the name is what the path to it leads to. -/
theorem Has.entry_iff (h : Has destination n old v) (hn : IsPlain n) :
    v.entry ⟨destination.root, destination.names ++ [n]⟩ = .ok e ↔
      checkLookup ⟨destination.root, destination.names ++ [n]⟩ = .ok () ∧ old = some e := by
  have hdots : Path.NoDots [n] := fun m hm => List.mem_singleton.1 hm ▸ hn.1
  rw [entry_eq_ok]
  refine and_congr_right fun _ => ?_
  cases h with
  | nowhere _ hnowhere hold =>
    constructor
    · rintro ⟨names, hleads⟩
      obtain ⟨place, -, hplace, -⟩ := hleads.through (List.cons_ne_nil _ _)
      exact absurd hplace (hnowhere place)
    · intro hsome
      rw [hold] at hsome
      cases hsome
  | @there place hplace hlinks hold =>
    constructor
    · rintro ⟨names, hleads⟩
      obtain rfl := hleads.straight hplace hlinks hdots (List.cons_ne_nil _ _)
      exact hold.symm.trans (Leads.get? hleads)
    · intro hsome
      obtain ⟨es, hes⟩ := hplace
      obtain ⟨j, hj⟩ := Leads.join hes (IsPlace.kind? ⟨es, hes⟩)
      refine ⟨place ++ [n], hj _ _ (leads_of_get? (hold.trans hsome) hlinks fun m hm => ?_)⟩
      rwa [List.mem_singleton.1 hm]

/-! ## What the archive does -/

theorem apart_beside (place more : List Text) {m : Text} (h : n ≠ m) :
    Apart (place ++ m :: more) (place ++ [n]) := by
  constructor
  · rw [List.prefix_append_right_inj, List.cons_prefix_cons]
    exact fun heq => h heq.1.symm
  · rw [List.prefix_append_right_inj, List.cons_prefix_cons]
    exact fun heq => h heq.1

/-- A directory that is put where nothing is has nothing in it. -/
theorem kind?_below_empty (hmissing : v.LeadsTo q (names, none)) (hrest : rest ≠ []) :
    (v.put names Entry.empty).tree.kind? (names ++ rest) = none := by
  have hne : ¬ names ++ rest = names := fun heq => hrest (List.append_right_eq_self.1 heq)
  rw [World.put, (Leads.fits_empty hmissing).kind?_set, if_neg hne, kind?, get?_append,
    Leads.get? hmissing]
  rfl

/-- A path through a new directory leads no further than to what is missing there. -/
theorem not_isPlace_below_empty (hmissing : v.LeadsTo q (names, none)) (hrest : rest ≠ [])
    (hdots : Path.NoDots rest) :
    ¬ (v.put names Entry.empty).IsPlace ⟨q.root, q.names ++ rest⟩ place := by
  rintro ⟨es, hleads⟩
  obtain ⟨there, j, hthere, hbelow⟩ := hleads.through hrest
  obtain rfl := hthere.unique ⟨[], hmissing.put (Leads.fits_empty hmissing)⟩
  obtain ⟨m, more, rfl⟩ := List.exists_cons_of_ne_nil hrest
  have hnothing := kind?_below_empty hmissing (List.cons_ne_nil m [])
  cases hbelow with
  | up _ hup => rw [hdots m List.mem_cons_self] at hup; cases hup
  | link _ _ hlink => rw [hnothing] at hlink; cases hlink
  | into _ _ hinto => rw [hnothing] at hinto; cases hinto

/-- The destination leads nowhere until it is created itself, and then it is empty. -/
theorem Has.created (hdestination : Path.NoDots destination.names)
    (hroot : q.root = destination.root) (hway : q.names <+: destination.names)
    (hmissing : v.LeadsTo q (names, none)) :
    Has destination n none (v.put names Entry.empty) := by
  obtain ⟨more, hmore⟩ := hway
  obtain rfl : destination = ⟨q.root, q.names ++ more⟩ := by rw [hroot, hmore]
  by_cases hnil : more = []
  · subst hnil
    rw [List.append_nil]
    refine .there ⟨[], hmissing.put (Leads.fits_empty hmissing)⟩ (fun rest target hlink => ?_) ?_
    · by_cases hrest : rest = []
      · rw [hrest, List.append_nil, World.put, (Leads.fits_empty hmissing).kind?_set,
          if_pos rfl] at hlink
        cases hlink
      · rw [kind?_below_empty hmissing hrest] at hlink
        cases hlink
    · exact kind?_eq_none.1 (kind?_below_empty hmissing (List.cons_ne_nil _ _))
  · refine .nowhere hdestination (fun place => not_isPlace_below_empty hmissing hnil ?_) rfl
    exact fun m hm => hdestination m (List.mem_append_right _ hm)

theorem Has.directory (h : Has destination n old v) (hne : n ≠ directoryName)
    (hroot : q.root = destination.root)
    (hway : q.names <+: destination.names ++ directoryName :: rest) (hdots : Path.NoDots rest)
    (hmissing : v.LeadsTo q (names, none)) : Has destination n old (v.put names Entry.empty) := by
  cases h with
  | nowhere hdestination hnowhere hold =>
    subst hold
    refine .created hdestination hroot ?_ hmissing
    -- What is missing is not below the destination, which is missing itself.
    rcases List.prefix_or_prefix_of_prefix hway (List.prefix_append _ _) with hq | ⟨more, hmore⟩
    · exact hq
    · by_cases hnil : more = []
      · have hsame : q.names = destination.names := by rw [← hmore, hnil, List.append_nil]
        exact hsame ▸ List.prefix_refl _
      · obtain ⟨root, qnames⟩ := q
        obtain rfl : root = destination.root := hroot
        obtain rfl : destination.names ++ more = qnames := hmore
        obtain ⟨place, -, hplace, -⟩ := hmissing.through hnil
        exact absurd hplace (hnowhere place)
  | @there place hplace hlinks hold =>
    have hfits := Leads.fits_empty hmissing
    obtain ⟨more, hmore, hway, rfl⟩ := hplace.exists_below hlinks hroot hway
      (noDots_directoryName.append hdots) hmissing
    refine .there (hplace.put hfits) (hlinks.set hfits) ?_
    obtain ⟨m, more, rfl⟩ := List.exists_cons_of_ne_nil hmore
    obtain rfl : m = directoryName := (List.cons_prefix_cons.1 hway).1
    exact (get?_set_of_apart (apart_beside place more hne) _).trans hold

theorem Has.file (h : Has destination n old v) (hne : n ≠ directoryName) (hdots : Path.NoDots rest)
    (hleads :
      v.LeadsTo ⟨destination.root, destination.names ++ directoryName :: rest⟩ (names, found))
    (hfound : ∀ es, found ≠ some (.directory es)) (data : List UInt8) :
    Has destination n old (v.put names (.file data)) := by
  have hfits := hleads.fits_file (by simp) hfound data
  cases h with
  | nowhere _ hnowhere _ =>
    obtain ⟨place, -, hplace, -⟩ := hleads.through (List.cons_ne_nil _ _)
    exact absurd hplace (hnowhere place)
  | @there place hplace hlinks hold =>
    obtain rfl := hleads.straight hplace hlinks (noDots_directoryName.append hdots)
      (List.cons_ne_nil _ _)
    refine .there (hplace.put hfits) (hlinks.set hfits) ?_
    exact (get?_set_of_apart (apart_beside place rest hne) _).trans hold

theorem Has.of_sameFiles (h : Has destination n old v) (hsame : v.SameFiles w) :
    Has destination n old w := by
  cases h with
  | nowhere hdestination hnowhere hold =>
    exact .nowhere hdestination (fun place hplace => hnowhere place (hsame.isPlace_iff.1 hplace))
      hold
  | there hplace hlinks hold =>
    refine .there (hsame.isPlace_iff.2 hplace) ?_ ?_
    · rwa [hsame.tree]
    · rwa [hsame.tree]

theorem Has.archived (h : Has destination n old v) (hne : n ≠ directoryName)
    (harchived : Archived destination v w) : Has destination n old w := by
  induction harchived with
  | refl => exact h
  | tail _ hstep ih =>
    cases hstep with
    | directory hroot hway hdots hmissing => exact ih.directory hne hroot hway hdots hmissing
    | file data hdots hleads hfound => exact ih.file hne hdots hleads hfound data
    | other hsame => exact ih.of_sameFiles hsame

/-! ## What stays -/

/-- A destination that the archive creates at most at its own end: it exists, or there are no double
dots in its path. Where it exists, it has no links. -/
structure IsSafe (destination : Path) (w : World) : Prop where
  reached : Path.NoDots destination.names ∨ ∃ place, w.IsPlace destination place
  noLinks : ∀ place, w.IsPlace destination place → NoLinks w.tree place

/-- Whatever is archived, a name beside the archive leads to what it has led to before. -/
theorem Archived.entry_beside (h : Archived destination v w) (hsafe : IsSafe destination v)
    (hn : IsPlain n) (hne : n ≠ directoryName) :
    (w.entry ⟨destination.root, destination.names ++ [n]⟩).toOption =
      (v.entry ⟨destination.root, destination.names ++ [n]⟩).toOption := by
  obtain ⟨old, hold⟩ : ∃ old, Has destination n old v := by
    by_cases hplace : ∃ place, v.IsPlace destination place
    · obtain ⟨place, hplace⟩ := hplace
      exact ⟨_, .there hplace (hsafe.noLinks place hplace) rfl⟩
    · exact ⟨none, .nowhere (hsafe.reached.resolve_right hplace) (not_exists.1 hplace) rfl⟩
  refine Option.ext fun e => ?_
  rw [toOption_eq_some_iff, toOption_eq_some_iff, hold.entry_iff hn,
    (hold.archived hne h).entry_iff hn]

end Archive

end SourceDocs
