import SourceDocs.Proofs.Walk.Descriptors
import SourceDocs.Proofs.Walk.Distinct

/-!
# Walks of all files

Without links and descriptor files, the walk of all files and the walk of packages do the same: they
list directory by directory.  They differ in what they ask of the system, and the system refuses
paths that are too long, and in the calls that a directory takes: one or two.  `Walk.Listed` says by
rules how such a walk goes if it may look only into directories that fit, and has only so many calls
left.  By induction on these derivations, a walk finds nothing but the files that are there, in the
order of their names (`Listed.sound`, `Listed.pairwise_files`); it ends well if and only if all
directories fit and none is too deep, and has then found all files (`Listed.ok_iff`,
`Listed.complete`); and if fewer directories fit or each takes more calls, it only ends earlier
(`Listed.isPrefix`).
-/

namespace SourceDocs

namespace Walk

open World SourceDocs.Action

/-- A directory whose path the system accepts. -/
def Fits (here : List Text) : Prop := Files.byteLength (Path.toText ⟨1, here⟩) < Files.pathBound

/-- A directory in which the system accepts the path of a descriptor. -/
def FitsDescriptor (here : List Text) : Prop :=
  Files.byteLength (descriptorPath here).toText < Files.pathBound

theorem FitsDescriptor.fits {here : List Text} (h : FitsDescriptor here) : Fits here :=
  Nat.lt_of_le_of_lt (Files.byteLength_le_child here Descriptor.fileName) h

/-- How a walk from `root` that may look only into directories that fit lists them with so many
calls left, of which each directory takes `cost`, how it ends, and what it finds. -/
inductive Listed (w : World) (cost : Nat) (fits : List Text → Prop) (root : List Text) :
    Nat → Stage → Except Failure Unit → List Event → Prop where
  | short {room : Nat} {here : List Text} {package : Option Descriptor} {es : List (Text × Entry)} :
    room < cost → w.LinkFreeAt here es →
      Listed w cost fits root room (.directory here package) (.error (.raised .tooDeep)) []
  | refused {room : Nat} {here : List Text} {package : Option Descriptor}
      {es : List (Text × Entry)} :
    ¬ fits here → w.LinkFreeAt here es →
      Listed w cost fits root room (.directory here package)
        (.error (.raised (.file .nameTooLong))) []
  | listing {room : Nat} {here : List Text} {package : Option Descriptor}
      {es : List (Text × Entry)} {r : Except Failure Unit} {found : List Event} :
    fits here → w.LinkFreeAt here es →
      Listed w cost fits root room (.entries here package (Entry.inOrder es)) r found →
      Listed w cost fits root (room + cost) (.directory here package) r found
  | done {room : Nat} {here : List Text} {package : Option Descriptor} :
    Listed w cost fits root room (.entries here package []) (.ok ()) []
  | file {room : Nat} {here : List Text} {package : Option Descriptor} {n : Text}
      {data there : List UInt8} {left : List (Text × Entry)} {r : Except Failure Unit}
      {found : List Event} :
    w.tree.get? (here ++ [n]) = some (.file there) → (∀ other ∈ left, n < other.1) →
      Listed w cost fits root room (.entries here package left) r found →
      Listed w cost fits root room (.entries here package ((n, .file data) :: left)) r
        (fileEvent w root here package n :: found)
  | enter {room : Nat} {here : List Text} {package : Option Descriptor} {n : Text}
      {cs left : List (Text × Entry)} {r : Except Failure Unit} {found more : List Event} :
    (∀ other ∈ left, n < other.1) →
      Listed w cost fits root room (.directory (here ++ [n]) package) (.ok ()) found →
      Listed w cost fits root room (.entries here package left) r more →
      Listed w cost fits root room (.entries here package ((n, .directory cs) :: left)) r
        (found ++ more)
  | stopped {room : Nat} {here : List Text} {package : Option Descriptor} {n : Text}
      {cs left : List (Text × Entry)} {f : Failure} {found : List Event} :
    Listed w cost fits root room (.directory (here ++ [n]) package) (.error f) found →
      Listed w cost fits root room (.entries here package ((n, .directory cs) :: left)) (.error f)
        found

variable {w : World} {cost cost' room room' : Nat} {fits fits' : List Text → Prop}
  {root here names : List Text}
  {package : Option Descriptor} {s : Stage} {r r' : Except Failure Unit}
  {found found' : List Event} {es left : List (Text × Entry)} {n : Text} {e : Entry}

/-! ## What is below a stage -/

namespace Stage

/-- The names that lead to something at or below what is left to walk. -/
def Leads : Stage → List Text → Prop
  | .directory here _, names => ∃ rest, names = here ++ rest
  | .entries here _ left, names => ∃ entry ∈ left, ∃ rest, names = here ++ entry.1 :: rest

theorem leads_child : Leads (.directory (here ++ [n]) package) names ↔
    ∃ rest, names = here ++ n :: rest := by
  simp only [Leads, List.append_assoc, List.singleton_append]

theorem leads_cons : Leads (.entries here package ((n, e) :: left)) names ↔
    Leads (.directory (here ++ [n]) package) names ∨ Leads (.entries here package left) names := by
  rw [leads_child]
  simp only [Leads, List.exists_mem_cons_iff]

/-- What is in a directory is under one of its names. -/
theorem leads_listing (hfree : w.LinkFreeAt here es) (he : w.tree.get? names = some e) :
    Leads (.directory here package) names ↔
      names = here ∨ Leads (.entries here package (Entry.inOrder es)) names := by
  constructor
  · rintro ⟨rest, rfl⟩
    cases rest with
    | nil => exact Or.inl (List.append_nil here)
    | cons n more =>
      obtain ⟨ds, c, hds, hc, -⟩ := Entry.get?_append_cons he
      obtain rfl := Entry.directory.inj (Option.some.inj (hds.symm.trans hfree.found))
      exact Or.inr ⟨(n, c), Entry.mem_inOrder.2 (Entry.mem_of_lookup hc), more, rfl⟩
  · rintro (rfl | ⟨entry, -, rest, rfl⟩)
    · exact ⟨[], (List.append_nil names).symm⟩
    · exact ⟨_, rfl⟩

/-- Nothing is below a file. -/
theorem leads_file {data : List UInt8} (hfile : w.tree.get? (here ++ [n]) = some (.file data))
    (he : w.tree.get? names = some e) :
    Leads (.directory (here ++ [n]) package) names ↔ names = here ++ [n] := by
  constructor
  · rintro ⟨rest, rfl⟩
    cases rest with
    | nil => exact List.append_nil _
    | cons m more =>
      obtain ⟨ds, c, hds, -⟩ := Entry.get?_append_cons he
      rw [hfile] at hds
      cases hds
  · rintro rfl
    exact ⟨[], (List.append_nil _).symm⟩

/-- How many directories are entered on the way to the one of these names, itself included. -/
def depth : Stage → List Text → Nat
  | .directory here _, names => names.length + 1 - here.length
  | .entries here _ _, names => names.length - here.length

theorem depth_child : depth (.directory (here ++ [n]) package) names =
    depth (.entries here package left) names := by
  simp only [depth, List.length_append, List.length_singleton, Nat.add_sub_add_right]

theorem depth_self : depth (.directory here package) here = 1 := Nat.add_sub_cancel_left _ 1

theorem depth_listing (h : Leads (.entries here package left) names) :
    depth (.directory here package) names = depth (.entries here package left) names + 1 := by
  obtain ⟨entry, -, rest, rfl⟩ := h
  simp only [depth, List.length_append, List.length_cons]
  omega

/-- A directory that can be walked: its path fits, and it is not too deep. -/
def Holds (cost room : Nat) (fits : List Text → Prop) (s : Stage) (names : List Text) : Prop :=
  fits names ∧ cost * s.depth names ≤ room

theorem holds_child : Holds cost room fits (.directory (here ++ [n]) package) names ↔
    Holds cost room fits (.entries here package left) names := by
  rw [Holds, Holds, depth_child]

theorem holds_self : Holds cost room fits (.directory here package) here ↔
    fits here ∧ cost ≤ room := by
  rw [Holds, depth_self, Nat.mul_one]

/-- A directory takes its calls from those that are left for what is in it. -/
theorem holds_listing (h : Leads (.entries here package left) names) :
    Holds cost (room + cost) fits (.directory here package) names ↔
      Holds cost room fits (.entries here package left) names := by
  rw [Holds, Holds, depth_listing h, Nat.mul_succ, Nat.add_le_add_iff_right]

end Stage

/-- The event of the file at these names. -/
def eventAt (w : World) (root : List Text) (package : Option Descriptor) (names : List Text) :
    Event :=
  .file ⟨1, names⟩ (w.relative ⟨1, names⟩ ⟨1, root⟩).toText package

/-! ## What is found -/

/-- Only files that are there are found. -/
theorem Listed.sound (h : Listed w cost fits root room s r found) :
    ∀ e ∈ found, ∃ names data, s.Leads names ∧ w.tree.get? names = some (.file data) ∧
      e = eventAt w root s.outer names := by
  induction h with
  | short | refused | done => exact fun e he => absurd he List.not_mem_nil
  | listing _ hfree _ ih =>
    intro e he
    obtain ⟨names, data, hleads, hdata, rfl⟩ := ih e he
    exact ⟨names, data, (Stage.leads_listing hfree hdata).2 (Or.inr hleads), hdata, rfl⟩
  | file hfile _ _ ih =>
    refine List.forall_mem_cons.2 ⟨⟨_, _, ?_, hfile, rfl⟩, fun e he => ?_⟩
    · exact Stage.leads_cons.2 (Or.inl ⟨[], (List.append_nil _).symm⟩)
    · obtain ⟨names, data, hleads, hdata, rfl⟩ := ih e he
      exact ⟨names, data, Stage.leads_cons.2 (Or.inr hleads), hdata, rfl⟩
  | enter _ _ _ ih ih' =>
    intro e he
    rcases List.mem_append.1 he with he | he
    · obtain ⟨names, data, hleads, hdata, rfl⟩ := ih e he
      exact ⟨names, data, Stage.leads_cons.2 (Or.inl hleads), hdata, rfl⟩
    · obtain ⟨names, data, hleads, hdata, rfl⟩ := ih' e he
      exact ⟨names, data, Stage.leads_cons.2 (Or.inr hleads), hdata, rfl⟩
  | stopped _ ih =>
    intro e he
    obtain ⟨names, data, hleads, hdata, rfl⟩ := ih e he
    exact ⟨names, data, Stage.leads_cons.2 (Or.inl hleads), hdata, rfl⟩

/-- A walk that ends well finds all files. -/
theorem Listed.complete (h : Listed w cost fits root room s r found) (hr : r = .ok ())
    {data : List UInt8} (hleads : s.Leads names) (hdata : w.tree.get? names = some (.file data)) :
    eventAt w root s.outer names ∈ found := by
  induction h with
  | short | refused | stopped => cases hr
  | listing _ hfree _ ih =>
    refine ih hr (((Stage.leads_listing hfree hdata).1 hleads).resolve_left ?_)
    rintro rfl
    rw [hfree.found] at hdata
    cases hdata
  | done =>
    obtain ⟨entry, hmem, -⟩ := hleads
    cases hmem
  | file hfile _ _ ih =>
    rcases Stage.leads_cons.1 hleads with hleads | hleads
    · rw [(Stage.leads_file hfile hdata).1 hleads]
      exact List.mem_cons_self
    · exact List.mem_cons_of_mem _ (ih hr hleads)
  | enter _ _ _ ih ih' =>
    rcases Stage.leads_cons.1 hleads with hleads | hleads
    · exact List.mem_append_left _ (ih rfl hleads)
    · exact List.mem_append_right _ (ih' hr hleads)

/-- Files are found in the order of their names. -/
theorem Listed.pairwise_files (h : Listed w cost fits root room s r found) :
    (found.filterMap Event.file?).Pairwise (· < ·) := by
  have hnames {room : Nat} {s : Stage} {r : Except Failure Unit} {found : List Event}
      (h : Listed w cost fits root room s r found) {names : List Text}
      (hmem : names ∈ found.filterMap Event.file?) : s.Leads names := by
    obtain ⟨e, he, hname⟩ := List.mem_filterMap.1 hmem
    obtain ⟨names', data, hleads, -, rfl⟩ := h.sound e he
    obtain rfl := Option.some.inj hname
    exact hleads
  induction h with
  | short | refused | done => exact List.Pairwise.nil
  | listing _ _ _ ih => exact ih
  | file _ hfirst hleft ih =>
    refine List.pairwise_cons.2 ⟨fun names hmem => ?_, ih⟩
    obtain ⟨entry, hentry, rest, rfl⟩ := hnames hleft hmem
    exact append_cons_lt (hfirst entry hentry)
  | enter hfirst hchild hleft ih ih' =>
    rw [List.filterMap_append, List.pairwise_append]
    refine ⟨ih, ih', fun names hmem names' hmem' => ?_⟩
    obtain ⟨rest, rfl⟩ := Stage.leads_child.1 (hnames hchild hmem)
    obtain ⟨entry, hentry, rest', rfl⟩ := hnames hleft hmem'
    exact append_cons_lt (hfirst entry hentry)
  | stopped _ ih => exact ih

/-! ## How the walk ends -/

/-- A walk can only be ended by a path that is too long, or by a directory that is too deep. -/
theorem Listed.failure (h : Listed w cost fits root room s r found) :
    r = .ok () ∨ r = .error (.raised (.file .nameTooLong)) ∨ r = .error (.raised .tooDeep) := by
  induction h with
  | short => exact .inr (.inr rfl)
  | refused => exact .inr (.inl rfl)
  | done => exact .inl rfl
  | listing _ _ _ ih | file _ _ _ ih | enter _ _ _ _ ih | stopped _ ih => exact ih

/-- A walk ends well if and only if all directories fit and none is too deep. -/
theorem Listed.ok_iff (h : Listed w cost fits root room s r found) :
    r = .ok () ↔ ∀ names cs, s.Leads names → w.tree.get? names = some (.directory cs) →
      s.Holds cost room fits names := by
  induction h with
  | @short _ here _ es hshort hfree =>
    refine iff_of_false (fun hr => by cases hr) fun hall => ?_
    have hself := hall here es ⟨[], (List.append_nil here).symm⟩ hfree.found
    exact Nat.not_le.2 hshort (Stage.holds_self.1 hself).2
  | @refused _ here _ es hnot hfree =>
    refine iff_of_false (fun hr => by cases hr) fun hall => hnot (hall here es ?_ hfree.found).1
    exact ⟨[], (List.append_nil here).symm⟩
  | listing hfit hfree _ ih =>
    refine ih.trans ⟨fun hall names cs hleads hcs => ?_, fun hall names cs hleads hcs => ?_⟩
    · rcases (Stage.leads_listing hfree hcs).1 hleads with rfl | hleads
      · exact Stage.holds_self.2 ⟨hfit, Nat.le_add_left _ _⟩
      · exact (Stage.holds_listing hleads).2 (hall names cs hleads hcs)
    · exact (Stage.holds_listing hleads).1
        (hall names cs ((Stage.leads_listing hfree hcs).2 (Or.inr hleads)) hcs)
  | done =>
    refine iff_of_true rfl fun names cs hleads _ => ?_
    obtain ⟨entry, hmem, -⟩ := hleads
    cases hmem
  | file hfile _ _ ih =>
    refine ih.trans ⟨fun hall names cs hleads hcs => ?_, fun hall names cs hleads hcs => ?_⟩
    · rcases Stage.leads_cons.1 hleads with hleads | hleads
      · obtain rfl := (Stage.leads_file hfile hcs).1 hleads
        rw [hfile] at hcs
        cases hcs
      · exact hall names cs hleads hcs
    · exact hall names cs (Stage.leads_cons.2 (Or.inr hleads)) hcs
  | enter _ _ _ ih ih' =>
    refine ih'.trans ⟨fun hall names cs hleads hcs => ?_, fun hall names cs hleads hcs => ?_⟩
    · rcases Stage.leads_cons.1 hleads with hleads | hleads
      · exact Stage.holds_child.1 (ih.1 rfl names cs hleads hcs)
      · exact hall names cs hleads hcs
    · exact hall names cs (Stage.leads_cons.2 (Or.inr hleads)) hcs
  | stopped _ ih =>
    refine iff_of_false (fun hr => by cases hr) fun hall => ?_
    have hok := ih.2 fun names cs hleads hcs =>
      Stage.holds_child.2 (hall names cs (Stage.leads_cons.2 (Or.inl hleads)) hcs)
    cases hok

/-- A directory that fits is listed if enough calls are left. -/
theorem Listed.of_fits (h : Listed w cost fits root (room + cost) (.directory here package) r found)
    (hfit : fits here) (hfree : w.LinkFreeAt here es) :
    Listed w cost fits root room (.entries here package (Entry.inOrder es)) r found := by
  generalize hcalls : room + cost = calls at h
  cases h with
  | short hshort => omega
  | refused hnot _ => exact absurd hfit hnot
  | listing _ hfree' hentries =>
    obtain rfl := Nat.add_right_cancel hcalls
    obtain rfl := Entry.directory.inj (Option.some.inj (hfree'.found.symm.trans hfree.found))
    exact hentries

/-- If fewer directories fit, and fewer calls are left or a directory takes more of them, a walk at
most ends earlier. -/
theorem Listed.isPrefix (h' : Listed w cost' fits' root room' s r' found')
    (hfits : ∀ here, fits' here → fits here) (hcost : cost ≤ cost') (hroom : room' ≤ room)
    (h : Listed w cost fits root room s r found) :
    found' <+: found ∧ (r' = .ok () → r = .ok () ∧ found' = found) := by
  induction h' generalizing room r found with
  | short _ _ | refused _ _ => exact ⟨List.nil_prefix, fun hr => by cases hr⟩
  | listing hfit hfree _ ih =>
    obtain ⟨left, rfl⟩ : ∃ left, room = left + cost := ⟨room - cost, by omega⟩
    exact ih (by omega) (h.of_fits (hfits _ hfit) hfree)
  | done =>
    cases h
    exact ⟨List.nil_prefix, fun _ => ⟨rfl, rfl⟩⟩
  | file _ _ _ ih =>
    cases h with
    | file _ _ hleft =>
      obtain ⟨hpre, hend⟩ := ih hroom hleft
      refine ⟨List.cons_prefix_cons.2 ⟨rfl, hpre⟩, fun hr => ?_⟩
      obtain ⟨rfl, rfl⟩ := hend hr
      exact ⟨rfl, rfl⟩
  | enter _ _ _ ih ih' =>
    cases h with
    | enter _ hchild hleft =>
      obtain ⟨-, rfl⟩ := (ih hroom hchild).2 rfl
      obtain ⟨hpre, hend⟩ := ih' hroom hleft
      refine ⟨(List.prefix_append_right_inj _).2 hpre, fun hr => ?_⟩
      obtain ⟨rfl, rfl⟩ := hend hr
      exact ⟨rfl, rfl⟩
    | stopped hchild => cases ((ih hroom hchild).2 rfl).1
  | stopped _ ih =>
    cases h with
    | enter _ hchild _ =>
      exact ⟨(ih hroom hchild).1.trans (List.prefix_append _ _), fun hr => by cases hr⟩
    | stopped hchild => exact ⟨(ih hroom hchild).1, fun hr => by cases hr⟩

/-! ## The walks are derivations -/

section Run

variable (into : Path → ActionWith (List Event) Unit)

/-- If the directories among the entries are listed by derivations, so are the entries. -/
theorem listed_of_visit (horder : left.Pairwise fun s t => s.1 < t.1)
    (hthere : ∀ n e, (n, e) ∈ left → w.tree.get? (here ++ [n]) = some e)
    (hlink : ∀ n target, (n, Entry.link target) ∉ left)
    (hinto : ∀ n cs, (n, .directory cs) ∈ left → ∃ r found,
      Yields w (into ⟨1, here ++ [n]⟩) r found ∧
        Listed w cost fits root room (.directory (here ++ [n]) package) r found) :
    ∃ r found,
      Yields w (left.forM fun (n, e) =>
        visit ⟨1, root⟩ collect into package ⟨1, here ++ [n]⟩ e) r found ∧
      Listed w cost fits root room (.entries here package left) r found := by
  induction left with
  | nil => exact ⟨.ok (), [], Yields.pure (), .done⟩
  | cons entry rest ih =>
    obtain ⟨n, e⟩ := entry
    obtain ⟨hfirst, hrest⟩ := List.pairwise_cons.1 horder
    obtain ⟨r, found, hrun, hlisted⟩ := ih hrest
      (fun m e hm => hthere m e (List.mem_cons_of_mem _ hm))
      (fun m target hm => hlink m target (List.mem_cons_of_mem _ hm))
      (fun m cs hm => hinto m cs (List.mem_cons_of_mem _ hm))
    have hget := hthere n e List.mem_cons_self
    rw [List.forM]
    cases e with
    | link target => exact absurd List.mem_cons_self (hlink n target)
    | file data =>
      exact ⟨r, _, (yields_visit_file into n data).bind_ok hrun, .file hget hfirst hlisted⟩
    | directory cs =>
      obtain ⟨r₁, found₁, hrun₁, hlisted₁⟩ := hinto n cs List.mem_cons_self
      have hvisit := yields_visit_directory root package cs hrun₁
      cases r₁ with
      | ok u => exact ⟨r, _, hvisit.bind_ok hrun, .enter hfirst hlisted₁ hlisted⟩
      | error f => exact ⟨_, _, hvisit.bind_error, .stopped hlisted₁⟩

/-- The walk of all files lists the directories whose paths are not too long, each in one call. -/
theorem listed_of_enter (root : List Text) (package : Option Descriptor) (room : Nat)
    (hfree : w.LinkFreeAt here es) :
    ∃ r found, Yields w (enter .source ⟨1, root⟩ collect room ⟨1, here⟩ package) r found ∧
      Listed w 1 Fits root room (.directory here package) r found := by
  induction room generalizing here es with
  | zero =>
    rw [enter]
    exact ⟨_, _, Yields.throw _, .short Nat.one_pos hfree⟩
  | succ room ih =>
    rw [enter_source, list]
    have hentry := hfree.entry_self
    split_ifs at hentry with hlong
    · have hread : Reads w (Files.entriesIn ⟨1, here⟩) (.error (.raised (.file .nameTooLong))) := by
        have hlooks := Reads.of_looks (w := w) (Looks.entriesIn ⟨1, here⟩)
        rwa [runIn_entriesIn, hentry] at hlooks
      exact ⟨_, _, (Yields.of_reads hread).bind_error, .refused (Nat.not_lt.2 hlong) hfree⟩
    · have hread := reads_entriesIn hentry
      obtain ⟨r, found, hrun, hlisted⟩ := listed_of_visit
        (fun p => enter .source ⟨1, root⟩ collect room p package)
        (Entry.pairwise_inOrder hfree.nodup) (fun n e hmem => hfree.mem_inOrder_iff.1 hmem)
        (fun n target hmem => hfree.not_link_of_mem (Entry.mem_inOrder.1 hmem))
        fun n cs hmem => ih (hfree.below (hfree.mem_inOrder_iff.1 hmem))
      exact ⟨r, found, Yields.reads_bind hread hrun,
        .listing (Nat.lt_of_not_le hlong) hfree hlisted⟩

end Run

/-- The system says whether there is a descriptor unless its path is too long. -/
theorem holds_descriptor_eq_ok (hfree : w.LinkFreeAt here es) :
    (∃ b, w.holds Entry.isFile (descriptorPath here) = .ok b) ↔ FitsDescriptor here := by
  rw [FitsDescriptor, descriptorPath, hfree.holds_name isName_fileName]
  split_ifs with hlong
  · refine iff_of_false ?_ (Nat.not_lt.2 hlong)
    rintro ⟨b, hb⟩
    cases hb
  · exact iff_of_true ⟨_, rfl⟩ (Nat.lt_of_not_le hlong)

/-- Without descriptor files, the walk of packages lists the directories in which the path of a
descriptor is not too long, each in two calls. -/
theorem Walked.listed (h : Walked w root room s r found) (hbare : ∀ here, s.Reaches w here →
      (∃ es, w.LinkFreeAt here es) ∧ w.descriptorData? here = none) :
    Listed w 2 FitsDescriptor root room s r found := by
  have hwithin {s s' : Stage} (hs : s'.Within w s) (hbare : ∀ here, s.Reaches w here →
      (∃ es, w.LinkFreeAt here es) ∧ w.descriptorData? here = none) (here : List Text)
      (hreach : s'.Reaches w here) : (∃ es, w.LinkFreeAt here es) ∧ w.descriptorData? here = none :=
    hbare here (hs.reaches here hreach)
  have hnot {here : List Text} (htell : w.Tells Entry.isFile (descriptorPath here) true)
      (hhere : w.descriptorData? here = none) : False := by
    have hsome := htell.descriptorData?
    rw [hhere] at hsome
    cases hsome
  induction h with
  | buried htell => exact (hnot htell (hbare _ .refl).2).elim
  | unreadable hload | malformed hload | unresolved hload | refused hload | alone hload
  | sources hload => exact (hload.descriptorData? (hbare _ .refl).2).elim
  | exhausted =>
    obtain ⟨⟨es, hes⟩, -⟩ := hbare _ .refl
    exact .short Nat.two_pos hes
  | cramped htell =>
    obtain ⟨⟨es, hes⟩, -⟩ := hbare _ .refl
    exact .short Nat.one_lt_two hes
  | unanswered hfile =>
    obtain ⟨⟨es, hes⟩, -⟩ := hbare _ .refl
    obtain rfl := holds_error hfile
    refine .refused (fun hfits => ?_) hes
    obtain ⟨b, hb⟩ := (holds_descriptor_eq_ok hes).2 hfits
    rw [hfile] at hb
    cases hb
  | listing htell hes _ ih =>
    exact .listing ((holds_descriptor_eq_ok hes).1 ⟨_, htell.answer⟩) hes
      (ih (hwithin (Stage.within_listing _ htell hes) hbare))
  | done => exact .done
  | file hfile hfirst _ ih =>
    obtain ⟨data, hdata⟩ := hfile.2
    exact .file hdata hfirst (ih (hwithin (Stage.within_cons_file hfile) hbare))
  | enter hfirst _ _ ih ih' =>
    exact .enter hfirst (ih (hwithin Stage.within_first hbare))
      (ih' (hwithin Stage.within_rest hbare))
  | stopped _ ih => exact .stopped (ih (hwithin Stage.within_first hbare))

/-! ## Exactness -/

/-- A walk in which a directory takes so many calls finds only the files below a directory, in the
order of their names and without packages; it ends well if and only if all directories fit and none
is too deep, and has then found all files. -/
structure Enumerated (w : World) (cost : Nat) (fits : List Text → Prop) (root : List Text)
    (r : Except Failure Unit) (found : List Event) : Prop where
  sound : ∀ e ∈ found, ∃ rest data, w.tree.get? (root ++ rest) = some (.file data) ∧
    e = .file ⟨1, root ++ rest⟩ (Text.join "/" rest) none
  ordered : (found.filterMap (Event.below? root)).Pairwise (· < ·)
  failure : r = .ok () ∨ r = .error (.raised (.file .nameTooLong)) ∨ r = .error (.raised .tooDeep)
  ok_iff : r = .ok () ↔ ∀ rest cs, w.tree.get? (root ++ rest) = some (.directory cs) →
    fits (root ++ rest) ∧ cost * (rest.length + 1) ≤ w.stack
  complete : r = .ok () → ∀ rest data, w.tree.get? (root ++ rest) = some (.file data) →
    .file ⟨1, root ++ rest⟩ (Text.join "/" rest) none ∈ found

theorem Stage.holds_below {rest : List Text} :
    Stage.Holds cost room fits (.directory root package) (root ++ rest) ↔
      fits (root ++ rest) ∧ cost * (rest.length + 1) ≤ room := by
  have hdepth : (root ++ rest).length + 1 - root.length = rest.length + 1 := by
    rw [List.length_append]
    omega
  rw [Stage.Holds, Stage.depth, hdepth]

theorem Listed.enumerated (h : Listed w cost fits root w.stack (.directory root none) r found)
    (hfree : w.LinkFreeAt root es) : Enumerated w cost fits root r found := by
  have hevent {rest : List Text} {data : List UInt8}
      (hdata : w.tree.get? (root ++ rest) = some (.file data)) :
      eventAt w root none (root ++ rest) =
        .file ⟨1, root ++ rest⟩ (Text.join "/" rest) none := by
    rw [eventAt, toText_relative_file hfree hdata]
  refine ⟨fun e he => ?_, ?_, h.failure, ?_, fun hr rest data hdata => ?_⟩
  · obtain ⟨names, data, ⟨rest, rfl⟩, hdata, rfl⟩ := h.sound e he
    exact ⟨rest, data, hdata, hevent hdata⟩
  · refine pairwise_below (fun e he => ?_) h.pairwise_files
    obtain ⟨names, data, ⟨rest, rfl⟩, -, rfl⟩ := h.sound e he
    exact ⟨rest, rfl⟩
  · refine h.ok_iff.trans ⟨fun hall rest cs hcs => ?_, ?_⟩
    · exact Stage.holds_below.1 (hall _ cs ⟨rest, rfl⟩ hcs)
    · rintro hall names cs ⟨rest, rfl⟩ hcs
      exact Stage.holds_below.2 (hall rest cs hcs)
  · rw [← hevent hdata]
    exact h.complete hr ⟨rest, rfl⟩ hdata

section Runs

variable {start root : Path}

/-- The walk of all files of a link-free tree is a derivation. -/
theorem events_listed (hroot : w.resolve start = .ok root) (hfree : w.LinkFreeAt root.names es) :
    ∃ r found v, (events .source start).runIn w = (.ok (r, found), v) ∧
      Listed w 1 Fits root.names w.stack (.directory root.names none) r found := by
  have hpath : ⟨1, root.names⟩ = root := by rw [← (resolve_shape hroot).1]
  obtain ⟨r, found, hrun, hlisted⟩ := listed_of_enter root.names none w.stack hfree
  rw [hpath] at hrun
  obtain ⟨v, hevents⟩ := runIn_events hroot hrun
  exact ⟨r, found, v, hevents, hlisted⟩

/-- Without descriptor files, so is the walk of packages. -/
theorem events_listed_of_no_descriptors (hroot : w.resolve start = .ok root)
    (hfree : w.LinkFreeAt root.names es)
    (hnone : ∀ rest, w.descriptorData? (root.names ++ rest) = none) :
    ∃ r found v, (events .root start).runIn w = (.ok (r, found), v) ∧
      Listed w 2 FitsDescriptor root.names w.stack (.directory root.names none) r found := by
  have hplain : PlainTexts w root.names := by
    intro rest d t hd _
    simp [packageAt?, hnone rest] at hd
  obtain ⟨r, found, v, hevents, hwalked⟩ := hplain.events hroot hfree
  refine ⟨r, found, v, hevents, hwalked.listed fun here hreach => ?_⟩
  obtain ⟨rest, cs, rfl, hcs⟩ := hplain.linkFreeAt hfree hreach
  exact ⟨⟨cs, hcs⟩, hnone rest⟩

/-- The walk of all files of a tree without links, whatever the order of the entries of its
directories, finds the files that are there at any depth, each once, in the order of the names on
the way to them, and without packages.  It ends well, and then has found them all, if and only if no
directory has a path that is too long and none is deeper than calls may nest.  Without descriptor
files the walk of packages finds the same, as far as the paths of descriptors would not be too long
either; there a directory takes two calls. -/
theorem events_of_all_files (named : w.tree.isWellNamed) (hroot : w.resolve start = .ok root)
    (hdir : w.tree.get? root.names = some (.directory es))
    (free : (Entry.directory es).isLinkFree) :
    ∃ r found v, (events .source start).runIn w = (.ok (r, found), v) ∧
      Enumerated w 1 Fits root.names r found ∧
      ((∀ rest, w.descriptorData? (root.names ++ rest) = none) →
        ∃ r' found' v', (events .root start).runIn w = (.ok (r', found'), v') ∧
          Enumerated w 2 FitsDescriptor root.names r' found' ∧ found' <+: found ∧
          (r' = .ok () → r = .ok () ∧ found' = found)) := by
  have hfree : w.LinkFreeAt root.names es := ⟨hdir, named, free⟩
  obtain ⟨r, found, v, hevents, hlisted⟩ := events_listed hroot hfree
  refine ⟨r, found, v, hevents, hlisted.enumerated hfree, fun hnone => ?_⟩
  obtain ⟨r', found', v', hevents', hlisted'⟩ := events_listed_of_no_descriptors hroot hfree hnone
  obtain ⟨hpre, hend⟩ := hlisted'.isPrefix (fun _ => FitsDescriptor.fits) (by decide) le_rfl hlisted
  exact ⟨r', found', v', hevents', hlisted'.enumerated hfree, hpre, hend⟩

/-- Whether a tree holds descriptor files can be seen from its paths. -/
theorem descriptorData?_eq_none_of_paths
    (h : w.tree.paths.all fun names => names.getLast? != some Descriptor.fileName)
    (here : List Text) : w.descriptorData? here = none := by
  cases hdata : w.descriptorData? here with
  | none => rfl
  | some data =>
    have hlast := List.all_eq_true.1 h _ (Entry.mem_paths (get?_descriptor hdata))
    simp at hlast

/-- The entries of a tree in which the order of paths as texts is not that of their names. -/
def unsorted : List (Text × Entry) :=
  [("a-b", .file []), ("a", .directory [("z.py", .file []), ("b.py", .file [])])]

theorem outcome_unsorted : outcome (rooted unsorted) = .ok (.ok (),
    [⟨1, ["root", "a", "b.py"]⟩, ⟨1, ["root", "a", "z.py"]⟩, ⟨1, ["root", "a-b"]⟩]) :=
  eq_of_ending? none (by decide +kernel)

theorem events_of_all_files_unsorted : ∃ found v v',
    (events .source ⟨1, ["root"]⟩).runIn (rooted unsorted) = (.ok (.ok (), found), v) ∧
      (events .root ⟨1, ["root"]⟩).runIn (rooted unsorted) = (.ok (.ok (), found), v') ∧
      Enumerated (rooted unsorted) 1 Fits ["root"] (.ok ()) found := by
  have hresolve : (rooted unsorted).resolve ⟨1, ["root"]⟩ = .ok ⟨1, ["root"]⟩ := by decide +kernel
  obtain ⟨r, found, v, hrun, hfound, hroot⟩ :=
    events_of_all_files (by decide +kernel) hresolve (get?_rooted unsorted) (by decide +kernel)
  obtain ⟨r', found', v', hrun', -, -, hend⟩ :=
    hroot fun rest => descriptorData?_eq_none_of_paths (by decide +kernel) _
  obtain ⟨found₁, v₁, hrun₁, -⟩ := runIn_of_outcome outcome_unsorted
  obtain ⟨hresult, -⟩ := Prod.mk.inj (hrun'.symm.trans hrun₁)
  obtain ⟨rfl, -⟩ := Prod.mk.inj (Except.ok.inj hresult)
  obtain ⟨rfl, rfl⟩ := hend rfl
  exact ⟨_, v, v', hrun, hrun', hfound⟩

/-- The names of a directory with a path of 4085 bytes. -/
def buriedNames : List Text :=
  List.replicate 15 (List.replicate 255 (CodePoint.ofChar 'x')) ++
    [List.replicate 244 (CodePoint.ofChar 'x')]

/-- A world with a file in such a directory. -/
def buried : World where
  tree := buriedNames.foldr (fun n e => .directory [(n, e)]) (.directory [("z.py", .file [])])
  current := []
  home := ⟨1, []⟩

theorem fits_buried : Fits buriedNames := by
  unfold Fits
  decide +kernel

theorem not_fitsDescriptor_buried : ¬ FitsDescriptor buriedNames := by
  unfold FitsDescriptor
  decide +kernel

theorem get?_foldr_directory (names : List Text) (e : Entry) :
    (names.foldr (fun n e => Entry.directory [(n, e)]) e).get? names = some e := by
  induction names with
  | nil => exact Entry.get?_nil e
  | cons n rest ih =>
    rw [List.foldr_cons, Entry.get?_cons, Entry.entries, Entry.lookup_cons_eq, Option.bind_some, ih]

theorem linkFreeAt_buried : buried.LinkFreeAt buriedNames [("z.py", .file [])] :=
  ⟨get?_foldr_directory _ _, by decide +kernel, by decide +kernel⟩

theorem no_descriptors_buried : ∀ here, buried.descriptorData? here = none :=
  descriptorData?_eq_none_of_paths (by decide +kernel)

theorem resolve_buried : buried.resolve ⟨1, buriedNames⟩ = .ok ⟨1, buriedNames⟩ := by
  have hdots : Path.NoDots [] := fun _ h => absurd h List.not_mem_nil
  have hsrc := linkFreeAt_buried.resolve_straight hdots
  rw [List.append_nil, Files.checkPath_of_isName linkFreeAt_buried.isName_here] at hsrc
  exact hsrc

/-- In a directory whose path is almost too long, the walk of packages fails where the walk of all
files does not. -/
theorem events_buried :
    buried.tree.isWellNamed ∧ buried.tree.isLinkFree ∧
    (∀ here, buried.descriptorData? here = none) ∧
    (∃ v, (events .source ⟨1, buriedNames⟩).runIn buried =
      (.ok (.ok (), [fileEvent buried buriedNames buriedNames none "z.py"]), v)) ∧
    ∃ f v, (events .root ⟨1, buriedNames⟩).runIn buried = (.ok (.error f, []), v) := by
  obtain ⟨r, found, v, hrun, hlisted⟩ := events_listed resolve_buried linkFreeAt_buried
  obtain ⟨r', found', v', hrun', hlisted'⟩ :=
    events_listed_of_no_descriptors resolve_buried linkFreeAt_buried fun _ =>
      no_descriptors_buried _
  refine ⟨linkFreeAt_buried.named, by decide +kernel, no_descriptors_buried, ?_, ?_⟩
  · cases hlisted.of_fits fits_buried linkFreeAt_buried with
    | file _ _ hleft =>
      cases hleft
      exact ⟨v, hrun⟩
  · cases hlisted' with
    | short hshort _ => exact absurd hshort (by decide)
    | refused _ _ => exact ⟨_, v', hrun'⟩
    | listing hfits _ _ => exact absurd hfits not_fitsDescriptor_buried

end Runs

end Walk

end SourceDocs
