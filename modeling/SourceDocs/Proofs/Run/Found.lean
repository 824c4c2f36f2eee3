import SourceDocs.Proofs.Archive.Placed
import SourceDocs.Proofs.Files.Tidy
import SourceDocs.Proofs.Run.Collecting
import SourceDocs.Proofs.Run.Isolated

/-!
# What a run finds

Whatever a run finds has a real path, and the relative path of a file is the way to it from the root
of the walk (`isFound_of_mem`).  This holds with links in the tree, and with trees that the archive
of the run puts where the walk goes on.
-/

namespace SourceDocs.Run

open World Acting SourceDocs.Action

/-! ## Where a run begins -/

/-- Which tree a run walks, and from where on. -/
def start? (s : Settings) : Option (Walk.Mode × Path) :=
  match s.root, s.source with
  | some root, _ => some (.root, root)
  | none, some source => some (.source, source)
  | none, none => none

theorem walk_of_start? {σ : Type} {s : Settings} {mode : Walk.Mode} {start : Path}
    (h : start? s = some (mode, start)) (emit : Walk.Event → ActionWith σ Unit) :
    walk s emit = Walk.walk mode start emit := by
  unfold start? at h
  unfold walk
  split at h <;> cases h <;> simp only [*]

/-- The paths that a run works with have names that stand between slashes, as all paths have that
are read from texts. -/
structure Context.Tidy (x : Context) : Prop where
  destination : Path.AreParts x.destination.names
  start : ∀ mode start, start? x.settings = some (mode, start) → Path.AreParts start.names

/-! ## Jobs of a run -/

/-- The names below a directory that a relative path stands for, with those of the tree. -/
def treeNamesOf (t : Text) : List Text :=
  (Lines.splitAt '/' (t ++ Text.ofString ".json")).filter fun n => !Path.vanishes n

/-- The path of a job below the archive. -/
theorem ofText_jobOf (t : Text) (tree : Value) :
    Path.ofText ((jobOf t tree).relativePath ++ Text.ofString ".json") =
      ⟨0, Text.ofString "source" :: treeNamesOf t⟩ := by
  have hsource : Path.IsPart (Text.ofString "source") := by constructor <;> decide +kernel
  have hslash : Text.ofString "source/" = Text.ofString "source" ++ [CodePoint.ofChar '/'] := by
    decide +kernel
  rw [jobOf, hslash, List.append_assoc, List.append_assoc]
  exact Path.ofText_part_slash hsource _

/-- The file of a job is below the sources of the archive, unless its names lead up. -/
theorem target_jobOf (destination : Path) (t : Text) (tree : Value) :
    Archive.target (Archive.below destination).root (jobOf t tree) =
      ⟨destination.root, destination.names ++
        Archive.directoryName :: Text.ofString "source" :: treeNamesOf t⟩ := by
  have hroot : (Archive.below destination).root = destination.child Archive.directoryName := rfl
  rw [Archive.target, hroot, Archive.child_directoryName, Path.child, ofText_jobOf, Path.join]
  simp [Path.isAbsolute]

/-- The world is tidy if it has been so before. -/
def StaysTidy (w v : World) : Prop := w.Tidy → v.Tidy

instance : IsPreorder World StaysTidy where
  refl _ h := h
  trans _ _ _ h h' hw := h' (h hw)

/-- The jobs of a run keep the world tidy. -/
theorem staysTidy_carryOut {destination : Path} (h : Path.AreParts destination.names) (t : Text)
    (tree : Value) :
    Within StaysTidy (Archive.carryOut (Archive.below destination).root (jobOf t tree)) := by
  intro w hw
  obtain ⟨r, v, hwrite, hsame, -⟩ :=
    Archive.carryOut_cases (Archive.below destination).root (jobOf t tree) w rfl
  refine World.Tidy.of_sameFiles ?_ hsame
  have hparts : Path.AreParts
      (Archive.target (Archive.below destination).root (jobOf t tree)).names :=
    (h.child (Text.ofString "ast")).child _
  have hne : (Archive.target (Archive.below destination).root (jobOf t tree)).names ≠ [] := by
    simp [target_jobOf]
  obtain ⟨w₁, hmakes, ⟨-, rfl⟩ | ⟨names, found, data, hleads, hfound, rfl, -⟩⟩ :=
    Archive.writeTree_cases _ _ w hwrite
  · exact hw.makes hparts.dropLast hmakes
  · have hw₁ := hw.makes hparts.dropLast hmakes
    have hfits := hleads.fits_file hne hfound []
    have hagain := hleads.put hfits
    have hlabels := hw₁.leadsTo hparts hleads
    exact (hw₁.put hfits hlabels).put (hagain.fits_file hne nofun data) hlabels

/-! ## What is found -/

/-- An event with a real path.  The relative path of a file is the way to it from the root, below
which it is unless packages are walked. -/
def IsFound (mode : Walk.Mode) (root : Path) : Walk.Event → Prop
  | .package d => d.path.IsReal
  | .file p t _ =>
    p.IsReal ∧ (mode = .source → root.names <+: p.names) ∧ t = (p.relativeTo root).toText

variable {x : Context} {w : World} {mode : Walk.Mode} {start root : Path}

/-- The run from which a list of events is kept is in a tidy world and has found what is real. -/
structure Finding (x : Context) (mode : Walk.Mode) (root : Path)
    (s : World × Collected × List (Walk.Event × World)) : Prop where
  tidy : s.1.Tidy
  archive : s.2.1.archive.root = (Archive.below x.destination).root
  isFound : ∀ y ∈ s.2.2, IsFound mode root y.1

theorem Finding.noting (hx : x.Tidy) {e : Walk.Event}
    (he : IsFound mode root e) {s : World × Collected × List (Walk.Event × World)}
    (h : Finding x mode root s) : Finding x mode root (outcome (Walk.noting (handle x) e) s).2 := by
  have hsame (v u : World) (hnumbers : v.SameButNumbers u) (hv : v.Tidy) : u.Tidy :=
    hv.of_sameFiles hnumbers.sameFiles
  have hhandle := within_handle (S := StaysTidy) hsame x (e := e)
    (fun _ t _ _ tree => staysTidy_carryOut hx.destination t tree) (s.1, s.2.1) h.archive
  rw [Walk.outcome_noting]
  refine ⟨hhandle.2 h.tidy, hhandle.1, fun y hy => ?_⟩
  rcases List.mem_append.1 hy with hy | hy
  · exact h.isFound y hy
  · rw [List.mem_singleton.1 hy]
    exact he

theorem isReal_descriptor {p : Path} (hp : p.IsReal) :
    (p.child Descriptor.fileName).IsReal ∧ (p.child Descriptor.fileName).parent = p := by
  have hname : Path.ofText Descriptor.fileName = ⟨0, [Descriptor.fileName]⟩ := by decide +kernel
  have hlabels : Path.AreLabels [Descriptor.fileName] := by
    constructor <;> intro n hn <;> rw [List.mem_singleton.1 hn]
    · constructor <;> decide +kernel
    · decide +kernel
  rw [Path.child, hname]
  refine ⟨hp.child hlabels, ?_⟩
  simp [Path.join, Path.isAbsolute, Path.parent]

/-- The source directory of a package has a real path. -/
theorem isReal_sourceDirectory {d : Descriptor} (hw : w.Tidy) (hd : d.path.IsReal) {src : Path}
    (h : (d.sourceDirectory.runIn w).1 = .ok src) : src.IsReal := by
  rcases hrun : d.sourceDirectory.runIn w with ⟨r, v⟩
  rw [hrun] at h
  subst h
  obtain ⟨name, w₁, hname, hrun⟩ := exists_of_runIn_bind hrun
  obtain rfl : w = w₁ := (congrArg Prod.snd hname : _)
  rw [Files.resolve, runIn_bind_ok (runIn_get w), runIn_ofFiles] at hrun
  cases hresolve : w.resolve (d.directory.child name) with
  | error f =>
    rw [hresolve] at hrun
    cases hrun
  | ok q =>
    rw [hresolve] at hrun
    cases hrun
    exact hw.resolve (Path.AreParts.child hd.names.1.dropLast name) hresolve

theorem sight_finding (hroot : root.IsReal) :
    Walk.Sight mode root (fun p => p.IsReal ∧ (mode = .source → root.names <+: p.names))
      (IsFound mode root) fun s t => s = t ∧ Finding x mode root s where
  current h := by rw [h.1]
  entry h _ := by rw [h.1]
  inside h hp hentry hmem :=
    ⟨hp.1.child (h.2.tidy.inside hentry hmem),
      fun hmode => (hp.2 hmode).trans (List.prefix_append _ _)⟩
  logged es h := ⟨by rw [h.1], h.2.tidy.of_sameFiles ⟨rfl, rfl, rfl, rfl⟩, h.2.archive, h.2.isFound⟩
  file _ _ hchild _ := ⟨hchild.1, hchild.2, by rw [relative_of_isReal _ hchild.1 hroot]⟩
  packages hmode := by
    refine ⟨fun h => h.1 ▸ .refl _, fun hp hd => ?_, fun h hd hsrc => ?_⟩
    · rw [IsFound, hd]
      exact (isReal_descriptor hp.1).1
    · refine ⟨isReal_sourceDirectory h.2.tidy hd hsrc, fun hsource => ?_⟩
      rw [hmode] at hsource
      cases hsource

/-- What is found from a tidy world on has a real path. -/
theorem isFound_of_mem (hw : w.Tidy) (hx : x.Tidy)
    (hstart : start? x.settings = some (mode, start)) (hroot : w.resolve start = .ok root) :
    ∀ y ∈ found x w, IsFound mode root y.1 := by
  have hreal := hw.resolve (hx.start mode start hstart) hroot
  have hbegin : Finding x mode root (walkStart x w, emptyCollected x, []) :=
    ⟨hw.of_sameFiles ⟨rfl, rfl, rfl, rfl⟩, rfl, fun y hy => absurd hy List.not_mem_nil⟩
  have hnoting (e : Walk.Event) (he : IsFound mode root e)
      (s : World × Collected × List (Walk.Event × World)) (h : Finding x mode root s) :
      Finding x mode root (outcome (Walk.noting (handle x) e) s).2 := h.noting hx he
  have hsight (root' : Path) (hroot' : (walkStart x w).resolve start = .ok root') :
      Walk.Sight mode root' (fun p => p.IsReal ∧ (mode = .source → root.names <+: p.names))
        (IsFound mode root) (fun s t => s = t ∧ Finding x mode root s) ∧
      root'.IsReal ∧ (mode = .source → root.names <+: root'.names) := by
    obtain rfl : root = root' := Except.ok.inj (hroot.symm.trans hroot')
    exact ⟨sight_finding hreal, hreal, fun _ => List.prefix_refl _⟩
  have hwalk : Finding x mode root
      (outcome (Walk.walk mode start (Walk.noting (handle x)))
        (walkStart x w, emptyCollected x, [])).2 := Walk.holds_walk hnoting hsight hbegin
  rw [found, walk_of_start? hstart]
  exact hwalk.isFound

end SourceDocs.Run
