import SourceDocs.Proofs.Run.Found
import SourceDocs.Proofs.Run.Sample

/-!
# What stays below the archive

The relative path of a file that is not below the root of the walk leads up, and so does that of its
tree in the archive.  The tree of a file below the root is archived below the sources
(`found_contained`), and in a walk over sources all files are below the root.
-/

namespace SourceDocs

open World

namespace Path

theorem withoutDots_append {rest : List Text} (h : NoDots rest) (names : List Text) :
    withoutDots (names ++ rest) = withoutDots names ++ rest := by
  rw [withoutDots_eq_foldl, withoutDots_eq_foldl, List.foldl_append,
    foldl_keepName_of_noDots h, List.reverse_append, List.reverse_reverse]

end Path

namespace World

/-- A path below another one is below it from the root on, unless it leads up. -/
theorem absolute_append (w : World) {p : Path} {rest : List Text} (h : Path.NoDots rest) :
    w.absolute ⟨p.root, p.names ++ rest⟩ = ⟨1, (w.absolute p).names ++ rest⟩ := by
  unfold World.absolute
  have habsolute : (Path.mk p.root (p.names ++ rest)).isAbsolute = p.isAbsolute := rfl
  rw [habsolute]
  split_ifs
  · rw [Path.withoutDots_append h]
  · rw [← List.append_assoc, Path.withoutDots_append h]

end World

namespace Run

variable {x : Context} {w : World} {mode : Walk.Mode} {start root : Path}

/-- The directory of the archive that the trees of sources are put into. -/
def sourceArchive (destination : Path) : Path :=
  ⟨destination.root, destination.names ++ [Archive.directoryName, Text.ofString "source"]⟩

/-- The tree of a file below the root is archived below the sources. -/
theorem target_of_below {rest : List Text} (h : Path.AreLabels rest) (tree : Value)
    (destination : Path) : ∃ more, more ≠ [] ∧ Path.NoDots more ∧
      Archive.target (Archive.below destination).root (jobOf (Path.toText ⟨0, rest⟩) tree) =
        ⟨destination.root, (sourceArchive destination).names ++ more⟩ := by
  by_cases hne : rest = []
  · subst hne
    have hnames : treeNamesOf (Path.toText ⟨0, []⟩) = [Text.ofString "..json"] := by decide +kernel
    refine ⟨[Text.ofString "..json"], List.cons_ne_nil _ _, ?_, ?_⟩
    · intro n hn
      rw [List.mem_singleton.1 hn]
      decide +kernel
    · rw [target_jobOf, hnames, sourceArchive, List.append_assoc]
      rfl
  · have hinside := Archive.inside_of_areLabels h hne tree
    rw [Path.toText_relative hne]
    refine ⟨rest.dropLast ++ [rest.getLastD [] ++ Text.ofString ".json"], by simp, ?_, ?_⟩
    · exact fun n hn => hinside.noDots n (List.mem_cons_of_mem _ hn)
    · have htarget := hinside.target_eq destination
      rw [Archive.treeNames] at htarget
      rw [sourceArchive, List.append_assoc]
      exact htarget

/-- The trees of all files that are found below the root of the walk are archived below the sources
of the archive, where no name leads up.  All files are below the root, unless packages are
walked. -/
theorem found_contained (hw : w.Tidy) (hx : x.Tidy)
    (hstart : start? x.settings = some (mode, start)) (hroot : w.resolve start = .ok root)
    {path : Path} {t : Text} {d : Option Descriptor} {v : World}
    (hmem : (.file path t d, v) ∈ found x w)
    (hbelow : mode = .source ∨ root.names <+: path.names) (tree : Value) (u : World) :
    ∃ more, more ≠ [] ∧ Path.NoDots more ∧
      u.absolute (Archive.target (Archive.below x.destination).root (jobOf t tree)) =
        ⟨1, (u.absolute (sourceArchive x.destination)).names ++ more⟩ := by
  obtain ⟨hreal, hsource, rfl⟩ := isFound_of_mem hw hx hstart hroot _ hmem
  have hrootReal := hw.resolve (hx.start mode start hstart) hroot
  obtain ⟨rest, hlabels, hrelative⟩ :=
    hreal.relativeTo_of_above hrootReal (hbelow.elim hsource id)
  obtain ⟨more, hne, hdots, htarget⟩ := target_of_below hlabels tree x.destination
  refine ⟨more, hne, hdots, ?_⟩
  rw [hrelative, htarget]
  exact u.absolute_append (p := sourceArchive x.destination) hdots

/-- The trees of the sources of a package. -/
theorem found_contained_package :
    ∃ ps x w₁ path t d v, (setUp {} Sample.settings).runIn Sample.world = (.ok (ps, x), w₁) ∧
      (.file path t d, v) ∈ found x w₁ ∧ ∃ more, more ≠ [] ∧
        w₁.absolute (Archive.target (Archive.below x.destination).root (jobOf t .null)) =
          ⟨1, (w₁.absolute (sourceArchive x.destination)).names ++ more⟩ := by
  have hrun : Sample.passes (fun y w₁ =>
        w₁.tree.isWellNamed && w₁.current.all Files.isName &&
        decide (Path.AreParts y.2.destination.names) &&
        decide (start? y.2.settings = some (.root, ⟨1, ["r"]⟩)) &&
        decide ((w₁.resolve ⟨1, ["r"]⟩).toOption = some ⟨1, ["r"]⟩) &&
        (found y.2 w₁).any fun z => Sample.isFile
          (fun path _ => decide (([Text.ofString "r"] : List Text) <+: path.names)) z.1)
      ((setUp {} Sample.settings).runIn Sample.world) = true := by decide +kernel
  obtain ⟨⟨ps, x⟩, w₁, hsetUp, hrun⟩ := Sample.exists_of_passes hrun
  simp only [Bool.and_eq_true, decide_eq_true_eq, List.all_eq_true, List.any_eq_true] at hrun
  obtain ⟨⟨⟨⟨⟨hnamed, hcurrent⟩, hdestination⟩, hstart⟩, hroot⟩, ⟨e, v⟩, hmem, hfile⟩ := hrun
  obtain ⟨path, t, d, rfl, hbelow⟩ := Sample.exists_of_isFile hfile
  have hx : x.Tidy := by
    refine ⟨hdestination, fun mode start hbegin => ?_⟩
    rw [hstart] at hbegin
    cases hbegin
    decide +kernel
  obtain ⟨more, hne, -, htarget⟩ := found_contained (.of_isWellNamed hnamed hcurrent) hx hstart
    (toOption_eq_some_iff.1 hroot) hmem (.inr (of_decide_eq_true hbelow)) .null w₁
  exact ⟨ps, x, w₁, path, t, d, v, hsetUp, hmem, more, hne, htarget⟩

namespace Sample

/-- A package in a directory of three names whose sources are beside that directory. -/
def escaping : World where
  tree := .directory
    [("r", .directory [("s", .directory [("t", .directory [("a", .directory
      [("package.json",
        .file (bytes "\x7b\"directories\":\x7b\"src\":\"../../../../b\"\x7d\x7d"))])])])]),
     ("b", .directory [("f.py", .file [])])]
  current := []
  home := ⟨1, []⟩

/-- A run over the directory of three names. -/
def escapingSettings : Settings := { settings with root := some ⟨1, ["r", "s", "t"]⟩ }

end Sample

/-- A source directory may lead out of the root, and then the relative paths of its files lead out
of the archive, and even out of the destination. -/
theorem found_not_contained :
    ∃ ps x w₁ path t d v tree, (setUp {} Sample.escapingSettings).runIn Sample.escaping =
        (.ok (ps, x), w₁) ∧ w₁.tree.isLinkFree ∧ (.file path t d, v) ∈ found x w₁ ∧
      ((Extraction.parseFile path).runIn v).1 = .ok tree ∧
      w₁.absolute (Archive.target (Archive.below x.destination).root (jobOf t tree)) =
        ⟨1, ["b", "f.py.json"]⟩ ∧
      (w₁.absolute (sourceArchive x.destination)).names = ["out", "ast", "source"] ∧
      ∃ o w₂, (generate {} Sample.escapingSettings).runIn Sample.escaping = (.ok o, w₂) ∧
        w₁.tree.data? ["b", "f.py.json"] = none ∧
        w₂.tree.data? ["b", "f.py.json"] = Archive.treeData tree := by
  have hrun : Sample.passes (fun y w₁ =>
        w₁.tree.isLinkFree &&
        decide ((w₁.absolute (sourceArchive y.2.destination)).names = ["out", "ast", "source"]) &&
        decide (w₁.tree.data? ["b", "f.py.json"] = none) &&
        (found y.2 w₁).any fun z => Sample.isFile (fun path t => Sample.passes (fun tree _ =>
            decide (w₁.absolute (Archive.target (Archive.below y.2.destination).root
              (jobOf t tree)) = ⟨1, ["b", "f.py.json"]⟩) &&
            Sample.passes (fun _ w₂ => decide (w₂.tree.data? ["b", "f.py.json"] =
                Archive.treeData tree))
              ((generate {} Sample.escapingSettings).runIn Sample.escaping))
          ((Extraction.parseFile path).runIn z.2)) z.1)
      ((setUp {} Sample.escapingSettings).runIn Sample.escaping) = true := by decide +kernel
  obtain ⟨⟨ps, x⟩, w₁, hsetUp, hrun⟩ := Sample.exists_of_passes hrun
  simp only [Bool.and_eq_true, decide_eq_true_eq, List.any_eq_true] at hrun
  obtain ⟨⟨⟨hfree, harchive⟩, hnone⟩, ⟨e, v⟩, hmem, hfile⟩ := hrun
  obtain ⟨path, t, d, rfl, hparse⟩ := Sample.exists_of_isFile hfile
  obtain ⟨tree, u, hparse, hrun⟩ := Sample.exists_of_passes hparse
  simp only [Bool.and_eq_true, decide_eq_true_eq] at hrun
  obtain ⟨htarget, hgenerate⟩ := hrun
  obtain ⟨o, w₂, hgenerate, hwritten⟩ := Sample.exists_of_passes hgenerate
  exact ⟨ps, x, w₁, path, t, d, v, tree, hsetUp, hfree, hmem, congrArg Prod.fst hparse, htarget,
    harchive, o, w₂, hgenerate, hnone, of_decide_eq_true hwritten⟩

end Run

end SourceDocs
