import SourceDocs.Run

/-!
# Small runs

A tree with a package of three sources, the second of which is not well formed, and the settings of
a run over it.  Statements about runs are shown to say something of this one.  `unresolvable` is a
tree that a run cannot get past.
-/

namespace SourceDocs.Run.Sample

/-- The bytes of an ASCII string. -/
def bytes (s : String) : List UInt8 := s.toList.map fun c => UInt8.ofNat c.toNat

/-- The sources of the package, in the order in which a listing may give them. -/
def sources : Entry :=
  .directory [("c.py", .file (bytes "pass")), ("b.py", .file (bytes "(")), ("a.py", .file [])]

/-- A tree with the package under `r`, and an index document. -/
def world : World where
  tree := .directory
    [("r", .directory
      [("p", .directory [("package.json", .file (bytes "\x7b\x7d")), ("src", sources)])]),
     ("README.md", .file (bytes "hi"))]
  current := []
  home := ⟨1, []⟩

/-- A tree with a package whose main file has a name with a NUL character and whose only source is
not well formed. -/
def unresolvable : World where
  tree := .directory
    [("r", .directory
      [("p", .directory
        [("package.json", .file (bytes "\x7b\"main\": \"\\u0000\"\x7d")),
         ("src", .directory [("a.py", .file (bytes "("))])])])]
  current := []
  home := ⟨1, []⟩

/-- A run over all packages. -/
def settings : Settings where
  destination := some ⟨1, ["out"]⟩
  root := some ⟨1, ["r"]⟩
  baseDirectory := ⟨1, []⟩

/-- A run over the sources of the package alone. -/
def sourceSettings : Settings where
  destination := some ⟨1, ["out"]⟩
  source := some ⟨1, ["r", "p", "src"]⟩
  baseDirectory := ⟨1, []⟩

/-- A matcher that also refuses the paths in which a pattern occurs. -/
def exclude (pattern : String) (m : Matcher) : Matcher :=
  match Program.ofText (Text.ofString pattern) with
  | .ok p => { m with excludes := m.excludes ++ [p] }
  | .error _ => m

/-- Whether an action has ended well, with a result and a world that pass a test. -/
def passes {α : Type} (test : α → World → Bool) : Except Failure α × World → Bool
  | (.ok a, w) => test a w
  | (.error _, _) => false

theorem exists_of_passes {α : Type} {test : α → World → Bool} {r : Except Failure α × World}
    (h : passes test r = true) : ∃ a w, r = (.ok a, w) ∧ test a w = true := by
  obtain ⟨_ | a, w⟩ := r
  · cases h
  · exact ⟨a, w, rfl, h⟩

/-- Whether an action has failed and left a world that passes a test. -/
def fails {α : Type} (test : World → Bool) : Except Failure α × World → Bool
  | (.ok _, _) => false
  | (.error _, w) => test w

theorem exists_of_fails {α : Type} {test : World → Bool} {r : Except Failure α × World}
    (h : fails test r = true) : ∃ f w, r = (.error f, w) ∧ test w = true := by
  obtain ⟨f | _, w⟩ := r
  · exact ⟨f, w, rfl, h⟩
  · cases h

/-- Whether an event is a file whose path and relative path pass a test. -/
def isFile (test : Path → Text → Bool) : Walk.Event → Bool
  | .package _ => false
  | .file path t _ => test path t

theorem exists_of_isFile {test : Path → Text → Bool} {e : Walk.Event}
    (h : isFile test e = true) : ∃ path t d, e = .file path t d ∧ test path t = true := by
  cases e with
  | package d => cases h
  | file path t d => exact ⟨path, t, d, rfl, h⟩

end SourceDocs.Run.Sample
