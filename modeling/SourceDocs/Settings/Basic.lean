import SourceDocs.World

/-!
# Settings of a run

`Settings` says what to document and where to put the result.  `validate` checks the rules that
every run depends on, and `withDefaults` fills in what was left open.
-/

namespace SourceDocs

/-- The name of the configuration file. -/
def settingsFile : Text := Text.ofString ".docharvest.yml"

/-- A plugin that is asked for. -/
structure PluginSpec where
  name : Text
  option : List (Value × Value) := []

/-- The parameters of a run. -/
structure Settings where
  destination : Option Path := none
  /-- A tree of packages to document. -/
  root : Option Path := none
  /-- A single tree of sources to document. -/
  source : Option Path := none
  /-- The package descriptor of a single tree. -/
  package : Option Path := none
  includes : Option (List Text) := none
  excludes : Option (List Text) := none
  index : Option Path := none
  plugins : List PluginSpec := []
  baseDirectory : Path

namespace Settings

/-- The files that are documented unless others are asked for. -/
def defaultIncludes : List Text := [Text.ofString "\\.py$"]

/-- The files that are left out unless others are asked for. -/
def defaultExcludes : List Text :=
  ["(^|/)conftest\\.py$", "(^|/)setup\\.py$", "(^|/)test_[^/]*\\.py$", "_test\\.py$"].map
    Text.ofString

/-- The first rule that settings break. -/
def fault? (s : Settings) : Option ConfigFault :=
  match s.root, s.source with
  | none, none => some .noInput
  | some _, some _ => some .twoInputs
  | some _, none =>
    if s.package.isSome then some .packageWithRoot
    else if s.destination.isNone then some .noDestination
    else none
  | none, some _ => if s.destination.isNone then some .noDestination else none

/-- Checks the rules that every run depends on. -/
def validate (s : Settings) : Except Failure Unit :=
  match s.fault? with
  | none => .ok ()
  | some f => .error (.config f)

/-- The directory that relative paths start from. -/
def sourceRoot (s : Settings) : Action Path :=
  match s.root.or s.source with
  | some p => Files.resolve p
  | none => throw (.config .noInput)

/-- A path, or the real path of a file in the base directory if there is none. -/
def orBeside (s : Settings) (p : Option Path) (name : String) : Action Path :=
  match p with
  | some p => return p
  | none => Files.resolve (s.baseDirectory.child (Text.ofString name))

/-- Settings with everything filled in that was left open. -/
def withDefaults (s : Settings) : Action Settings := do
  let index ← s.orBeside s.index "README.md"
  let package ← match s.source with
    | some _ => do pure (some (← s.orBeside s.package "package.json"))
    | none => pure s.package
  return { s with
    includes := some (s.includes.getD defaultIncludes)
    excludes := some (s.excludes.getD defaultExcludes)
    index := some index
    package := package }

end Settings

end SourceDocs
