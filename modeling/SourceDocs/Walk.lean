import SourceDocs.Json.Reader
import SourceDocs.World

/-!
# Walking source trees

A walk finds the files below a directory, name by name in order.  The walk of a tree of packages
treats a directory with a package descriptor differently: it reports the package, and of the
directory it enters only the source directory that the descriptor names.  Every file and package is
handed to `emit` as soon as it is found, so what `emit` does to the files is seen by the rest of the
walk.

Directories are walked by calls that nest, and the text of a descriptor is read by calls that nest
as its lists and objects do, so how deep all this goes is limited by the stack.
-/

namespace SourceDocs

/-- The description of a package: the content of its descriptor. -/
structure Descriptor where
  path : Path
  content : List (Value × Value)

namespace Descriptor

/-- The name of descriptor files. -/
def fileName : Text := Text.ofString "package.json"

/-- The source directory of a package that names none. -/
def defaultSource : Text := Text.ofString "src"

/-- The directory of the package. -/
def directory (d : Descriptor) : Path := d.path.parent

/-- The text under a key. -/
def textUnder (content : List (Value × Value)) (key : String) : Option Text :=
  match Value.lookupText content key with
  | some (.text t) => some t
  | _ => none

/-- The name of the package. -/
def name? (d : Descriptor) : Option Text := textUnder d.content "name"

/-- The main file of the package. -/
def main? (d : Descriptor) : Option Text := textUnder d.content "main"

/-- The entries of an object. -/
def entries? : Value → Option (List (Value × Value))
  | .mapping entries => some entries
  | _ => none

/-- The content that the text of a descriptor stands for, where `room` calls may nest; `none` if it
is no JSON object. -/
def contentOf (room : Nat) (t : Text) : Except Failure (Option (List (Value × Value))) :=
  match Json.read room (t.map CodePoint.toChar) with
  | .ok v => .ok (entries? v)
  | .error .malformed => .ok none
  | .error .tooDeep => .error (.raised .tooDeep)

/-- The content of a descriptor file; `none` if it cannot be read or is no JSON object. -/
def readContent (room : Nat) (p : Path) : Action (Option (List (Value × Value))) := do
  match ← Action.attempt (Files.readText p) with
  | .ok t => contentOf room t
  | .error _ => return none

/-- The source directory that a descriptor names. -/
def sourceName (d : Descriptor) : Except Failure Text :=
  match Value.lookupText d.content "directories" with
  | some (.mapping directories) =>
    match Value.lookupText directories "src" with
    | none | some .null => .ok defaultSource
    | some (.text t) => .ok (if t.isEmpty then defaultSource else t)
    | some v => .error (.descriptor d.path v.typeName)
  | _ => .ok defaultSource

/-- The real path of the source directory. -/
def sourceDirectory (d : Descriptor) : Action Path := do
  Files.resolve (d.directory.child (← d.sourceName))

end Descriptor

namespace Walk

/-- What a walk finds. -/
inductive Event where
  /-- A file, its path from the root of the walk on, and the package that it belongs to. -/
  | file (path : Path) (relativePath : Text) (package : Option Descriptor)
  | package (d : Descriptor)

/-- Which trees are walked. -/
inductive Mode where
  /-- All files. -/
  | source
  /-- Packages and the files outside of them. -/
  | root
deriving DecidableEq

variable {σ : Type}

/-- Whether a package has a source directory that can be walked; if not, that is reported. -/
def hasSources (src : Path) : Action Bool := do
  if !(← Files.pathExists src) then
    Action.report (.noSources src)
    Action.report .sourcesHint
    return false
  else if !(← Files.isDirectory src) then
    Action.report (.sourcesNotDirectory src)
    Action.report .sourcesHint
    return false
  else return true

/-- The package descriptor of a directory, if there is a readable one, where `room` calls may nest.
Outside is `none` if there is no such file at all. -/
def descriptorIn (room : Nat) (directory : Path) : Action (Option (Option Descriptor)) := do
  let p := directory.child Descriptor.fileName
  if ← Files.isFile p then
    match ← Descriptor.readContent room p with
    | some content =>
      Action.report (.foundPackage p)
      return some (some ⟨p, content⟩)
    | none =>
      Action.report (.unreadableDescriptor p directory)
      return some none
  else return none

/-- What stands behind an entry of a directory: that of a link is looked up, and may be missing. -/
def behind (p : Path) : Entry → Action (Option Entry)
  | .link _ => Files.entryAt? p
  | e => return some e

/-- Visits an entry of a directory: a file is handed to `emit`, a directory to `into`, and anything
else is passed over. -/
def visit (root : Path) (emit : Event → ActionWith σ Unit) (into : Path → ActionWith σ Unit)
    (package : Option Descriptor) (p : Path) (e : Entry) : ActionWith σ Unit := do
  match ← behind p e with
  | some (.file _) =>
    let w ← Action.world
    emit (.file p (w.relative p root).toText package)
  | some (.directory _) => into p
  | _ => return

/-- Visits the entries of a directory in the order of their names. -/
def list (root : Path) (emit : Event → ActionWith σ Unit) (into : Path → ActionWith σ Unit)
    (package : Option Descriptor) (directory : Path) : ActionWith σ Unit := do
  let entries ← Files.entriesIn directory
  entries.forM fun (name, e) =>
    visit root emit into package ⟨directory.root, directory.names ++ [name]⟩ e

mutual

/-- Walks a directory, where `room` calls may nest. -/
def enter (mode : Mode) (root : Path) (emit : Event → ActionWith σ Unit) :
    Nat → Path → Option Descriptor → ActionWith σ Unit
  | 0, _, _ => throw (.raised .tooDeep)
  | room + 1, directory, package =>
    match mode with
    | .source =>
      list root emit (fun p => enter .source root emit room p package) package directory
    | .root => do
      match ← descriptorIn room directory with
      | some (some d) =>
        let src ← d.sourceDirectory
        emit (.package d)
        if ← hasSources src then enter .root root emit room src (some d)
      | some none => return
      | none => enterPlain root emit room directory package
termination_by structural room => room

/-- Walks a directory of a tree of packages that has no descriptor file. -/
def enterPlain (root : Path) (emit : Event → ActionWith σ Unit) :
    Nat → Path → Option Descriptor → ActionWith σ Unit
  | 0, _, _ => throw (.raised .tooDeep)
  | room + 1, directory, package =>
    list root emit (fun p => enter .root root emit room p package) package directory
termination_by structural room => room

end

/-- Walks the tree at a path. -/
def walk (mode : Mode) (start : Path) (emit : Event → ActionWith σ Unit) : ActionWith σ Unit := do
  let root ← Files.resolve start
  let w ← Action.world
  enter mode root emit w.stack root none

/-- The events of a walk that changes nothing, and how it ends. -/
def events (mode : Mode) (start : Path) : Action (Except Failure Unit × List Event) :=
  ActionWith.keeping [] (walk mode start fun e => ActionWith.update (· ++ [e]))

end Walk

end SourceDocs
