import SourceDocs.Walk
import SourceDocs.Record.Basic

/-!
# Records of whole files

Besides symbols, the index describes the packages that were found, the index document and the
package descriptor of a single source tree.
-/

namespace SourceDocs.Synthetic

/-- A record of a file, with the next number. -/
def fileRecord (kind : String) (name : Text) (longname : Text) (payload : List (String × Value)) :
    Action DocRecord := do
  let id ← Action.takeId
  return { docId := id, kind := Text.ofString kind, name := name, longname := longname,
           static := true, payload := payload.map fun e => (Text.ofString e.1, e.2) }

/-- The record of the index document under the name that it is shown by; a missing document has
none. -/
def indexRecord (path : Path) (shownName : Option Text) : Action (Option DocRecord) := do
  match ← Action.attempt (Files.readText path) with
  | .error (.raised (.file .notFound)) =>
    Action.report (.noIndex path)
    return none
  | .error f => throw f
  | .ok content =>
    let name := (shownName.filter fun t => !t.isEmpty).getD path.name
    let real ← Files.resolve path
    return some (← fileRecord "index" name real.toText [("content", .text content)])

/-- The record of a package. -/
def packageRecord (d : Descriptor) : Action DocRecord :=
  fileRecord "package" d.path.name d.path.toText [("package", .mapping d.content)]

/-- The text and the real path of a file. -/
def textAndPath (path : Path) : Action (Text × Path) := do
  let content ← Files.readText path
  return (content, ← Files.resolve path)

/-- The record of the package descriptor of a single source tree: its text, or nothing if the system
refuses to read it. -/
def singlePackageRecord (path : Path) : Action DocRecord := do
  let record (content longname : Text) : Action DocRecord :=
    fileRecord "legacy-package" path.name longname [("package", .null), ("content", .text content)]
  match ← Action.attempt (textAndPath path) with
  | .ok (content, real) => record content real.toText
  | .error (.raised (.file f)) =>
    if f.isSystem then
      Action.report (.unreadPackage path)
      record [] []
    else Action.raise (.file f)
  | .error f => throw f

end SourceDocs.Synthetic
