import SourceDocs.Json.Indented
import SourceDocs.Plugin.Basic

/-!
# The index file

All records of a run are written to one indented JSON document.
-/

namespace SourceDocs.Output

/-- The name of the index file. -/
def fileName : Text := Text.ofString "index.json"

/-- The text of the index. -/
def textOf (records : List DocRecord) : Except Json.EncodeFault Text :=
  Json.indented 0 (.list (records.map DocRecord.toValue))

/-- Writes the index to a directory, which is created if need be, and returns its path.  Records
that have no JSON text leave an older index alone. -/
def write (records : List DocRecord) (destination : Path) : Action Path := do
  Files.makeDirectories destination
  let path := destination.child fileName
  match textOf records with
  | .error f => Action.raise (.encode f)
  | .ok t =>
    Files.writeUtf8 path t
    Action.report (.wroteRecords records.length path)
    return path

/-- Writes what hooks have handed on, all of which must be records, to the index; returns the
records and the path.  If something else is among them, no more is done than to create the
directory. -/
def writeHanded (handed : List (Handed DocRecord)) (destination : Path) :
    Action (List DocRecord × Path) := do
  match handed.mapM Handed.demand with
  | .ok records => return (records, ← write records destination)
  | .error f =>
    Files.makeDirectories destination
    throw f

end SourceDocs.Output
