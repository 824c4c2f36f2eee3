import SourceDocs.Json.Chunks
import SourceDocs.World

/-!
# The archive of syntax trees

The tree of every file is written below the destination.  A job is carried out when it is submitted;
how it ended becomes known with the next call: a failed job makes the next `submit` or `close` fail,
and a job that succeeded is counted there.
-/

namespace SourceDocs

/-- An archive that trees are written to. -/
structure Archive where
  /-- The directory of the archive. -/
  root : Path
  /-- How the last job ended, unless that is known already. -/
  pending : Option (Except Failure Path) := none
  closed : Bool := false
  /-- The number of jobs known to have succeeded. -/
  written : Nat := 0

namespace Archive

/-- The archive below a destination. -/
def below (destination : Path) : Archive := { root := destination.child (Text.ofString "ast") }

/-- A tree to write, under a path in the archive. -/
structure Job where
  relativePath : Text
  tree : Value

/-- The file that a job writes. -/
def target (root : Path) (j : Job) : Path := root.child (j.relativePath ++ Text.ofString ".json")

/-- The bytes of the pieces up to the first one that cannot be encoded, and whether there is one. -/
def encodePieces : List Text → List UInt8 × Bool
  | [] => ([], true)
  | t :: rest =>
    match Utf8.encode? t with
    | none => ([], false)
    | some data =>
      let (more, complete) := encodePieces rest
      (data ++ more, complete)

/-- Writes a tree piece by piece.  What was written before a failure stays in the file. -/
def writeTree (path : Path) (tree : Value) : Action Unit := do
  Files.makeDirectories path.parent
  let names ← Files.openForWriting path
  let (pieces, fault) := Json.treeChunks tree
  let (data, complete) := encodePieces pieces
  Files.fill names data
  if !complete then Action.raise (.codec .unencodable)
  else
    match fault with
    | some f => Action.raise (.encode f)
    | none => return

/-- Carries out a job. -/
def carryOut (root : Path) (j : Job) : Action Path := do
  let path := target root j
  match ← Action.attempt (writeTree path j.tree) with
  | .ok _ =>
    Action.report (.wroteTree path)
    return path
  | .error f => throw (.persistence (.unwritten path f.cause))

/-- Takes note of how the last job ended. -/
def settle : ActionWith Archive Unit := do
  let a ← ActionWith.state
  match a.pending with
  | none => return
  | some (.ok _) =>
    ActionWith.update fun a => { a with pending := none, written := a.written + 1 }
  | some (.error f) =>
    ActionWith.update fun a => { a with pending := none }
    throw f

/-- Submits a job to an open archive, where `work` carries jobs out, and returns how it ended.
Fails, without carrying it out, if the job before it failed. -/
def submitBy (work : Path → Job → Action Path) (j : Job) :
    ActionWith Archive (Except Failure Path) := do
  let a ← ActionWith.state
  if a.closed then throw (.persistence .closed)
  else
    settle
    let ending ← Action.attempt (work a.root j)
    ActionWith.update fun a => { a with pending := some ending }
    return ending

/-- Submits a job to an archive of trees. -/
def submit (j : Job) : ActionWith Archive (Except Failure Path) := submitBy carryOut j

/-- Closes the archive and returns the number of trees written. -/
def close : ActionWith Archive Nat := do
  let a ← ActionWith.state
  if a.closed then return a.written
  else
    ActionWith.update fun a => { a with closed := true }
    settle
    let a ← ActionWith.state
    Action.report (.drained a.written)
    return a.written

/-- Closes the archive without asking how the last job ended. -/
def abort : ActionWith Archive Unit :=
  ActionWith.update fun a => { a with closed := true, pending := none }

/-- Closes the archive behind an action, or aborts it if the action fails; `inArchive` acts on the
archive. -/
def during {σ α : Type} (inArchive : ActionWith Archive Unit → ActionWith σ Unit)
    (x : ActionWith σ α) : ActionWith σ α := do
  match ← ActionWith.attempt x with
  | .ok a =>
    inArchive do let _ ← close
    return a
  | .error f =>
    inArchive abort
    throw f

end Archive

end SourceDocs
