import SourceDocs.Log.Complaint
import SourceDocs.Plugin.Basic

/-!
# Publishing

At the end of a run plugins may write, copy and read files below the destination.  Content passes
through the content hooks of all plugins before it is written.  Any failure of a plugin ends the
phase; what was written before it stays.
-/

namespace SourceDocs

namespace Files

/-- Whether two paths lead to the same existing entry. -/
def sameFile (p q : Path) : Action Bool := do
  let w ← get
  match follow w.tree w.current p, follow w.tree w.current q with
  | .ok (ns, some _), .ok (ms, some _) => return ns = ms
  | _, _ => return false

/-- Copies a file to a path, or into the directory there. -/
def copyFile (source target : Path) : Action Unit := do
  let target ← if ← isDirectory target then pure (target.child source.name) else pure target
  if ← sameFile source target then Action.raise (.file .sameFile)
  else
    let data ← readBytes source
    writeBytes target data

/-- Whether a copy succeeds; a failure that the system does not report itself is passed on. -/
def copied (x : Action Unit) : Action Bool := do
  match ← Action.attempt x with
  | .ok _ => return true
  | .error (.raised (.file f)) => if f.isSystem then return false else Action.raise (.file f)
  | .error f => throw f

/-- Copies what is in a directory to another, where `room` calls may nest; that the system refuses
some of the entries is reported when all others are copied. -/
def copyTree : Nat → Path → Path → Action Unit
  | 0, _, _ => Action.raise .tooDeep
  | room + 1, source, target => do
    let names ← namesIn source
    makeDirectories target
    let endings ← names.mapM fun name => copied do
      let part : Path := ⟨source.root, source.names ++ [name]⟩
      let copy : Path := ⟨target.root, target.names ++ [name]⟩
      match ← entryAt? part with
      | some (.directory _) => copyTree room part copy
      | _ => copyFile part copy
    if endings.all id then return else Action.raise (.file .partlyCopied)

end Files

namespace Publishing

/-- Writes content to a file in an encoding; bytes are written as they are. -/
def writeContent (path : Path) (content : Value) (encoding : Text) : Action Unit :=
  match content with
  | .bytes data false => Files.writeBytes path data
  | .text t => Files.writeText path t encoding
  | _ => Action.raise (.misuse .wrongType)

/-- Writes content to a file below a destination, after the content hooks. -/
def write (ps : Plugins) (destination : Path) (file : Text) (content : Value) (encoding : Text) :
    Action Unit := do
  let target := destination.child file
  let content ← ps.handleContent content target
  Action.report (.publishing target)
  Files.makeDirectories target.parent
  writeContent target content encoding

/-- Copies a file or a directory to below a destination. -/
def copy (destination : Path) (source file : Text) : Action Unit := do
  let source := Path.ofText source
  let target := destination.child file
  Action.report (.copying target)
  if ← Files.isDirectory source then
    let w ← Action.world
    Files.copyTree w.stack source target
  else
    Files.makeDirectories target.parent
    Files.copyFile source target

/-- The text of a file below a destination. -/
def read (destination : Path) (file : Text) : Action Text :=
  Files.readText (destination.child file)

/-- Does what a plugin asks for below a destination.  Only a request to read has a text as its
answer. -/
def answer (ps : Plugins) (destination : Path) : Request → Action Text
  | .write file content encoding => do
    write ps destination file content encoding
    return []
  | .copy source file => do
    copy destination source file
    return []
  | .read file => read destination file

end Publishing

/-- Lets all plugins publish to a destination. -/
def publish (ps : Plugins) (destination : Path) : Action Unit := do
  match ← Action.attempt (ps.publish (Publishing.answer ps destination)) with
  | .ok _ => return
  | .error f =>
    Complaint.aboutFailure f
    throw (.publish f)

end SourceDocs
