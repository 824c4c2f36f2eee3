import SourceDocs.Log.Complaint

/-!
# Extraction from files

`extract` reads a source file into its tree and takes the records of its symbols from it.  A file
that cannot be read into a tree is reported and skipped; a node that cannot be described ends the
run, because then the extraction itself is at fault.
-/

namespace SourceDocs.Extraction

/-- The tree of a source file. -/
def parseFile (path : Path) : Action Value := do
  match ← Action.attempt (Files.readBytes path) with
  | .error (.raised (.file f)) =>
    if f.isSystem then throw (.source { path := path, reason := .unreadable f })
    else Action.raise (.file f)
  | .error f => throw f
  | .ok bytes =>
    match Source.parseModule bytes with
    | .ok tree => return tree
    | .error f =>
      let line := f.line?.map fun (n : Nat) => (n : Int)
      throw (.source { path := path, reason := .malformed (.source f), line := line })

/-- A collaborator that takes records from a tree.  It is shown the nodes one by one, each with its
parent, and keeps a state of its own. -/
structure Recorder (σ : Type) where
  /-- The state before the first node; a tree may be refused. -/
  start : Value → Origin → Action σ
  /-- What is done with a node that is shown. -/
  push : Origin → Tree.Node → Option Tree.Node → ActionWith σ Unit
  /-- The records that have been taken. -/
  records : σ → List DocRecord

namespace Recorder

variable {σ : Type}

/-- Shows a node; if the recorder fails on it, the node is reported. -/
def pushOrReport (r : Recorder σ) (o : Origin) (n : Tree.Node) (parent : Option Tree.Node) :
    ActionWith σ Unit := do
  match ← ActionWith.attempt (r.push o n parent) with
  | .ok _ => return
  | .error f =>
    Complaint.aboutNode o.path n.value
    throw (.extraction (.badNode o.path n.value.typeName f.cause))

/-- The records of a tree, from a state of the recorder on. -/
def recordsFrom (r : Recorder σ) (o : Origin) (tree : Value) (s : σ) : Action (List DocRecord) := do
  let (ending, s) ← ActionWith.keeping s (Tree.traverse tree (r.pushOrReport o))
  match ending with
  | .ok _ => return r.records s
  | .error f => throw f

/-- The records and the tree of a source file; `none` if it cannot be read into a tree. -/
def extract (r : Recorder σ) (o : Origin) : Action (Option (List DocRecord × Value)) := do
  Action.report (.parsing o.path)
  match ← Action.attempt (parseFile o.path) with
  | .error (.source f) =>
    Complaint.aboutSource o.path f
    return none
  | .error f => throw f
  | .ok tree =>
    match ← Action.attempt (r.start tree o) with
    | .error f => throw (.extraction (.noExtractor o.path f.cause))
    | .ok s => return some (← r.recordsFrom o tree s, tree)

end Recorder

/-- How records are taken from a tree, if those of a node depend on nothing but the node and what is
around it. -/
structure Extractor where
  /-- Refuses a tree before any of its nodes is visited. -/
  prepare : Value → Origin → Except Cause Unit := fun _ _ => .ok ()
  /-- The records of a visited node. -/
  describe : Origin → Tree.Visit → Except Cause (List Draft)

/-- The extractor of a module's symbols. -/
def Extractor.symbols : Extractor where
  describe o v := (Extraction.describe o v).mapError .symbols

/-- Numbers a record and adds it to those of the file. -/
def addRecord (d : Draft) : ActionWith (List DocRecord) Unit := do
  let id ← Action.takeId
  ActionWith.update (· ++ [{ toDraft := d, docId := id }])

/-- An extractor at work: it keeps the parents of the nodes that it has been shown, and the records
that it has numbered. -/
def Extractor.recorder (x : Extractor) : Recorder (Parents × List DocRecord) where
  start tree o :=
    match x.prepare tree o with
    | .ok _ => return ([], [])
    | .error cause => Action.raise cause
  push o n parent := do
    ActionWith.update fun s => (s.1.note n parent, s.2)
    let s ← ActionWith.state
    match x.describe o (s.1.visit n) with
    | .ok drafts =>
      ActionWith.onPart Prod.snd (fun records s => (s.1, records)) (drafts.forM addRecord)
    | .error cause => throw (.raised cause)
  records s := s.2

/-- The records of a tree. -/
def recordsOf (x : Extractor) (o : Origin) (tree : Value) : Action (List DocRecord) :=
  x.recorder.recordsFrom o tree ([], [])

/-- The records and the tree of a source file; `none` if it cannot be read into a tree. -/
def extract (x : Extractor) (o : Origin) : Action (Option (List DocRecord × Value)) :=
  x.recorder.extract o

end SourceDocs.Extraction
