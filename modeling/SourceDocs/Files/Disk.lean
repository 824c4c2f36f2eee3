import SourceDocs.World

/-!
# The disk

A run works on a tree in memory.  `Disk.extend` reads what is at a path of the disk into such a
tree, and `Disk.store` writes to the disk what a run has added to it or changed in it.  A run never
removes anything, so nothing is removed from the disk.
-/

namespace SourceDocs.Disk

/-- What is at a place of the disk, where `inside` reads the entries of a directory.  A link leads
to the real path behind it.  What cannot be read is left out. -/
def readWith (place : IO.FS.DirEntry) (inside : IO (List (Text × Entry))) : IO (Option Entry) := do
  try
    match (← place.path.symlinkMetadata).type with
    | .file => return some (.file (← IO.FS.readBinFile place.path).toList)
    | .symlink => return some (.link (Text.ofString (← IO.FS.realPath place.path).toString))
    | .dir => return some (.directory (← inside))
    | .other => return none
  catch _ => return none

/-- What is at a place of the disk, with directories down to a depth; a deeper one counts as
empty. -/
def read? : Nat → IO.FS.DirEntry → IO (Option Entry)
  | 0, place => readWith place (return [])
  | depth + 1, place => readWith place do
    (← place.path.readDir).toList.filterMapM fun child => do
      return (← read? depth child).map fun e => (Text.ofString child.fileName, e)

/-- A tree with an entry where names lead, and with the directories on the way there. -/
def plant : Entry → List Text → Entry → Entry
  | _, [], new => new
  | e, n :: rest, new =>
    let inside := (e.entries.lookup n).getD Entry.empty
    .directory (Entry.put n (plant inside rest new) e.entries)

/-- The place of the disk that a path leads to. -/
def placeOf (w : World) (p : Path) : IO IO.FS.DirEntry := do
  return ⟨← IO.currentDir, Text.toString (w.absolute p).toText⟩

/-- Reads what is at a path of the disk, with directories down to a depth, into a world. -/
def extend (depth : Nat) (w : World) (p : Path) : IO World := do
  match ← read? depth (← placeOf w p) with
  | some e => return { w with tree := plant w.tree (w.absolute p).names e }
  | none => return w

mutual

/-- Writes an entry to a place of the disk, as far as it differs from the one that was there. -/
def store (place : IO.FS.DirEntry) (old : Option Entry) : Entry → IO Unit
  | .file data =>
    match old with
    | some (.file before) => unless before = data do IO.FS.writeBinFile place.path ⟨data.toArray⟩
    | _ => IO.FS.writeBinFile place.path ⟨data.toArray⟩
  | .link _ => return
  | .directory es => do
    unless (old.map Entry.isDirectory).getD false do IO.FS.createDirAll place.path
    storeAll place ((old.map Entry.entries).getD []) es

/-- Writes the entries of a directory. -/
def storeAll (place : IO.FS.DirEntry) (old : List (Text × Entry)) : List (Text × Entry) → IO Unit
  | [] => return
  | (n, e) :: rest => do
    store ⟨place.path, Text.toString n⟩ (old.lookup n) e
    storeAll place old rest

end

end SourceDocs.Disk
