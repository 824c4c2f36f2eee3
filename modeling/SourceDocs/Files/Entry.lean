import SourceDocs.Path

/-!
# File trees

A file tree is a file, a directory of named entries, or a symbolic link.  `Entry.get?` and
`Entry.set` read and change the entry that a list of names leads to, without following links.
-/

namespace SourceDocs

/-- An entry of a file tree. -/
inductive Entry where
  | file (data : List UInt8)
  | directory (entries : List (Text × Entry))
  | link (target : Text)
deriving Inhabited

namespace Entry

/-- The entries of a directory, and none of anything else. -/
def entries : Entry → List (Text × Entry)
  | .directory es => es
  | _ => []

/-- Whether an entry is a directory. -/
def isDirectory : Entry → Bool
  | .directory _ => true
  | _ => false

/-- Whether an entry is a regular file. -/
def isFile : Entry → Bool
  | .file _ => true
  | _ => false

/-- The entry that a list of names leads to. -/
def get? : Entry → List Text → Option Entry
  | e, [] => some e
  | e, n :: rest => (e.entries.lookup n).bind fun c => c.get? rest

/-- Puts an entry under a name, in place of the one that is there. -/
def put (name : Text) (e : Entry) : List (Text × Entry) → List (Text × Entry)
  | [] => [(name, e)]
  | (n, c) :: rest => if n = name then (name, e) :: rest else (n, c) :: put name e rest

/-- Puts an entry where a list of names leads; directories on the way that are missing stay so. -/
def set : Entry → List Text → Entry → Entry
  | _, [], new => new
  | .directory es, [n], new => .directory (put n new es)
  | .directory es, n :: rest, new =>
    match es.lookup n with
    | some c => .directory (put n (set c rest new) es)
    | none => .directory es
  | e, _ :: _, _ => e

mutual

/-- The number of entries in a tree. -/
def size : Entry → Nat
  | .directory es => 1 + sizeOf es
  | _ => 1

/-- The number of entries in the trees of a directory. -/
def sizeOf : List (Text × Entry) → Nat
  | [] => 0
  | (_, e) :: rest => size e + sizeOf rest

end

/-- An empty directory. -/
def empty : Entry := .directory []

/-- Puts an entry among entries in the order of their names. -/
def insertInOrder (x : Text × Entry) : List (Text × Entry) → List (Text × Entry)
  | [] => [x]
  | y :: rest => if y.1 < x.1 then y :: insertInOrder x rest else x :: y :: rest

/-- The entries of a directory in the order of their names. -/
def inOrder (es : List (Text × Entry)) : List (Text × Entry) := es.foldr insertInOrder []

end Entry

/-- Why the file system refuses an operation. -/
inductive FileFault where
  | notFound
  | notDirectory
  | isDirectory
  | alreadyExists
  /-- More symbolic links than are followed in one look-up. -/
  | linkLoop
  | nameTooLong
  /-- A path cannot be resolved because of a loop of symbolic links. -/
  | unresolvable
  /-- A path holds a NUL character. -/
  | nulCharacter
  /-- A path holds a surrogate that stands for no byte. -/
  | unencodable
  /-- A file would be copied onto itself. -/
  | sameFile
  /-- Some of the entries of a directory could not be copied. -/
  | partlyCopied
  /-- A file cannot take more bytes. -/
  | noSpace
deriving DecidableEq, Inhabited

namespace FileFault

/-- Whether the operating system itself reports the fault. -/
def isSystem : FileFault → Bool
  | .unresolvable | .nulCharacter | .unencodable => false
  | _ => true

/-- The system's description of a fault. -/
def text : FileFault → String
  | .notFound => "No such file or directory"
  | .notDirectory => "Not a directory"
  | .isDirectory => "Is a directory"
  | .alreadyExists => "File exists"
  | .linkLoop => "Too many levels of symbolic links"
  | .nameTooLong => "File name too long"
  | .unresolvable => "Symlink loop"
  | .nulCharacter => "embedded null byte"
  | .unencodable => "surrogates not allowed"
  | .sameFile => "source and destination are the same file"
  | .partlyCopied => "some entries could not be copied"
  | .noSpace => "No space left on device"

end FileFault

end SourceDocs
