import SourceDocs.Files.Lookup
import SourceDocs.Log.Event
import SourceDocs.Text.Codec

/-!
# The world that a run acts on

A `World` is a file tree with a current directory and a home directory, the log, and what plugins
have noted.  An `Action` changes the world and returns a result or fails; what it did before a
failure stays done.
-/

namespace SourceDocs

/-- What a run can see and change. -/
structure World where
  tree : Entry
  /-- The names of the current directory, from the root. -/
  current : List Text
  home : Path
  /-- The home directories of other users by their names. -/
  homes : List (Text × Path) := []
  /-- How many calls may nest in what a run does. -/
  stack : Nat := 980
  /-- How many of the bytes for a file at real names are taken, if not all are. -/
  refusal : List Text → List UInt8 → Option Nat := fun _ _ => none
  /-- The log, last event first. -/
  log : List LogEvent := []
  /-- Notes of plugins, the last one first. -/
  notes : List Text := []
  /-- The number of the next record. -/
  nextId : Int := 1

/-- A computation that acts on the world and may fail. -/
abbrev Action := ExceptT Failure (StateM World)

namespace Action

/-- Runs an action in a world. -/
def runIn {α : Type} (x : Action α) (w : World) : Except Failure α × World :=
  let (r, w) := (ExceptT.run x).run w
  (r, w)

/-- Fails with a cause. -/
def raise {α : Type} (c : Cause) : Action α := throw (.raised c)

/-- The result of a look-up in the file system. -/
def ofFiles {α : Type} (r : Except FileFault α) : Action α :=
  match r with
  | .ok a => return a
  | .error f => raise (.file f)

/-- Adds an event to the log. -/
def report (e : LogEvent) : Action Unit := modify fun w => { w with log := e :: w.log }

/-- Adds a note. -/
def note (t : Text) : Action Unit := modify fun w => { w with notes := t :: w.notes }

/-- Changes the world. -/
def change (f : World → World) : Action Unit := modify f

/-- The world as it is now. -/
def world : Action World := get

/-- Takes the number of a new record. -/
def takeId : Action Int := do
  let w ← get
  set { w with nextId := w.nextId + 1 }
  return w.nextId

/-- The result of an action, or its failure as a value. -/
def attempt {α : Type} (x : Action α) : Action (Except Failure α) := do
  try return .ok (← x) catch f => return .error f

end Action

/-- An action that also keeps a state of its own; like the world, that state outlives a failure. -/
abbrev ActionWith (σ : Type) := ExceptT Failure (StateM (World × σ))

namespace ActionWith

variable {σ τ α : Type}

/-- An action that leaves the state alone. -/
def ofAction (x : Action α) : ActionWith σ α :=
  ExceptT.mk fun (w, s) =>
    let (r, w) := x.runIn w
    (r, (w, s))

instance : MonadLift Action (ActionWith σ) := ⟨ofAction⟩

/-- The state. -/
def state : ActionWith σ σ := ExceptT.mk fun (w, s) => (.ok s, (w, s))

/-- Changes the state. -/
def update (f : σ → σ) : ActionWith σ Unit := ExceptT.mk fun (w, s) => (.ok (), (w, f s))

/-- Runs an action in a world, from a state. -/
def runWith (x : ActionWith σ α) (w : World) (s : σ) : Except Failure α × World × σ :=
  let (r, (w, s)) := (ExceptT.run x).run (w, s)
  (r, w, s)

/-- Runs an action from a state of its own; returns that state and how the action ended. -/
def keeping (s : σ) (x : ActionWith σ α) : Action (Except Failure α × σ) :=
  ExceptT.mk fun w =>
    let (r, w, s) := x.runWith w s
    (.ok (r, s), w)

/-- The result of an action, or its failure as a value. -/
def attempt (x : ActionWith σ α) : ActionWith σ (Except Failure α) := do
  try return .ok (← x) catch f => return .error f

/-- Runs an action on a part of the state. -/
def onPart (get : σ → τ) (put : τ → σ → σ) (x : ActionWith τ α) : ActionWith σ α :=
  ExceptT.mk fun (w, s) =>
    let (r, w, t) := x.runWith w (get s)
    (r, (w, put t s))

end ActionWith

namespace World

/-- The entry that a path leads to. -/
def entry (w : World) (p : Path) : Except FileFault Entry := Files.entry w.tree w.current p

/-- Faults that mean no more than that there is nothing at a path. -/
def isAbsence : FileFault → Bool
  | .notFound | .notDirectory | .linkLoop | .nulCharacter | .unencodable => true
  | _ => false

/-- Whether something that satisfies a test is at a path. -/
def holds (w : World) (test : Entry → Bool) (p : Path) : Except FileFault Bool :=
  match w.entry p with
  | .ok e => .ok (test e)
  | .error f => if isAbsence f then .ok false else .error f

/-- The real path behind a path. -/
def resolve (w : World) (p : Path) : Except FileFault Path := Files.realPath w.tree w.current p

/-- A path from the root on, with double dots resolved by the names before them. -/
def absolute (w : World) (p : Path) : Path :=
  ⟨1, Path.withoutDots (if p.isAbsolute then p.names else w.current ++ p.names)⟩

/-- The way from one path to another. -/
def relative (w : World) (p start : Path) : Path := (w.absolute p).relativeTo (w.absolute start)

end World

namespace Files

/-- Whether anything exists at a path. -/
def pathExists (p : Path) : Action Bool := do Action.ofFiles ((← get).holds (fun _ => true) p)

/-- Whether a path leads to a directory. -/
def isDirectory (p : Path) : Action Bool := do Action.ofFiles ((← get).holds Entry.isDirectory p)

/-- Whether a path leads to a regular file. -/
def isFile (p : Path) : Action Bool := do Action.ofFiles ((← get).holds Entry.isFile p)

/-- The real path behind a path. -/
def resolve (p : Path) : Action Path := do Action.ofFiles ((← get).resolve p)

/-- The home directory that a name stands for: `~` for one's own, `~user` for that of a user. -/
def homeNamed (w : World) (name : Text) : Option Path :=
  if name.isString "~" then some w.home else w.homes.lookup (name.drop 1)

/-- Replaces a leading `~` or `~user` by the home directory. -/
def expandHome (p : Path) : Action Path := do
  match p.isAbsolute, p.names with
  | false, first :: rest =>
    if first.head? = some (CodePoint.ofChar '~') then
      match homeNamed (← get) first with
      | some home => return ⟨home.root, home.names ++ rest⟩
      | none => Action.raise .noHome
    else return p
  | _, _ => return p

/-- The bytes of a file. -/
def readBytes (p : Path) : Action (List UInt8) := do
  match ← Action.ofFiles ((← get).entry p) with
  | .file data => return data
  | _ => Action.raise (.file .isDirectory)

/-- The text of a file in UTF-8, with line ends unified. -/
def readText (p : Path) : Action Text := do
  match Utf8.decode? (← readBytes p) with
  | some t => return Lines.universal t
  | none => Action.raise (.codec .undecodable)

/-- The lines of a file for an excerpt, where bytes that are no UTF-8 are replaced; a file that
cannot be read has none. -/
def readLines (p : Path) : Action (List Text) := do
  match ← Action.attempt (readBytes p) with
  | .ok data => return Lines.split (Lines.universal (Utf8.decodeReplacing data))
  | .error (.raised (.file f)) => if f.isSystem then return [] else Action.raise (.file f)
  | .error f => throw f

/-- Puts an entry at real names. -/
def putAt (names : List Text) (e : Entry) : Action Unit :=
  modify fun w => { w with tree := w.tree.set names e }

/-- Creates a file or empties it; returns its real names. -/
def openForWriting (p : Path) : Action (List Text) := do
  let w ← get
  match ← Action.ofFiles (Files.follow w.tree w.current p) with
  | (_, some (.directory _)) => Action.raise (.file .isDirectory)
  | (names, _) =>
    putAt names (.file [])
    return names

/-- Fills an open file.  If not all bytes are taken, the first ones stay. -/
def fill (names : List Text) (data : List UInt8) : Action Unit := do
  match (← get).refusal names data with
  | none => putAt names (.file data)
  | some taken =>
    putAt names (.file (data.take taken))
    Action.raise (.file .noSpace)

/-- Writes bytes to a file. -/
def writeBytes (p : Path) (data : List UInt8) : Action Unit := do
  let names ← openForWriting p
  fill names data

/-- Refuses what cannot be the name of an encoding. -/
def checkEncoding (encoding : Text) : Action Unit := do
  if !Text.isWellFormed encoding then Action.raise (.codec .unencodable)
  if encoding.any (·.val = 0) then Action.raise (.misuse .badValue)

/-- The bytes of a text in an encoding; see `Codec.encode?` for complete texts. -/
def encodeWith (codec : Codec) (t : Text) (complete : Bool := true) : Action (List UInt8) :=
  match codec.encode t complete with
  | .ok data => return data
  | .error f => Action.raise (.codec f)

/-- The bytes of a text in the encoding with a name. -/
def encodeText (t encoding : Text) (complete : Bool := true) : Action (List UInt8) := do
  checkEncoding encoding
  match Codec.ofName? encoding with
  | none => Action.raise (.codec .unknownCodec)
  | some codec => encodeWith codec t complete

/-- The name of the encoding that is usual here. -/
def usualEncoding : Text := Text.ofString "locale"

/-- Writes a text to a file in UTF-8.  A text that cannot be encoded leaves the file empty. -/
def writeUtf8 (p : Path) (t : Text) : Action Unit := do
  let names ← openForWriting p
  fill names (← encodeWith .utf8 t false)

/-- Writes a text to a file in the encoding with a name.  A text that cannot be encoded leaves the
file empty. -/
def writeText (p : Path) (t encoding : Text) : Action Unit := do
  checkEncoding encoding
  let names ← openForWriting p
  let encoding := if encoding = usualEncoding then Text.ofString "utf-8" else encoding
  fill names (← encodeText t encoding false)

/-- Creates one directory. -/
def makeOne (p : Path) : Action Unit := do
  let w ← get
  Action.ofFiles (Files.checkLookup p)
  let start := if p.isAbsolute then [] else w.current
  match p.names.getLast? with
  | none => Action.raise (.file .alreadyExists)
  | some last =>
    let above := Files.followNames w.tree true Files.maxLinks start p.names.dropLast
    match ← Action.ofFiles above with
    | (_, none) => Action.raise (.file .notFound)
    | (here, some (.directory es)) =>
      if last.isString ".." then Action.raise (.file .alreadyExists)
      else if Files.maxName < Files.byteLength last then Action.raise (.file .nameTooLong)
      else if (es.lookup last).isSome then Action.raise (.file .alreadyExists)
      else putAt (here ++ [last]) Entry.empty
    | (_, some _) => Action.raise (.file .notDirectory)

/-- Creates a directory and those above it that are missing; one that exists is left alone. -/
def makeDirectories (p : Path) : Action Unit := make p.names.length p
where
  /-- Creates a directory with at most so many missing ones above it. -/
  make : Nat → Path → Action Unit
    | fuel, p => do
      match ← Action.attempt (makeOne p) with
      | .ok _ => return
      | .error (.raised (.file .notFound)) =>
        match fuel with
        | 0 => Action.raise (.file .notFound)
        | fuel + 1 =>
          make fuel p.parent
          settle p (← Action.attempt (makeOne p))
      | r => settle p r
  /-- Accepts a refusal if the directory exists. -/
  settle (p : Path) : Except Failure Unit → Action Unit
    | .ok _ => return
    | .error (.raised (.file .notFound)) => Action.raise (.file .notFound)
    | .error f => do
      match f with
      | .raised (.file g) => if g.isSystem && (← isDirectory p) then return else throw f
      | f => throw f

/-- What stands behind a name in a directory, links followed; `none` if a link leads nowhere. -/
def entryAt? (p : Path) : Action (Option Entry) := do
  match (← get).entry p with
  | .ok e => return some e
  | .error .notFound => return none
  | .error f => Action.raise (.file f)

/-- The entries of a directory, in the order of their names; links are not followed. -/
def entriesIn (p : Path) : Action (List (Text × Entry)) := do
  match ← Action.ofFiles ((← get).entry p) with
  | .directory es => return Entry.inOrder es
  | _ => Action.raise (.file .notDirectory)

/-- The names in a directory, in order. -/
def namesIn (p : Path) : Action (List Text) := do return (← entriesIn p).map Prod.fst

end Files

end SourceDocs
