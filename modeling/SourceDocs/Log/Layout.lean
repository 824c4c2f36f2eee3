import SourceDocs.Log.Template
import SourceDocs.Path
import SourceDocs.Pattern.Matching

/-!
# Layout of log lines

A layout says how an entry of the log is written: a template whose places are the fields of the
entry.  All lines of an entry but the first are indented, so that an excerpt stays with its
message.
-/

namespace SourceDocs

/-- An entry of the log. -/
structure LogEntry where
  level : Int
  /-- The name of the log. -/
  log : Text
  message : Text
  time : Text
  /-- Where the entry is made. -/
  file : Path := Path.ofString ""
  line : Nat := 0
  /-- Where a failure that goes with the entry came from. -/
  traceback : Option Text := none

namespace LogEntry

/-- The name of a level. -/
def levelName (n : Int) : Text :=
  match n with
  | 0 => "NOTSET"
  | 10 => "DEBUG"
  | 20 => "INFO"
  | 30 => "WARNING"
  | 40 => "ERROR"
  | 50 => "CRITICAL"
  | n => Text.ofString "Level " ++ Text.ofInt n

/-- Indents all lines of a text but the first. -/
def indentRest (t : Text) : Text :=
  let isEnd (c : CodePoint) : Bool := c.toChar = '\n'
  let head := t.takeWhile fun c => !isEnd c
  let rest := (t.dropWhile fun c => !isEnd c).drop 1
  Text.join "\n" (head :: (Lines.split rest).map (Text.ofString "    " ++ ·))

end LogEntry

/-- A message with arguments filled in; without arguments it is taken as it stands.  A single
mapping that is not empty gives its entries. -/
def fillMessage (message : Text) (args : List Value) : Except MisuseFault Text :=
  match args with
  | [] => .ok message
  | [.mapping (e :: es)] => Template.fill message (.ofEntries (e :: es))
  | args => Template.fill message (.ofList args)

/-! ## Layouts -/

/-- A layout: a template whose places are fields of an entry. -/
abbrev Layout := Text

namespace Layout

/-- What a layout must hold: a place with a field. -/
def fieldForm : Text :=
  "(?i)%\\(\\w+\\)[#0+ -]*(\\*|\\d+)?(\\.(\\*|\\d+))?[diouxefgcrsa%]"

/-- Whether a text is a layout. -/
def isLayout (t : Text) : Bool :=
  match Program.ofText fieldForm with
  | .ok p => p.occursIn t
  | .error _ => false

/-- The layout of a message alone. -/
def bare : Layout := "%(message)s"

/-- The layout of the console. -/
def console : Layout := "[docharvest] %(levelname)s %(message)s"

/-- The layout of a log file. -/
def file : Layout := "%(asctime)s %(levelname)s %(name)s: %(message)s"

/-- The fields of an entry, where its message is filled from arguments. -/
def fields (e : LogEntry) (args : List Value) (message : Text) : List (Value × Value) :=
  let given : Value := match args with
    | [.mapping (a :: as)] => .mapping (a :: as)
    | args => .tuple args
  [("name", .text e.log), ("msg", .text e.message), ("args", given),
   ("levelname", .text (LogEntry.levelName e.level)), ("levelno", .int e.level),
   ("pathname", .text e.file.toText), ("filename", .text e.file.name),
   ("module", .text e.file.stem), ("exc_info", if e.traceback.isSome then .object else .null),
   ("exc_text", .null), ("stack_info", .null), ("lineno", .int e.line), ("funcName", .null),
   ("threadName", .ofString "MainThread"), ("processName", .ofString "MainProcess"),
   ("message", .text message), ("asctime", .text e.time)].map fun (k, v) => (Value.ofString k, v)

/-- The text of an entry: the layout with its fields, the traceback on a new line, and the rest
indented. -/
def write (l : Layout) (e : LogEntry) (args : List Value := []) : Except MisuseFault Text := do
  let message ← fillMessage e.message args
  let t ← match Template.fill l (.ofEntries (fields e args message)) with
    | .error .missingKey => throw .badValue
    | t => t
  let ending : Text := match e.traceback with
    | none => []
    | some b =>
      let gap : Text := if t.getLast? = some (CodePoint.ofChar '\n') then [] else Text.ofChar '\n'
      gap ++ b
  return LogEntry.indentRest (t ++ ending)

/-- The text of an entry in the layout that a text describes, or of its message alone if there is no
such text; the arguments go into the message. -/
def render (layout : Option Text) (args : List Value) (e : LogEntry) : Except MisuseFault Text :=
  let given := layout.getD []
  let l := if given.isEmpty then bare else given
  if isLayout l then write l e args else .error .badValue

end Layout

end SourceDocs
