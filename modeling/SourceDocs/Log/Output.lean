import SourceDocs.Log.Layout
import SourceDocs.World

/-!
# Where the log goes

The log goes to the console and, if asked for, to a file that holds the latest run only.  Entries
below a level are left out.  Until the log is sent anywhere, warnings and errors go to the console.
-/

namespace SourceDocs

/-- Where the log goes. -/
structure LogOutput where
  /-- The least level that is written. -/
  level : Nat := 30
  /-- The log goes to the console. -/
  onConsole : Bool := false
  /-- The real names of the log file. -/
  file : Option (List Text) := none
  /-- What was written to the console. -/
  console : Text := []

namespace LogOutput

/-- The name of the topmost log. -/
def rootName : Text := Text.ofString "docharvest"

/-- The name of a log below the topmost one. -/
def logName (part : Option Text) : Text :=
  match part with
  | none => rootName
  | some t => if t.isEmpty then rootName else rootName ++ Text.ofChar '.' ++ t

/-- Sends the log to the console, and to a file if one is given.  The console is in use even if the
file cannot be opened. -/
def configure (verbose : Bool) (file : Option Path) : ActionWith LogOutput Unit := do
  ActionWith.update fun o =>
    { o with level := if verbose then 10 else 20, onConsole := true, file := none }
  match file with
  | none => return
  | some p =>
    Files.makeDirectories p.parent
    let names ← Files.openForWriting ((← Action.world).absolute p)
    ActionWith.update fun o => { o with file := some names }

/-- The number of places that the log goes to. -/
def placeCount (o : LogOutput) : Nat :=
  (if o.onConsole then 1 else 0) + (if o.file.isSome then 1 else 0)

/-- An entry as a line. -/
def lineOf (l : Layout) (e : LogEntry) : Text :=
  match l.write e with
  | .ok t => t ++ Text.ofChar '\n'
  | .error _ => []

/-- Appends a text to a file. -/
def appendTo (names : List Text) (t : Text) : Action Unit := do
  let w ← Action.world
  match w.tree.get? names, Utf8.encode? t with
  | some (.file data), some more => Files.putAt names (.file (data ++ more))
  | _, _ => return

/-- The layout of the console: the message alone as long as the log has been sent nowhere. -/
def consoleLine (o : LogOutput) (e : LogEntry) : Text :=
  if o.onConsole then lineOf .console e else e.message ++ Text.ofChar '\n'

/-- Writes an entry. -/
def emit (e : LogEntry) : ActionWith LogOutput Unit := do
  let o ← ActionWith.state
  if (o.level : Int) ≤ e.level then
    ActionWith.update fun o => { o with console := o.console ++ o.consoleLine e }
    match o.file with
    | some names => appendTo names (lineOf .file e)
    | none => return

end LogOutput

/-- How causes, times and tracebacks are worded. -/
structure Wording where
  reason : Cause → Text
  time : Text
  traceback : Failure → Text

/-- The entry of an event. -/
def LogEvent.entry (w : Wording) (e : LogEvent) : LogEntry where
  level := (e.level.number : Nat)
  log := LogOutput.logName (some (Text.ofString e.part))
  message := e.message w.reason
  time := w.time
  traceback := e.failure?.map w.traceback

end SourceDocs
