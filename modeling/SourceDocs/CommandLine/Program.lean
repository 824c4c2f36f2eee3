import SourceDocs.CommandLine.Options
import SourceDocs.Log.Output
import SourceDocs.Run
import SourceDocs.Settings.Reader

/-!
# The program

`CommandLine.execute` does what a command line asks for and says what the program prints and how it
exits.
-/

namespace SourceDocs.CommandLine

/-- How a program ends. -/
structure Ending where
  exitCode : Nat := 0
  output : Text := []
  errors : Text := []

/-- The path of a result as it is shown: relative to the current directory, if it is below it. -/
def shownPath (w : World) (p : Path) : Text :=
  match p.below? ⟨1, w.current⟩ with
  | some q => q.toText
  | none => p.toText

/-- The message of a failed run. -/
def failureText (wording : Wording) (f : Failure) : Text :=
  let hint : Text := match f.kind? with
    | some _ => []
    | none => "Run with --verbose for more details.\n"
  Text.ofString "docharvest failed: " ++ f.message wording.reason ++ Text.ofChar '\n' ++ hint

/-- A run with the settings in a configuration file. -/
def generateFrom (c : Collaborators) (config : OptionValue) : Action Outcome := do
  match config with
  | .nothing => Action.raise (.misuse .wrongType)
  | .text t =>
    let settings ← Settings.load (Path.ofText t)
    Run.generate c settings

/-- The log file that an option names. -/
def logPath : Option OptionValue → Action (Option Path)
  | none => return none
  | some .nothing => Action.raise (.misuse .missingAttribute)
  | some (.text t) => return some (Path.ofText t)

/-- Does what a request asks for.  The log is written when the run has ended. -/
def perform (c : Collaborators) (wording : Wording) (r : Request) :
    ActionWith LogOutput Ending := do
  LogOutput.configure r.verbose (← logPath r.logFile)
  let before := (← Action.world).log.length
  let result ← Action.attempt (generateFrom c r.config)
  match result with
  | .error f => Action.report (.runFailed f)
  | .ok _ => pure ()
  let w ← Action.world
  let events := (w.log.take (w.log.length - before)).reverse
  events.forM fun e => LogOutput.emit (e.entry wording)
  let log := (← ActionWith.state).console
  match result with
  | .error f => return { exitCode := 1, errors := log ++ failureText wording f }
  | .ok outcome =>
    let shown := shownPath w outcome.outputPath
    return { output := Text.ofString "Documentation written to " ++ shown ++ Text.ofChar '\n'
             errors := log }

/-- Does what a command line asks for. -/
def execute (c : Collaborators) (wording : Wording) (args : List Text) : Action Ending := do
  match parse args with
  | .error f =>
    let complaint := Text.ofString "docharvest: error: " ++ f.message ++ Text.ofChar '\n'
    return { exitCode := 2, errors := usage ++ complaint }
  | .ok .help => return { output := helpText }
  | .ok (.run r) =>
    let (ending, _) ← ActionWith.keeping {} (perform c wording r)
    match ending with
    | .ok e => return e
    | .error f => throw f

end SourceDocs.CommandLine
