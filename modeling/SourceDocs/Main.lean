import SourceDocs.CommandLine.Program
import SourceDocs.Files.Disk
import Std.Time

/-!
# The command

The command reads the files that its arguments and its configuration name, carries out the run on
them in memory, and writes what has changed back to the disk.
-/

namespace SourceDocs.CommandLine

/-- The depth down to which directories are read. -/
def deepest : Nat := 1000

/-- The paths that a configuration may be at. -/
def configPaths (r : Request) : List Path :=
  match r.config.text? with
  | some t => [Path.ofText t, (Path.ofText t).child settingsFile]
  | none => []

/-- The paths that the settings of a run name. -/
def settingsPaths (w : World) (r : Request) : List Path :=
  let settings (t : Text) : Action Settings := do
    (← Settings.load (Path.ofText t)).withDefaults
  match r.config.text?.map fun t => ((settings t).runIn w).1 with
  | some (.ok s) => [s.root, s.source, s.package, s.index, s.destination].filterMap id
  | _ => []

/-- Reads into a world what a command line needs. -/
def gather (w : World) (args : List Text) : IO World := do
  match parse args with
  | .ok (.run r) =>
    let w ← (configPaths r).foldlM (Disk.extend 0) w
    (settingsPaths w r).foldlM (Disk.extend deepest) w
  | _ => return w

/-- A world that holds the current directory alone. -/
def startingWorld : IO World := do
  let current := (Path.ofString (← IO.currentDir).toString).names
  let home := Path.ofString ((← IO.getEnv "HOME").getD "/")
  return { tree := Disk.plant Entry.empty current Entry.empty, current := current, home := home }

/-- Failures as they are shown, with the time of the run. -/
def wordingNow : IO Wording := do
  let now ← Std.Time.PlainDateTime.now
  return { reason := Cause.text
           time := Text.ofString (now.format "uuuu-MM-dd HH:mm:ss,SSS")
           traceback := fun f => f.message Cause.text }

end SourceDocs.CommandLine

open SourceDocs in
/-- Does what the command line asks for. -/
def main (args : List String) : IO UInt32 := do
  let args := args.map Text.ofString
  let before ← CommandLine.gather (← CommandLine.startingWorld) args
  let wording ← CommandLine.wordingNow
  let (result, after) := (CommandLine.execute {} wording args).runIn before
  Disk.store (← Disk.placeOf after ⟨1, []⟩) (some before.tree) after.tree
  match result with
  | .ok ending =>
    IO.print (Text.toString ending.output)
    IO.eprint (Text.toString ending.errors)
    return ending.exitCode.toUInt32
  | .error f =>
    IO.eprintln (Text.toString (f.message wording.reason))
    return 1
