import SourceDocs.Failure.Basic
import SourceDocs.Log.Excerpt

/-!
# Log events

What the program reports while it runs.  Each event has a level, the part of the program that it
comes from, and a message.
-/

namespace SourceDocs

/-- What happened, for the log. -/
inductive LogEvent where
  | unreadableDescriptor (descriptor directory : Path)
  | foundPackage (descriptor : Path)
  | noSources (directory : Path)
  | sourcesNotDirectory (directory : Path)
  | sourcesHint
  | parsing (path : Path)
  /-- A source file could not be read into a tree; the excerpt shows where. -/
  | badSource (path : Path) (reason : SyntaxReason) (line : Option Int) (excerpt : Option Text)
  /-- A node could not be described. -/
  | badNode (path : Path) (typeName : String) (line : Option Int) (excerpt : Option Text)
  | raised (f : Failure)
  | noIndex (path : Path)
  | unreadPackage (path : Path)
  | wroteRecords (count : Nat) (path : Path)
  | wroteTree (path : Path)
  | drained (count : Nat)
  | loadedPlugin (name : Text)
  | publishing (path : Path)
  | copying (path : Path)
  | collecting (root : Path)
  | finished
  | skipping (relativePath : Text)
  | summary (seen matched parsed skipped packages archived : Nat)
  /-- A run failed in one of the program's parts, or unexpectedly. -/
  | runFailed (f : Failure)

namespace LogEvent

/-- Levels of importance. -/
inductive Level where
  | debug
  | info
  | warning
  | error
deriving DecidableEq

/-- The number of a level. -/
def Level.number : Level → Nat
  | .debug => 10
  | .info => 20
  | .warning => 30
  | .error => 40

/-- The name of a level. -/
def Level.name : Level → String
  | .debug => "DEBUG"
  | .info => "INFO"
  | .warning => "WARNING"
  | .error => "ERROR"

/-- How important an event is. -/
def level : LogEvent → Level
  | .unreadableDescriptor .. | .noSources _ | .sourcesNotDirectory _ | .sourcesHint | .badSource ..
  | .badNode .. | .raised _ => .error
  | .noIndex _ => .warning
  | .unreadPackage _ | .wroteTree _ | .drained _ | .loadedPlugin _ | .skipping _ => .debug
  | .runFailed f => if f.kind?.isSome then .debug else .error
  | _ => .info

/-- The part of the program that an event comes from. -/
def part : LogEvent → String
  | .unreadableDescriptor .. | .foundPackage _ | .noSources _ | .sourcesNotDirectory _
  | .sourcesHint => "walker"
  | .parsing _ => "extraction"
  | .badSource .. | .badNode .. | .raised _ => "invalid_code"
  | .noIndex _ | .unreadPackage _ | .wroteRecords .. => "assembler"
  | .wroteTree _ | .drained _ => "persistence"
  | .loadedPlugin _ | .publishing _ | .copying _ => "plugins"
  | .collecting _ | .finished | .skipping _ | .summary .. => "generator"
  | .runFailed _ => "cli"

/-- The name of the log that a part of the program writes to. -/
def logName (part : String) : String := "docharvest." ++ part

/-- A path in brackets, with a line if there is one that counts. -/
def place (path : Path) (line : Option Int) : Text :=
  let number : Text := match line with
    | some n => Text.ofChar ':' ++ Text.ofInt n
    | none => []
  Text.ofChar '[' ++ path.toText ++ number ++ Text.ofString "] "

/-- An excerpt below a message. -/
def below (excerpt : Option Text) : Text :=
  match excerpt with
  | some t => Text.ofChar '\n' ++ t
  | none => []

/-- The message of an event. -/
def message (reason : Cause → Text) : LogEvent → Text
  | .unreadableDescriptor d dir =>
    "Found unparseable package descriptor at " ++ d.toText ++ Text.ofString "; skipping "
      ++ dir.toText
  | .foundPackage d => "Found package at " ++ d.toText
  | .noSources dir =>
    "Looked for project sources in " ++ dir.toText
      ++ Text.ofString ", but the directory does not exist."
  | .sourcesNotDirectory dir =>
    "Tried to find project sources in " ++ dir.toText
      ++ Text.ofString ", which is not a directory."
  | .sourcesHint =>
    Text.ofString "You are seeing this because the documented folder contains a package.json. "
      ++ Text.ofString "To override a package's source directory, set \"directories\": "
      ++ Text.ofString "\x7b\"src\": \"mySrcDir\"\x7d in it."
  | .parsing p => "parse " ++ p.toText
  | .badSource p why line excerpt => place p line ++ why.message reason ++ below excerpt
  | .badNode p typeName line excerpt =>
    place p line ++ Text.ofString ("could not process " ++ typeName ++ " node") ++ below excerpt
  | .raised f => f.message reason
  | .noIndex p => "Index file " ++ p.toText ++ Text.ofString " not found; skipping index record"
  | .unreadPackage p => "Package descriptor " ++ p.toText ++ Text.ofString " could not be read"
  | .wroteRecords n p => "wrote " ++ Text.ofNat n ++ Text.ofString " records to " ++ p.toText
  | .wroteTree p => "write " ++ p.toText
  | .drained n => "AST pipeline drained after " ++ Text.ofNat n ++ Text.ofString " files"
  | .loadedPlugin n => "Loaded plugin " ++ n
  | .publishing p => "write " ++ p.toText
  | .copying p => "copy " ++ p.toText
  | .collecting p => "Collecting documentation from " ++ p.toText
  | .finished => "finished generating files"
  | .skipping p => "skip " ++ p
  | .summary seen matched parsed skipped packages archived =>
    Text.ofNat seen ++ Text.ofString " files seen, "
      ++ Text.ofNat matched ++ Text.ofString " matched, "
      ++ Text.ofNat parsed ++ Text.ofString " parsed, " ++ Text.ofNat skipped
      ++ Text.ofString " skipped, " ++ Text.ofNat packages ++ Text.ofString " packages, "
      ++ Text.ofNat archived ++ Text.ofString " ASTs written"
  | .runFailed f =>
    match f.kind? with
    | some k => Text.ofString ("Run failed with " ++ k ++ " error")
    | none => "Unexpected failure"

/-- The failure that an event carries along for its traceback. -/
def failure? : LogEvent → Option Failure
  | .raised f | .runFailed f => some f
  | _ => none

end LogEvent

end SourceDocs
