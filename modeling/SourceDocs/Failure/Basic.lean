import SourceDocs.Failure.Cause
import SourceDocs.Text.Quoted

/-!
# Failures

A `Failure` ends an operation.  It belongs to one part of the program, or is a bare cause that no
part has taken charge of.  `Failure.message` is its text, where the wording of causes is a
parameter.
-/

namespace SourceDocs

/-- Why a configuration is refused. -/
inductive ConfigFault where
  | fileNotFound (path : Path)
  | unparsable (file : Text) (cause : Cause)
  | fileNotMapping (file : Text)
  | notMapping
  /-- Keys that plugins have taken over, with the plugins. -/
  | retiredKeys (keys : List (String × String))
  | notPath (typeName : String)
  | notTexts (typeName : String)
  | badOption (plugin : Text)
  | badPlugin
  | noInput
  | twoInputs
  | packageWithRoot
  | noDestination
  | badPattern (label : String) (pattern : Text) (cause : Cause)

/-- Why a plugin cannot be loaded. -/
inductive PluginFault where
  | entryPoint (name : Text) (cause : Cause)
  | notImportable (name : Text) (cause : Cause)
  | noAttribute (name wanted : Text)
  | noHook (name : Text)

/-- Why a source file cannot be turned into a tree. -/
inductive SyntaxReason where
  | unreadable (f : FileFault)
  | malformed (cause : Cause)
  | stated (text : Text)

/-- A source file that cannot be turned into a tree, and where in it the fault is. -/
structure SyntaxFault where
  path : Path
  reason : SyntaxReason
  line : Option Int := none
  offset : Option Int := none

/-- Where extraction fails. -/
inductive ExtractionFault where
  | noExtractor (path : Path) (cause : Cause)
  | badNode (path : Path) (typeName : String) (cause : Cause)

/-- Why a tree cannot be archived. -/
inductive PersistenceFault where
  | closed
  | unwritten (target : Path) (cause : Cause)

/-- What ends an operation. -/
inductive Failure where
  | config (f : ConfigFault)
  | plugin (f : PluginFault)
  | source (f : SyntaxFault)
  | extraction (f : ExtractionFault)
  | persistence (f : PersistenceFault)
  /-- The source directory in a package descriptor is not a text. -/
  | descriptor (path : Path) (typeName : String)
  | publish (f : Failure)
  | raised (c : Cause)

instance : Inhabited Failure := ⟨.raised default⟩

/-- The text of a configuration fault. -/
def ConfigFault.message (reason : Cause → Text) : ConfigFault → Text
  | .fileNotFound path => "Configuration file not found: " ++ path.toText
  | .unparsable file cause => "Failed to parse " ++ file ++ Text.ofString ": " ++ reason cause
  | .fileNotMapping file => file ++ Text.ofString " must contain a mapping at the root"
  | .notMapping => ".docharvest.yml must contain a mapping at the root"
  | .retiredKeys keys =>
    Text.join "; " (keys.map fun k =>
      Text.ofString ("config." ++ k.1 ++ " is no longer supported; use " ++ k.2))
  | .notPath t => "Expected a path, got " ++ t
  | .notTexts t => "Expected a list of strings, got " ++ t
  | .badOption p => "Plugin '" ++ p ++ Text.ofString "' option must be a mapping"
  | .badPlugin => "Each plugin entry must be a name or a mapping with a 'name' key"
  | .noInput => "config.root or config.source is required"
  | .twoInputs => "config.root and config.source are mutually exclusive"
  | .packageWithRoot => "config.package cannot be combined with config.root"
  | .noDestination => "config.destination is required"
  | .badPattern label pattern cause =>
    Text.ofString ("Invalid " ++ label ++ " pattern ") ++ Quoted.text pattern ++ Text.ofString ": "
      ++ reason cause

/-- The text of a plugin fault. -/
def PluginFault.message (reason : Cause → Text) : PluginFault → Text
  | .entryPoint name cause =>
    "Failed to load plugin entry point '" ++ name ++ Text.ofString "': " ++ reason cause
  | .notImportable name cause =>
    "Plugin '" ++ name ++ Text.ofString "' could not be imported: " ++ reason cause
  | .noAttribute name wanted =>
    "Plugin '" ++ name ++ Text.ofString "' has no attribute '" ++ wanted ++ Text.ofString "'"
  | .noHook name => "Plugin '" ++ name ++ Text.ofString "' does not implement any hook"

/-- What is wrong with a source file. -/
def SyntaxReason.message (reason : Cause → Text) : SyntaxReason → Text
  | .unreadable f => "cannot read file: " ++ f.text
  | .malformed cause => reason cause
  | .stated t => t

/-- The text of a syntax fault: the path, the line if there is one, and what is wrong. -/
def SyntaxFault.message (reason : Cause → Text) (f : SyntaxFault) : Text :=
  let line : Text := match f.line with
    | some n => if n = 0 then [] else Text.ofChar ':' ++ Text.ofInt n
    | none => []
  f.path.toText ++ line ++ Text.ofString ": " ++ f.reason.message reason

/-- The text of an extraction fault. -/
def ExtractionFault.message (reason : Cause → Text) : ExtractionFault → Text
  | .noExtractor path cause =>
    path.toText ++ Text.ofString ": could not create extractor: " ++ reason cause
  | .badNode path typeName cause =>
    path.toText ++ Text.ofString (": extraction failed on " ++ typeName ++ " node: ")
      ++ reason cause

/-- The text of a persistence fault. -/
def PersistenceFault.message (reason : Cause → Text) : PersistenceFault → Text
  | .closed => "AST persistence pipeline is already closed"
  | .unwritten target cause =>
    "Failed to write AST dump " ++ target.toText ++ Text.ofString ": " ++ reason cause

namespace Failure

/-- The part of the program that a failure belongs to. -/
def kind? : Failure → Option String
  | .config _ => some "config"
  | .plugin _ => some "plugin"
  | .source _ => some "syntax"
  | .extraction _ => some "extraction"
  | .persistence _ => some "persistence"
  | .descriptor _ _ => some "descriptor"
  | .publish _ => some "publish"
  | .raised _ => none

/-- The text of a failure. -/
def message (reason : Cause → Text) : Failure → Text
  | .config f => f.message reason
  | .plugin f => f.message reason
  | .source f => f.message reason
  | .extraction f => f.message reason
  | .persistence f => f.message reason
  | .descriptor path typeName =>
    path.toText ++ Text.ofString (": directories.src must be a string, got " ++ typeName)
  | .publish f => "Publish phase failed: " ++ message reason f
  | .raised c => reason c

/-- What lies underneath a failure: its cause, or its own text if a part of the program has taken
charge of it. -/
def cause (f : Failure) : Cause :=
  match f with
  | .raised c => c
  | f => .own (f.kind?.getD "") (f.message Cause.text)

end Failure

end SourceDocs
