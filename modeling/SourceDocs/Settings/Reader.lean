import SourceDocs.Settings.Basic
import SourceDocs.Value.Written
import SourceDocs.Yaml.Loader

/-!
# Reading settings

`Settings.ofValue` turns data into valid settings, and `Settings.load` takes the data from a file.
Paths are relative to a base directory; for a file that is the directory it stands in.
-/

namespace SourceDocs.Settings

/-- The keys that plugins have taken over, with the plugins. -/
def retiredKeys : List (String × String) := [
  ("access", "docharvest-standard-plugin"),
  ("autoPrivate", "docharvest-standard-plugin"),
  ("unexportIdentifier", "docharvest-standard-plugin"),
  ("undocumentIdentifier", "docharvest-standard-plugin"),
  ("builtinExternal", "docharvest-standard-plugin"),
  ("coverage", "docharvest-standard-plugin"),
  ("test", "docharvest-standard-plugin"),
  ("title", "docharvest-standard-plugin"),
  ("manual", "docharvest-standard-plugin"),
  ("lint", "docharvest-standard-plugin"),
  ("includeSource", "docharvest-exclude-source-plugin"),
  ("styles", "docharvest-inject-style-plugin"),
  ("scripts", "docharvest-inject-script-plugin"),
  ("experimentalProposal", "docharvest-proposal-plugin")]

/-- Refuses data with keys that plugins have taken over. -/
def checkRetired (entries : List (Value × Value)) : Except ConfigFault Unit :=
  match retiredKeys.filter fun k => (Value.lookupText entries k.1).isSome with
  | [] => .ok ()
  | keys => .error (.retiredKeys keys)

/-- The path that a value names: it is a path, or the text of one. -/
def named? : Value → Option Path
  | .text t => some (Path.ofText t)
  | .path p => some p
  | _ => none

/-- The real path that a value names, relative to a base. -/
def pathOf (base : Path) (v : Option Value) : Action (Option Path) := do
  match v with
  | none | some .null => return none
  | some v =>
    match named? v with
    | some p =>
      let p ← Files.expandHome p
      return some (← Files.resolve (base.join p))
    | none => throw (.config (.notPath v.typeName))

/-- A scalar as a pattern: texts and numbers count, and nothing else. -/
def patternOf (v : Value) : Option (Except MisuseFault Text) :=
  match v with
  | .text t => some (.ok t)
  | .int n =>
    if Json.digitLimit < (Text.ofNat n.natAbs).length then some (.error .badValue)
    else some (.ok (Text.ofInt n))
  | .bool _ | .float _ => some (.ok v.written)
  | _ => none

/-- The patterns among several values. -/
def patternsOf (items : List Value) : Except Failure (List Text) :=
  (items.filterMap patternOf).mapM fun r => r.mapError fun f => .raised (.misuse f)

/-- The patterns that a value lists. -/
def textsOf (v : Option Value) : Except Failure (Option (List Text)) :=
  match v with
  | none | some .null => .ok none
  | some (.text t) => .ok (some [t])
  | some (.list items) | some (.tuple items) | some (.sequence _ items _) =>
    (patternsOf items).map some
  | some (.bytes data _) => .ok (some (data.map fun b => Text.ofNat b.toNat))
  | some v => .error (.config (.notTexts v.typeName))

/-- The plugin that an entry asks for. -/
def specOf (v : Value) : Except ConfigFault PluginSpec :=
  match v with
  | .text t => .ok { name := t }
  | .mapping entries =>
    match Value.lookupText entries "name" with
    | some (.text name) =>
      match Value.lookupText entries "option" with
      | none => .ok { name := name }
      | some (.mapping option) => .ok { name := name, option := option }
      | some v => if v.isTruthy then .error (.badOption name) else .ok { name := name }
    | _ => .error .badPlugin
  | _ => .error .badPlugin

/-- The plugins that a value asks for; a value that is no list is its only entry. -/
def specsOf (v : Option Value) : Except ConfigFault (List PluginSpec) :=
  match v with
  | none | some .null => .ok []
  | some (.list items) | some (.tuple items) => items.mapM specOf
  | some v => do return [← specOf v]

/-- A result of reading settings as an action. -/
def settle {α : Type} (r : Except ConfigFault α) : Action α :=
  match r with
  | .ok a => return a
  | .error f => throw (.config f)

/-- Valid settings from data, with paths relative to a base directory, or to the current one. -/
def ofValue (data : Value) (base : Option Path) : Action Settings := do
  match data with
  | .mapping entries =>
    settle (checkRetired entries)
    let base ← Files.resolve (base.getD {})
    let get (key : String) : Option Value := Value.lookupText entries key
    let destination ← pathOf base (get "destination")
    let root ← pathOf base (get "root")
    let source ← pathOf base (get "source")
    let package ← pathOf base (get "package")
    let includes ← textsOf (get "includes")
    let excludes ← textsOf (get "excludes")
    let index ← pathOf base (get "index")
    let plugins ← settle (specsOf (get "plugins"))
    let s : Settings :=
      { destination := destination, root := root, source := source, package := package,
        includes := includes, excludes := excludes, index := index, plugins := plugins,
        baseDirectory := base }
    s.validate
    return s
  | _ => throw (.config .notMapping)

/-- The configuration file that a path means: the path itself, or the file in that directory. -/
def fileAt (p : Path) : Action Path := do
  let p ← Files.expandHome p
  if ← Files.isDirectory p then Files.resolve (p.child settingsFile) else Files.resolve p

/-- The data in a configuration file; an empty one holds none. -/
def readData (p : Path) : Action Value := do
  let t ← Files.readText p
  if t.all Lines.isBlank then return .mapping []
  else
    match Yaml.load t with
    | .error .malformed => throw (.config (.unparsable p.name .markup))
    | .error (.misuse f) => Action.raise (.misuse f)
    | .ok .null => return .mapping []
    | .ok (.mapping entries) => return .mapping entries
    | .ok _ => throw (.config (.fileNotMapping p.name))

/-- The settings in a configuration file. -/
def load (p : Path) : Action Settings := do
  let file ← fileAt p
  if ← Files.pathExists file then ofValue (← readData file) (some file.parent)
  else throw (.config (.fileNotFound file))

end SourceDocs.Settings
