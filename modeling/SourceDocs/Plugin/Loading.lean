import SourceDocs.Plugin.Basic

/-!
# Loading plugins

A plugin is named by an entry point, or by a module and perhaps an attribute in it.  What is found
is a plugin itself, or makes one from the options.  The surroundings of the program say what entry
points and modules there are.
-/

namespace SourceDocs

/-- What makes a plugin from options. -/
abbrev PluginMaker := List (Value × Value) → Action Plugin

/-- What the name of a plugin can lead to. -/
inductive PluginTarget where
  /-- Nothing at all. -/
  | nothing
  /-- A module, whose functions are the hooks. -/
  | ofModule (p : Plugin)
  /-- A type of plugins. -/
  | ofType (make : PluginMaker)
  /-- Any other thing, which may have hooks and may be called with options. -/
  | thing (p : Plugin) (make : Option PluginMaker)

/-- A module that can be imported. -/
structure PluginModule where
  plugin : Plugin
  /-- Looks the attribute with a name up. -/
  lookUp : Text → Except Cause PluginTarget := fun _ => .error (.misuse .missingAttribute)

/-- Where plugins come from. -/
structure PluginSource where
  /-- The list of entry points by name, and what loading each leads to. -/
  entryPoints : Except Cause (List (Text × Except Cause PluginTarget)) := .ok []
  /-- The module with a name. -/
  importModule : Text → Except Cause PluginModule := fun _ => .error (.load .noSuchModule)

namespace PluginSource

/-- Loads the first entry point with a name; `nothing` if there is none. -/
def loadEntryPoint (s : PluginSource) (name : Text) : Except Failure PluginTarget := do
  let entries ← s.entryPoints.mapError .raised
  match entries.lookup name with
  | none => return .nothing
  | some (.ok t) => return t
  | some (.error c) => throw (.plugin (.entryPoint name c))

/-- A name cut at its first colon. -/
def cutAtColon (name : Text) : Text × Text :=
  let isColon (c : CodePoint) : Bool := c.toChar = ':'
  (name.takeWhile fun c => !isColon c, (name.dropWhile fun c => !isColon c).drop 1)

/-- Imports a module by its name.  Names that begin with a dot are relative, and relative to
nothing. -/
def importNamed (s : PluginSource) (name moduleName : Text) : Except Failure PluginModule :=
  if moduleName.isEmpty then .error (.raised (.misuse .badValue))
  else if moduleName.head? = some (CodePoint.ofChar '.') then .error (.raised (.misuse .wrongType))
  else
    match s.importModule moduleName with
    | .ok m => .ok m
    | .error (.load f) => .error (.plugin (.notImportable name (.load f)))
    | .error c => .error (.raised c)

/-- Imports what a name means: a module, or an attribute of a module behind a colon. -/
def importTarget (s : PluginSource) (name : Text) : Except Failure PluginTarget := do
  let (moduleName, wanted) := cutAtColon name
  let m ← s.importNamed name moduleName
  if wanted.isEmpty then return .ofModule m.plugin
  else
    match m.lookUp wanted with
    | .ok t => return t
    | .error (.misuse .missingAttribute) => throw (.plugin (.noAttribute name wanted))
    | .error c => throw (.raised c)

/-- What the name of a plugin leads to. -/
def find (s : PluginSource) (name : Text) : Except Failure PluginTarget := do
  match ← s.loadEntryPoint name with
  | .nothing => s.importTarget name
  | t => return t

end PluginSource

namespace Plugin

/-- The plugin that a target is or makes. -/
def ofTarget (spec : PluginSpec) : PluginTarget → Action Plugin
  | .ofModule p => return p
  | .ofType make => make spec.option
  | .nothing => throw (.plugin (.noHook spec.name))
  | .thing p make => do
    if ← p.hasHooks then return p
    else
      match make with
      | none => throw (.plugin (.noHook spec.name))
      | some make =>
        let made ← make spec.option
        if ← made.hasHooks then return made else throw (.plugin (.noHook spec.name))

/-- Loads a plugin. -/
def load (s : PluginSource) (spec : PluginSpec) : Action Plugin := do
  let target ← s.find spec.name
  ofTarget spec target

end Plugin

/-- The plugins of a run: those that are asked for, then those that were built already. -/
def Plugins.load (s : PluginSource) (specs : List PluginSpec) (built : List Plugin) :
    Action Plugins := do
  let loaded ← specs.mapM fun spec => do
    let p ← Plugin.load s spec
    p.register
    Action.report (.loadedPlugin spec.name)
    return p
  built.forM fun p => p.register
  return loaded ++ built

end SourceDocs
