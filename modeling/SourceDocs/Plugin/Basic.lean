import SourceDocs.Record.Basic
import SourceDocs.Settings.Basic

/-!
# Plugins

A plugin takes part in a run through hooks.  Hooks that transform a value get what the hooks before
them made of it, and may leave it as it is by returning nothing.  They may also return something of
another type than is expected, which the program notices when it uses it.
-/

namespace SourceDocs

/-- The hooks of a run. -/
inductive Hook where
  | start
  | handleConfig
  | handleDocs
  | handleContent
  | publish
  | complete
deriving DecidableEq

namespace Hook

/-- All hooks, in the order of a run. -/
def all : List Hook :=
  [.start, .handleConfig, .handleDocs, .handleContent, .publish, .complete]

/-- The name of a hook. -/
def name : Hook → String
  | .start => "on_start"
  | .handleConfig => "on_handle_config"
  | .handleDocs => "on_handle_docs"
  | .handleContent => "on_handle_content"
  | .publish => "on_publish"
  | .complete => "on_complete"

/-- The hook with a name. -/
def ofName? (t : Text) : Option Hook := all.find? fun h => t.isString h.name

end Hook

/-- What a hook hands on: a value of the type that is expected, or any other value. -/
inductive Handed (α : Type) where
  | proper (a : α)
  | other (v : Value)

namespace Handed

variable {α : Type}

/-- The value, if it is of the type that is expected. -/
def proper? : Handed α → Option α
  | .proper a => some a
  | .other _ => none

/-- The value that a caller has use for; any other one lacks the attributes that are asked for. -/
def demand (x : Handed α) : Except Failure α :=
  match x.proper? with
  | some a => .ok a
  | none => .error (.raised (.misuse .missingAttribute))

/-- The value that a hook leaves when it returns this for `a`. -/
def keep (a : α) (returned : Option α) : Except Failure α := .ok (returned.getD a)

/-- The list that a hook leaves when it returns this for `a`: whatever it returns is listed item by
item. -/
def keepListed (a : List (Handed α)) (returned : Option (Handed (List (Handed α)))) :
    Except Failure (List (Handed α)) :=
  match returned with
  | none => .ok a
  | some (.proper b) => .ok b
  | some (.other v) =>
    match v.items? with
    | some vs => .ok (vs.map .other)
    | none => .error (.raised (.misuse .wrongType))

end Handed

/-- What a plugin can ask for while it publishes; paths are relative to the destination. -/
inductive Request where
  /-- To write content to a file, in an encoding unless it is bytes. -/
  | write (file : Text) (content : Value) (encoding : Text)
  /-- To copy a file or a directory. -/
  | copy (source file : Text)
  /-- For the text of a file. -/
  | read (file : Text)

/-- What a plugin does while it publishes: it asks for things, goes on by the answers, and acts on
the world by itself. -/
inductive Publication (α : Type) where
  | done (a : α)
  | fail (f : Failure)
  | act (change : World → World) (next : World → Publication α)
  | ask (r : Request) (next : Except Failure Text → Publication α)

namespace Publication

variable {α β : Type} {m : Type → Type}

/-- One publication after another. -/
def bind : Publication α → (α → Publication β) → Publication β
  | .done a, f => f a
  | .fail e, _ => .fail e
  | .act change next, f => .act change fun w => (next w).bind f
  | .ask r next, f => .ask r fun answer => (next answer).bind f

instance : Monad Publication where
  pure := .done
  bind := bind

/-- What is done with the outcome of an action. -/
def ofExcept : Except Failure α → Publication α
  | .ok a => .done a
  | .error f => .fail f

instance : MonadLift Action Publication :=
  ⟨fun x => .act (fun w => (x.runIn w).2) fun w => ofExcept (x.runIn w).1⟩

/-- Asks for something, and fails if that fails. -/
def request (r : Request) : Publication Text := .ask r ofExcept

/-- How something ends, as a value. -/
def ending [Monad m] [MonadExceptOf Failure m] (x : m α) : m (Except Failure α) := do
  try return .ok (← x) catch f => return .error f

/-- Carries a publication out, where `answer` does what it asks for. -/
def run [Monad m] [MonadExceptOf Failure m] [MonadLiftT Action m] (answer : Request → m Text) :
    Publication α → m α
  | .done a => return a
  | .fail f => throw f
  | .act change next => do
    let w ← Action.world
    Action.change change
    (next w).run answer
  | .ask r next => do
    let r ← ending (answer r)
    (next r).run answer

end Publication

/-- A plugin: what it is called, the options it was given, and its hooks. -/
structure Plugin where
  typeName : Text := []
  option : Option Value := none
  onStart : Option (Action Unit) := none
  onHandleConfig : Option (Handed Settings → Action (Option (Handed Settings))) := none
  onHandleDocs :
    Option (List (Handed DocRecord) → Action (Option (Handed (List (Handed DocRecord))))) := none
  onHandleContent : Option (Value → Path → Action (Option Value)) := none
  onPublish : Option (Publication Unit) := none
  onComplete : Option (Action Unit) := none
  /-- What the look-up of a hook fails with, if it does; the lack of a hook is no failure. -/
  withholds : Hook → Option Cause := fun _ => none

namespace Plugin

/-- Whether a plugin has a hook. -/
def has (p : Plugin) : Hook → Bool
  | .start => p.onStart.isSome
  | .handleConfig => p.onHandleConfig.isSome
  | .handleDocs => p.onHandleDocs.isSome
  | .handleContent => p.onHandleContent.isSome
  | .publish => p.onPublish.isSome
  | .complete => p.onComplete.isSome

/-- The hooks of a plugin, in the order of a run. -/
def hooks (p : Plugin) : List Hook := Hook.all.filter p.has

/-- Looks a hook up. -/
def lookUp (p : Plugin) (h : Hook) : Except Failure Bool :=
  match p.withholds h with
  | some c => .error (.raised c)
  | none => .ok (p.has h)

/-- Whether a plugin has any hook; no other is looked up once one is found. -/
def hasHooks (p : Plugin) : Except Failure Bool := Hook.all.anyM p.lookUp

/-- Looks all hooks of a plugin up, so that they can be called. -/
def register (p : Plugin) : Except Failure Unit := Hook.all.forM fun h => discard (p.lookUp h)

end Plugin

/-- The plugins of a run in the order of their registration. -/
abbrev Plugins := List Plugin

namespace Plugins

/-- Passes a value through transforming hooks, where `keep` says what each of them leaves. -/
def transform {α β : Type} (keep : α → Option β → Except Failure α)
    (hooks : List (α → Action (Option β))) (a : α) : Action α :=
  hooks.foldlM (fun a hook => do keep a (← hook a)) a

/-- The number of plugins with a hook. -/
def count (ps : Plugins) (h : Hook) : Nat := (ps.filter fun p => p.has h).length

/-- Tells all plugins that the run starts. -/
def start (ps : Plugins) : Action Unit := (ps.filterMap Plugin.onStart).forM id

/-- The settings as the plugins want them. -/
def handleConfig (ps : Plugins) (s : Settings) : Action (Handed Settings) :=
  transform Handed.keep (ps.filterMap Plugin.onHandleConfig) (.proper s)

/-- The records as the plugins want them. -/
def handleDocs (ps : Plugins) (records : List DocRecord) : Action (List (Handed DocRecord)) :=
  transform Handed.keepListed (ps.filterMap Plugin.onHandleDocs) (records.map .proper)

/-- Content for a file as the plugins want it. -/
def handleContent (ps : Plugins) (content : Value) (path : Path) : Action Value :=
  let hooks := ps.filterMap Plugin.onHandleContent
  transform Handed.keep (hooks.map fun hook content => hook content path) content

/-- Lets all plugins publish, where `answer` does what they ask for. -/
def publish (ps : Plugins) (answer : Request → Action Text) : Action Unit :=
  (ps.filterMap Plugin.onPublish).forM fun p => p.run answer

/-- Tells all plugins that the run is complete. -/
def complete (ps : Plugins) : Action Unit := (ps.filterMap Plugin.onComplete).forM id

end Plugins

end SourceDocs
