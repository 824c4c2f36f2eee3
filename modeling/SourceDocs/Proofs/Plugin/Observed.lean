import SourceDocs.Proofs.Run.Blind
import SourceDocs.Proofs.Run.Quiet

/-!
# Plugins that are observed

Any plugin can be made to note when its hooks are called and how they return, and what it asks for
while it publishes (`Plugin.noted`).  Then the notes tell what a run does with its plugins.
`Traces` says of an action what it adds to the notes, and `InTurn` is what is noted when hooks are
called one after the other, each with what the one before it has left.
-/

namespace SourceDocs

open World Acting SourceDocs.Action

/-! ## Observations -/

namespace Hook

/-- What a hook is called with. -/
abbrev Argument : Hook → Type
  | .start | .publish | .complete => Unit
  | .handleConfig => Handed Settings
  | .handleDocs => List (Handed DocRecord)
  | .handleContent => Value × Path

/-- What a hook returns. -/
abbrev Result : Hook → Type
  | .start | .publish | .complete => Unit
  | .handleConfig => Option (Handed Settings)
  | .handleDocs => Option (Handed (List (Handed DocRecord)))
  | .handleContent => Option Value

end Hook

/-- What can be observed of the plugins of a run, which are numbered. -/
inductive Observation where
  | called (plugin : Nat) (h : Hook) (argument : h.Argument)
  | returned (plugin : Nat) (h : Hook) (ending : Except Failure h.Result)
  | asked (plugin : Nat) (r : Request)
  | answered (plugin : Nat) (answer : Except Failure Text)

namespace Observation

/-- The world with a note of an observation. -/
def note (say : Observation → Text) (o : Observation) (w : World) : World :=
  { w with notes := say o :: w.notes }

end Observation

/-- Between two worlds these observations have been noted, and nothing else. -/
def World.Says (say : Observation → Text) (w v : World) (obs : List Observation) : Prop :=
  v.notes = (obs.map say).reverse ++ w.notes

section

variable (say : Observation → Text) (i : Nat)

/-- A hook that notes when it is called and how it returns, and leaves no other notes. -/
def Hook.noted (h : Hook) (argument : h.Argument) (hook : Action h.Result) : Action h.Result := do
  Action.change (Observation.note say (.called i h argument))
  let w ← Action.world
  let ending ← Action.attempt hook
  Action.change fun v => Observation.note say (.returned i h ending) { v with notes := w.notes }
  liftM ending

/-- A publication that notes what it asks for, what the answers are and how it ends, and leaves no
other notes. -/
def Publication.noted : Publication Unit → Publication Unit
  | .done a =>
    .act (Observation.note say (.returned i .publish (.ok a))) fun _ => .done a
  | .fail f =>
    .act (Observation.note say (.returned i .publish (.error f))) fun _ => .fail f
  | .act change next =>
    .act (fun w => { change w with notes := w.notes }) fun w => (next w).noted
  | .ask r next =>
    .act (Observation.note say (.asked i r)) fun _ => .ask r fun answer =>
      .act (Observation.note say (.answered i answer)) fun _ => (next answer).noted

/-- A plugin that is observed under a number. -/
def Plugin.noted (p : Plugin) : Plugin where
  typeName := p.typeName
  option := p.option
  onStart := p.onStart.map (Hook.noted say i .start ())
  onHandleConfig := p.onHandleConfig.map fun hook s => Hook.noted say i .handleConfig s (hook s)
  onHandleDocs := p.onHandleDocs.map fun hook records =>
    Hook.noted say i .handleDocs records (hook records)
  onHandleContent := p.onHandleContent.map fun hook content path =>
    Hook.noted say i .handleContent (content, path) (hook content path)
  onPublish := p.onPublish.map fun publication =>
    .act (Observation.note say (.called i .publish ())) fun _ => publication.noted say i
  onComplete := p.onComplete.map (Hook.noted say i .complete ())

end

namespace Plugins

/-- Plugins that are observed under their places in the order of registration. -/
def noted (say : Observation → Text) (ps : Plugins) : Plugins :=
  ps.zipIdx.map fun y => y.1.noted say y.2

/-- The numbers of the plugins with a hook. -/
def callers (ps : Plugins) (h : Hook) : List Nat :=
  (ps.zipIdx.filter fun y => y.1.has h).map Prod.snd

end Plugins

/-! ## What an action notes -/

namespace World

variable {say : Observation → Text} {w v u : World} {obs obs' : List Observation}

/-- The same notes. -/
def SameNotes (w v : World) : Prop := v.notes = w.notes

instance : IsPreorder World SameNotes where
  refl _ := rfl
  trans _ _ _ h h' := h'.trans h

theorem SameNotes.nothingNoted (h : w.SameNotes v) : w.Says say v [] := h

theorem Says.trans (h : w.Says say v obs) (h' : v.Says say u obs') :
    w.Says say u (obs ++ obs') := by
  rw [Says] at *
  rw [h', h, List.map_append, List.reverse_append, List.append_assoc]

theorem says_note (o : Observation) (w : World) : w.Says say (o.note say w) [o] := rfl

end World

namespace Action

variable {α β : Type} {say : Observation → Text}

/-- The action notes nothing. -/
abbrev Silent (x : Action α) : Prop := Within SameNotes x

theorem Draws.silent {x : Action α} (hx : Draws x) : Silent x := hx.mono fun _ _ h => h.notes_eq

theorem Looks.silent {x : Action α} (hx : Looks x) : Silent x := hx.draws.silent

theorem Works.silent {x : Action α} (hx : Works x) : Silent x :=
  hx.within.mono fun _ _ h => by rw [SameNotes, h]

/-- What the action notes, and how it ends, is of a kind. -/
def Traces (say : Observation → Text) (T : List Observation → Except Failure α → Prop)
    (x : Action α) : Prop :=
  ∀ w, ∃ obs, w.Says say (x.runIn w).2 obs ∧ T obs (x.runIn w).1

namespace Traces

variable {T V : List Observation → Except Failure α → Prop}
  {U : α → List Observation → Except Failure β → Prop}
  {W : List Observation → Except Failure β → Prop}

theorem mono {x : Action α} (hx : Traces say T x) (hTV : ∀ obs r, T obs r → V obs r) :
    Traces say V x := by
  intro w
  obtain ⟨obs, hsays, hT⟩ := hx w
  exact ⟨obs, hsays, hTV obs _ hT⟩

theorem silent {x : Action α} (hx : Silent x) : Traces say (fun obs _ => obs = []) x :=
  fun w => ⟨[], (hx w).nothingNoted, rfl⟩

theorem ofExcept (r : Except Failure α) :
    Traces say (fun obs r' => obs = [] ∧ r' = r) (liftM r) := fun _ => ⟨[], rfl, rfl, rfl⟩

/-- Two steps note what the first one notes and then what the second one does. -/
theorem bind {x : Action α} {f : α → Action β} (hx : Traces say T x)
    (hf : ∀ a, Traces say (U a) (f a)) (herror : ∀ obs e, T obs (.error e) → W obs (.error e))
    (hok : ∀ obs a obs' r, T obs (.ok a) → U a obs' r → W (obs ++ obs') r) :
    Traces say W (x >>= f) := by
  intro w
  obtain ⟨obs, hsays, hT⟩ := hx w
  rcases hrun : x.runIn w with ⟨e | a, v⟩ <;> rw [hrun] at hsays hT
  · rw [runIn_bind_error hrun]
    exact ⟨obs, hsays, herror obs e hT⟩
  · obtain ⟨obs', hsays', hU⟩ := hf a v
    rw [runIn_bind_ok hrun]
    exact ⟨obs ++ obs', hsays.trans hsays', hok obs a obs' _ hT hU⟩

theorem attempt {x : Action α} (hx : Traces say T x) :
    Traces say (fun obs r => ∃ ending, r = .ok ending ∧ T obs ending) (Action.attempt x) := by
  intro w
  obtain ⟨obs, hsays, hT⟩ := hx w
  rw [runIn_attempt]
  exact ⟨obs, hsays, _, rfl, hT⟩

/-- A step that notes nothing. -/
theorem after_silent {x : Action α} {f : α → Action β} (hx : Silent x)
    (hf : ∀ a, Traces say W (f a)) (herror : ∀ e, W [] (.error e)) : Traces say W (x >>= f) := by
  refine (silent hx).bind hf ?_ ?_
  · rintro _ e rfl
    exact herror e
  · rintro _ a obs' r rfl hW
    exact hW

end Traces

/-! ## One hook after the other -/

/-- One after the other deals with a value, each with what the one before it has left.  What fails
is the last. -/
inductive InTurn (T : Nat → α → List Observation → Except Failure α → Prop) :
    List Nat → α → List Observation → Except Failure α → Prop where
  | done (a : α) : InTurn T [] a [] (.ok a)
  | failed {i : Nat} {is : List Nat} {a : α} {obs : List Observation} {f : Failure} :
      T i a obs (.error f) → InTurn T (i :: is) a obs (.error f)
  | next {i : Nat} {is : List Nat} {a b : α} {obs obs' : List Observation} {r : Except Failure α} :
      T i a obs (.ok b) → InTurn T is b obs' r → InTurn T (i :: is) a (obs ++ obs') r

variable {γ : Type} {T : Nat → α → List Observation → Except Failure α → Prop}

theorem inTurn_foldlM {step : α → γ × Nat → Action α}
    (hstep : ∀ a y, Traces say (T y.2 a) (step a y)) (ys : List (γ × Nat)) (a : α) :
    Traces say (InTurn T (ys.map Prod.snd) a) (ys.foldlM step a) := by
  induction ys generalizing a with
  | nil => exact fun w => ⟨[], rfl, .done a⟩
  | cons y rest ih =>
    rw [List.foldlM_cons]
    exact (hstep a y).bind ih (fun _ _ h => .failed h) fun _ _ _ _ h h' => .next h h'

theorem inTurn_forM {T : Nat → Unit → List Observation → Except Failure Unit → Prop}
    {step : γ × Nat → Action Unit} (hstep : ∀ y, Traces say (T y.2 ()) (step y))
    (ys : List (γ × Nat)) : Traces say (InTurn T (ys.map Prod.snd) ()) (ys.forM step) := by
  have hfold : ys.forM step = ys.foldlM (fun _ y => step y) () := by
    induction ys with
    | nil => rfl
    | cons y rest ih =>
      rw [List.foldlM_cons]
      exact bind_congr fun _ => ih
  rw [hfold]
  exact inTurn_foldlM (fun _ y => hstep y) ys ()

/-- A hook is called with a value; what it returns decides what it leaves. -/
def Answers {h : Hook} (argument : α → h.Argument) (keep : α → h.Result → Except Failure α)
    (i : Nat) (a : α) (obs : List Observation) (r : Except Failure α) : Prop :=
  ∃ ending, obs = [.called i h (argument a), .returned i h ending] ∧ r = ending.bind (keep a)

theorem runIn_noted (i : Nat) (h : Hook) (argument : h.Argument) (hook : Action h.Result)
    (w : World) : (h.noted say i argument hook).runIn w =
      ((hook.runIn (Observation.note say (.called i h argument) w)).1,
        Observation.note say
          (.returned i h (hook.runIn (Observation.note say (.called i h argument) w)).1)
          { (hook.runIn (Observation.note say (.called i h argument) w)).2 with
            notes := say (.called i h argument) :: w.notes }) := by
  rw [Hook.noted, runIn_bind_ok (runIn_change _ w), runIn_bind_ok (runIn_world _),
    runIn_attempt_bind, runIn_bind_ok (runIn_change _ _), runIn_lift]
  rfl

theorem traces_noted (i : Nat) (h : Hook) (argument : h.Argument) (hook : Action h.Result) :
    Traces say (fun obs r => obs = [.called i h argument, .returned i h r])
      (h.noted say i argument hook) := by
  intro w
  rw [runIn_noted]
  exact ⟨[.called i h argument, .returned i h _], rfl, rfl⟩

theorem LeavesFiles.noted {h : Hook} {hook : Action h.Result} (hhook : LeavesFiles hook) (i : Nat)
    (argument : h.Argument) : LeavesFiles (h.noted say i argument hook) := by
  intro w
  have hsame := hhook (Observation.note say (.called i h argument) w)
  rw [outcome_action] at hsame
  rw [outcome_action, runIn_noted]
  exact ⟨hsame.tree, hsame.current, hsame.stack, hsame.refusal⟩

theorem traces_hook {h : Hook} {argument : α → h.Argument} {keep : α → h.Result → Except Failure α}
    (i : Nat) (a : α) (hook : Action h.Result) :
    Traces say (Answers argument keep i a)
      (h.noted say i (argument a) hook >>= fun returned => liftM (keep a returned)) := by
  refine (traces_noted i h (argument a) hook).bind
    (fun returned => .ofExcept (keep a returned)) ?_ ?_
  · rintro _ e rfl
    exact ⟨.error e, rfl, rfl⟩
  · rintro _ returned _ _ rfl ⟨rfl, rfl⟩
    exact ⟨.ok returned, rfl, rfl⟩

end Action

/-! ## The hooks of plugins -/

namespace Plugins

variable {α γ : Type} {say : Observation → Text} {ps : Plugins} {h : Hook}

/-- The hooks of a kind, with the numbers of their plugins. -/
def numbered (ps : Plugins) (get : Plugin → Option γ) : List (γ × Nat) :=
  ps.zipIdx.filterMap fun y => (get y.1).map (·, y.2)

theorem map_snd_numbered {get : Plugin → Option γ} (hhas : ∀ p, p.has h = (get p).isSome) :
    (ps.numbered get).map Prod.snd = ps.callers h := by
  rw [numbered, callers]
  induction ps.zipIdx with
  | nil => rfl
  | cons y rest ih =>
    rw [List.filterMap_cons, List.filter_cons, hhas]
    cases get y.1 with
    | none => simpa using ih
    | some g => simpa using ih

/-- The hooks of observed plugins are the observed hooks of the plugins. -/
theorem filterMap_noted {get : Plugin → Option γ} (wrap : γ × Nat → γ)
    (hget : ∀ p i, get (p.noted say i) = (get p).map fun g => wrap (g, i)) :
    (ps.noted say).filterMap get = (ps.numbered get).map wrap := by
  rw [noted, numbered, List.filterMap_map, List.map_filterMap]
  refine List.filterMap_congr fun y _ => ?_
  rw [Function.comp_apply, hget, Option.map_map]
  rfl

/-- What is noted when something is done with each hook of a kind. -/
theorem traces_forM {get : Plugin → Option γ} (wrap : γ × Nat → γ) {k : γ → Action Unit}
    {T : Nat → Unit → List Observation → Except Failure Unit → Prop}
    (hhas : ∀ p, p.has h = (get p).isSome)
    (hget : ∀ p i, get (p.noted say i) = (get p).map fun g => wrap (g, i))
    (hstep : ∀ y, Traces say (T y.2 ()) (k (wrap y))) :
    Traces say (InTurn T (ps.callers h) ()) (((ps.noted say).filterMap get).forM k) := by
  rw [filterMap_noted wrap hget, ← map_snd_numbered hhas]
  have hmap : ((ps.numbered get).map wrap).forM k = (ps.numbered get).forM fun y => k (wrap y) := by
    induction ps.numbered get with
    | nil => rfl
    | cons y rest ih => exact bind_congr fun _ => ih
  rw [hmap]
  exact inTurn_forM hstep _

/-- What is noted when a value is passed through the hooks of a kind. -/
theorem traces_foldlM {argument : α → h.Argument} {keep : α → h.Result → Except Failure α}
    {get : Plugin → Option (α → Action h.Result)} (hhas : ∀ p, p.has h = (get p).isSome)
    (hget : ∀ p i, get (p.noted say i) =
      (get p).map fun hook a => h.noted say i (argument a) (hook a)) (a : α) :
    Traces say (InTurn (Answers argument keep) (ps.callers h) a)
      (((ps.noted say).filterMap get).foldlM
        (fun a hook => hook a >>= fun returned => liftM (keep a returned)) a) := by
  let wrap (y : (α → Action h.Result) × Nat) (a : α) : Action h.Result :=
    h.noted say y.2 (argument a) (y.1 a)
  rw [filterMap_noted wrap hget, ← map_snd_numbered hhas, List.foldlM_map]
  have hstep (a : α) (y : (α → Action h.Result) × Nat) : Traces say (Answers argument keep y.2 a)
      (wrap y a >>= fun returned => liftM (keep a returned)) := traces_hook y.2 a (y.1 a)
  exact inTurn_foldlM hstep _ a

theorem traces_start :
    Traces say (InTurn (Answers (h := .start) id fun _ => .ok) (ps.callers .start) ())
      (ps.noted say).start :=
  traces_forM (fun y => Hook.noted say y.2 .start () y.1) (fun _ => rfl) (fun _ _ => rfl)
    fun y => (traces_noted y.2 .start () y.1).mono fun _ r h => ⟨r, h, by cases r <;> rfl⟩

theorem traces_complete :
    Traces say (InTurn (Answers (h := .complete) id fun _ => .ok) (ps.callers .complete) ())
      (ps.noted say).complete :=
  traces_forM (fun y => Hook.noted say y.2 .complete () y.1) (fun _ => rfl)
    (fun _ _ => rfl)
    fun y => (traces_noted y.2 .complete () y.1).mono fun _ r h => ⟨r, h, by cases r <;> rfl⟩

theorem traces_handleConfig (s : Settings) :
    Traces say (InTurn (Answers (h := .handleConfig) id Handed.keep) (ps.callers .handleConfig)
      (.proper s)) ((ps.noted say).handleConfig s) :=
  traces_foldlM (fun _ => rfl) (fun _ _ => rfl) _

theorem traces_handleDocs (records : List DocRecord) :
    Traces say (InTurn (Answers (h := .handleDocs) id Handed.keepListed) (ps.callers .handleDocs)
      (records.map .proper)) ((ps.noted say).handleDocs records) :=
  traces_foldlM (fun _ => rfl) (fun _ _ => rfl) _

theorem traces_handleContent (content : Value) (path : Path) :
    Traces say (InTurn (Answers (h := .handleContent) (·, path) Handed.keep)
      (ps.callers .handleContent) content) ((ps.noted say).handleContent content path) := by
  rw [handleContent, List.map_filterMap]
  refine traces_foldlM (fun p => ?_) (fun p i => ?_) content
  · exact Option.isSome_map.symm
  · rw [Plugin.noted, Option.map_map, Option.map_map]
    rfl

end Plugins

/-- Whether plugins are observed does not matter to the files. -/
theorem isQuiet_of_mem_noted {say : Observation → Text} {ps : Plugins} (h : ∀ p ∈ ps, p.IsQuiet)
    {p : Plugin} (hp : p ∈ ps.noted say) : p.IsQuiet := by
  obtain ⟨⟨q, i⟩, hmem, rfl⟩ := List.mem_map.1 hp
  have hq := h q (List.fst_mem_of_mem_zipIdx hmem)
  constructor
  · intro hook hhook
    obtain ⟨inner, hinner, rfl⟩ := Option.map_eq_some_iff.1 hhook
    exact (hq.start inner hinner).noted i ()
  · intro hook hhook s
    obtain ⟨inner, hinner, rfl⟩ := Option.map_eq_some_iff.1 hhook
    exact (hq.handleConfig inner hinner s).noted (h := .handleConfig) i s
  · intro hook hhook records
    obtain ⟨inner, hinner, rfl⟩ := Option.map_eq_some_iff.1 hhook
    exact (hq.handleDocs inner hinner records).noted (h := .handleDocs) i records

/-! ## Publishing -/

/-- What is noted while a plugin publishes: what it asks for, what is noted by what serves it, and
the answer. -/
inductive Asks (T : Request → List Observation → Except Failure Text → Prop) (i : Nat) :
    List Observation → Prop where
  | nothing : Asks T i []
  | ask {r : Request} {obs rest : List Observation} {answer : Except Failure Text} :
      T r obs answer → Asks T i rest → Asks T i (.asked i r :: obs ++ .answered i answer :: rest)

/-- Content that is to be written passes through the content hooks first, and their failure is the
answer. Nothing else that a plugin can ask for calls hooks. -/
def Serves (content : List Nat) (destination : Path) :
    Request → List Observation → Except Failure Text → Prop
  | .write file a _, obs, answer => ∃ r, (∀ f, r = .error f → answer = .error f) ∧
      InTurn (Answers (h := .handleContent) (·, destination.child file) Handed.keep) content a obs r
  | .copy _ _, obs, _ => obs = []
  | .read _, obs, _ => obs = []

/-- A plugin is called to publish, asks for things, and returns. -/
def Publishes (content : List Nat) (destination : Path) (i : Nat) (_ : Unit)
    (obs : List Observation) (r : Except Failure Unit) : Prop :=
  ∃ inner, obs = .called i .publish () :: inner ++ [.returned i .publish r] ∧
    Asks (Serves content destination) i inner

variable {say : Observation → Text} {ps : Plugins}

theorem Publishing.traces_answer (destination : Path) (r : Request) :
    Traces say (Serves (ps.callers .handleContent) destination r)
      (Publishing.answer (ps.noted say) destination r) := by
  cases r with
  | write file content encoding =>
    have hrest (content : Value) : Silent (do
        Action.report (.publishing (destination.child file))
        Files.makeDirectories (destination.child file).parent
        writeContent (destination.child file) content encoding
        return ([] : Text)) :=
      (Looks.report _).silent.bind fun _ => (Works.makeDirectories _).silent.bind fun _ =>
        (Works.writeContent _ _ _).silent.bind fun _ => Within.pure _
    have hanswer : answer (ps.noted say) destination (.write file content encoding) =
        (ps.noted say).handleContent content (destination.child file) >>= fun content => (do
          Action.report (.publishing (destination.child file))
          Files.makeDirectories (destination.child file).parent
          writeContent (destination.child file) content encoding
          return ([] : Text)) := by
      simp only [answer, write, bind_assoc]
    rw [hanswer]
    refine (Plugins.traces_handleContent content _).bind
      (fun content => .silent (hrest content)) ?_ ?_
    · exact fun obs e h => ⟨.error e, fun _ heq => by cases heq; rfl, h⟩
    · rintro obs content _ r h rfl
      rw [List.append_nil]
      exact ⟨.ok content, nofun, h⟩
  | copy source file =>
    refine (Traces.silent ?_).mono fun _ _ h => h
    refine Within.bind ?_ fun _ => Within.pure _
    refine (Looks.report _).silent.bind fun _ => (Looks.isDirectory _).silent.bind fun found => ?_
    split
    · exact Within.bind (fun w => rfl) fun w => (Works.copyTree _ _ _).silent
    · exact (Works.makeDirectories _).silent.bind fun _ => (Works.copyFile _ _).silent
  | read file => exact (Traces.silent (Looks.readText _).silent).mono fun _ _ h => h

theorem Publication.runIn_act {α : Type} (change : World → World) (next : World → Publication α)
    (answer : Request → Action Text) (w : World) :
    ((Publication.act change next).run answer).runIn w =
      ((next w).run answer).runIn (change w) := rfl

theorem Publication.runIn_ask {α : Type} (r : Request) (next : Except Failure Text → Publication α)
    (answer : Request → Action Text) (w : World) :
    ((Publication.ask r next).run answer).runIn w =
      ((next ((answer r).runIn w).1).run answer).runIn ((answer r).runIn w).2 :=
  runIn_attempt_bind _ _ w

theorem Publication.traces_noted {T : Request → List Observation → Except Failure Text → Prop}
    {answer : Request → Action Text} (hanswer : ∀ r, Traces say (T r) (answer r)) (i : Nat)
    (p : Publication Unit) :
    Traces say (fun obs r => ∃ inner, obs = inner ++ [.returned i .publish r] ∧ Asks T i inner)
      ((p.noted say i).run answer) := by
  induction p with
  | done a => exact fun w => ⟨[.returned i .publish (.ok a)], rfl, [], rfl, .nothing⟩
  | fail f => exact fun w => ⟨[.returned i .publish (.error f)], rfl, [], rfl, .nothing⟩
  | act change next ih =>
    intro w
    rw [noted, runIn_act]
    exact ih w { change w with notes := w.notes }
  | ask r next ih =>
    intro w
    rw [noted, runIn_act, runIn_ask, runIn_act]
    obtain ⟨obs, hsays, hT⟩ := hanswer r (Observation.note say (.asked i r) w)
    rcases hrun : (answer r).runIn (Observation.note say (.asked i r) w) with ⟨answered, v⟩
    rw [hrun] at hsays hT
    obtain ⟨rest, hsays', inner, rfl, hasks⟩ :=
      ih answered (Observation.note say (.answered i answered) v)
    refine ⟨_, ((says_note _ w).trans hsays).trans ((says_note _ v).trans hsays'),
      .asked i r :: obs ++ .answered i answered :: inner, ?_, .ask hT hasks⟩
    simp

theorem Plugins.traces_publish (destination : Path) :
    Traces say (InTurn (Publishes (ps.callers .handleContent) destination) (ps.callers .publish) ())
      ((ps.noted say).publish (Publishing.answer (ps.noted say) destination)) := by
  let wrap (y : Publication Unit × Nat) : Publication Unit :=
    .act (Observation.note say (.called y.2 .publish ())) fun _ => y.1.noted say y.2
  refine Plugins.traces_forM wrap (fun _ => rfl) (fun _ _ => rfl) fun y w => ?_
  rw [Publication.runIn_act]
  have hanswer (r : Request) : Traces say (Serves (ps.callers .handleContent) destination r)
      (Publishing.answer (ps.noted say) destination r) := Publishing.traces_answer destination r
  obtain ⟨obs, hsays, inner, rfl, hasks⟩ :=
    Publication.traces_noted hanswer y.2 y.1 (Observation.note say (.called y.2 .publish ()) w)
  exact ⟨_, (says_note _ w).trans hsays, inner, rfl, hasks⟩

end SourceDocs
