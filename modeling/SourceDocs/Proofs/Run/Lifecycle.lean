import SourceDocs.Proofs.Plugin.Observed
import SourceDocs.Proofs.Run.Archiving
import SourceDocs.Proofs.Run.Gathering

/-!
# The hooks of a run and what it leaves behind when it fails

A run goes through its hooks in stages: all plugins are told that it starts, then all of them see
the settings, then the records, then they publish, and at last they are told that it is complete.
`Stages` says what can be observed of that, wherever the run fails.
-/

namespace SourceDocs

open World Acting SourceDocs.Action

namespace Run

/-! ## Stages -/

/-- What may be observed in a part of a run, and whether it succeeds. -/
abbrev Stage := List Observation → Bool → Prop

/-- Stages follow one another until one of them fails or the run fails between two of them, and all
succeed otherwise. -/
inductive Stages : List Stage → List Observation → Bool → Prop where
  | done : Stages [] [] true
  | stopped {g : Stage} {gs : List Stage} : Stages (g :: gs) [] false
  | failed {g : Stage} {gs : List Stage} {obs : List Observation} :
      g obs false → Stages (g :: gs) obs false
  | passed {g : Stage} {gs : List Stage} {obs obs' : List Observation} {ok : Bool} :
      g obs true → Stages gs obs' ok → Stages (g :: gs) (obs ++ obs') ok

/-- The plugins of these numbers deal in turn with a value that is first made from something. -/
def stage {α β : Type} (T : Nat → α → List Observation → Except Failure α → Prop) (is : List Nat)
    (first : β → α) : Stage := fun obs ok => ∃ b r, InTurn T is (first b) obs r ∧ r.isOk = ok

/-- The stages of a run. -/
def lifecycle (ps : Plugins) : List Stage :=
  [stage (Answers (h := .start) id fun _ => .ok) (ps.callers .start) id,
   stage (Answers (h := .handleConfig) id Handed.keep) (ps.callers .handleConfig) .proper,
   stage (Answers (h := .handleDocs) id Handed.keepListed) (ps.callers .handleDocs)
     (List.map .proper),
   fun obs ok => ∃ destination,
     stage (Publishes (ps.callers .handleContent) destination) (ps.callers .publish) id obs ok,
   stage (Answers (h := .complete) id fun _ => .ok) (ps.callers .complete) id]

section

variable {α β γ : Type} {say : Observation → Text} {g : Stage} {gs : List Stage}

/-- What an action notes is what can be observed in these stages. -/
abbrev Staged (say : Observation → Text) (gs : List Stage) (x : Action α) : Prop :=
  Traces say (fun obs r => Stages gs obs r.isOk) x

theorem Staged.between {x : Action α} {f : α → Action β} (hx : Silent x)
    (hf : ∀ a, Staged say (g :: gs) (f a)) : Staged say (g :: gs) (x >>= f) :=
  Traces.after_silent hx hf fun _ => .stopped

theorem Staged.stage {x : Action α} {f : α → Action β}
    (hx : Traces say (fun obs r => g obs r.isOk) x) (hf : ∀ a, Staged say gs (f a)) :
    Staged say (g :: gs) (x >>= f) :=
  hx.bind hf (fun _ _ h => .failed h) fun _ _ _ _ h h' => .passed h h'

end

/-! ## The parts of a run -/

/-- A run up to its plugins. -/
def equip (c : Collaborators) (s : Settings) : Action Plugins := do
  s.validate
  Plugins.load c.pluginSource s.plugins c.plugins

/-- A run with its plugins until it knows how to collect files. -/
def ready (c : Collaborators) (s : Settings) (ps : Plugins) : Action Context := do
  contextOf c (← prepare ps s)

/-- A run from there on until its plugins have handed on the records. -/
def handOn (ps : Plugins) (x : Context) : Action (Stats × List (Handed DocRecord)) := do
  let collected ← gather x
  return (collected.stats, ← ps.handleDocs (resolveDuplicates collected.records))

theorem generate_eq (c : Collaborators) (s : Settings) : generate c s = (do
    let ps ← equip c s
    let x ← ready c s ps
    let (stats, handed) ← handOn ps x
    conclude ps x stats handed) := by
  simp only [generate, setUp, equip, ready, handOn, bind_assoc, pure_bind]

/-! ## What is silent -/

theorem looks_orBeside (s : Settings) (p : Option Path) (name : String) :
    Looks (s.orBeside p name) := by
  cases p with
  | none => exact Looks.resolve _
  | some p => exact Looks.pure p

theorem looks_withDefaults (s : Settings) : Looks s.withDefaults := by
  refine (looks_orBeside s _ _).bind fun index => ?_
  cases s.source with
  | none => exact (Looks.pure _).bind fun package => Looks.pure _
  | some p =>
    refine (looks_orBeside s _ _).bind fun package => ?_
    exact (Looks.pure _).bind fun package => Looks.pure _

theorem looks_packageAt (p : Option Path) : Looks (packageAt p) := by
  cases p with
  | none => exact Looks.pure _
  | some p =>
    refine Looks.stack fun room => (Looks.readContent room p).bind fun content => ?_
    cases content with
    | none => exact Looks.pure _
    | some content => exact (looks_mainFile _ _).bind fun main => Looks.pure _

theorem looks_contextOf (c : Collaborators) (s : Settings) : Looks (contextOf c s) := by
  refine (Looks.ofExcept _).bind fun matcher => (looks_packageAt _).bind fun package => ?_
  refine Looks.bind ?_ fun root => Looks.pure _
  unfold Settings.sourceRoot
  split
  · exact Looks.resolve _
  · exact Looks.throw _

theorem silent_gather (x : Context) : Silent (gather x) := fun _ =>
  within_gather (fun _ _ h => h.notes_eq) fun _ _ _ _ _ _ _ => (Works.carryOut _ _).silent

variable {say : Observation → Text} (base : Plugins)

theorem traces_publish (destination : Path) :
    Traces say (fun obs r => stage (Publishes (base.callers .handleContent) destination)
      (base.callers .publish) id obs r.isOk) (publish (base.noted say) destination) := by
  refine (Plugins.traces_publish destination).attempt.bind
    (U := fun ending obs r => obs = [] ∧ r.isOk = ending.isOk) (fun ending => ?_) ?_ ?_
  · cases ending with
    | ok _ => exact (Traces.ofExcept (.ok ())).mono fun _ _ h => ⟨h.1, h.2 ▸ rfl⟩
    | error f =>
      refine .after_silent (Looks.report _).silent (fun _ => ?_) fun _ => ⟨rfl, rfl⟩
      exact (Traces.ofExcept (.error (.publish f))).mono fun _ _ h => ⟨h.1, h.2 ▸ rfl⟩
  · rintro obs e ⟨_, hfalse, -⟩
    cases hfalse
  · rintro obs ending _ r ⟨_, hending, h⟩ ⟨rfl, hr⟩
    cases hending
    rw [List.append_nil]
    exact ⟨(), ending, h, hr.symm⟩

theorem staged_run (c : Collaborators) (s : Settings) :
    Staged say (lifecycle base) (do
      let x ← ready c s (base.noted say)
      let (stats, handed) ← handOn (base.noted say) x
      conclude (base.noted say) x stats handed) := by
  simp only [ready, prepare, handOn, conclude, bind_assoc, pure_bind]
  refine .stage ?_ fun _ => .between (looks_withDefaults s).silent fun s => ?_
  · exact Plugins.traces_start.mono fun obs r h => ⟨(), r, h, rfl⟩
  refine .stage ?_ fun handed => .between (Looks.ofExcept _).silent fun s => ?_
  · exact (Plugins.traces_handleConfig s).mono fun obs r h => ⟨s, r, h, rfl⟩
  refine .between (Looks.ofExcept _).silent fun _ => ?_
  refine .between (looks_contextOf c s).silent fun x => ?_
  refine .between (silent_gather x) fun collected => .stage ?_ fun handed => ?_
  · exact (Plugins.traces_handleDocs _).mono fun obs r h => ⟨_, r, h, rfl⟩
  refine .between (Works.writeHanded handed x.destination).silent fun written => ?_
  refine .stage ?_ fun _ => .stage ?_ fun _ => ?_
  · exact (traces_publish base x.destination).mono fun obs r h => ⟨x.destination, h⟩
  · exact Plugins.traces_complete.mono fun obs r h => ⟨(), r, h, rfl⟩
  · exact fun w => ⟨[], rfl, .done⟩

/-! ## Loading -/

theorem forall₂_of_runIn_mapM {α β : Type} {f : α → Action β} {as : List α} {bs : List β}
    {w v : World} (h : (as.mapM f).runIn w = (.ok bs, v)) :
    List.Forall₂ (fun a b => ∃ u u', (f a).runIn u = (.ok b, u')) as bs := by
  induction as generalizing bs w with
  | nil =>
    rw [List.mapM_nil, runIn_pure] at h
    cases h
    exact .nil
  | cons a rest ih =>
    rw [List.mapM_cons] at h
    obtain ⟨b, v₁, hfirst, h⟩ := exists_of_runIn_bind h
    obtain ⟨more, v₂, hrest, h⟩ := exists_of_runIn_bind h
    rw [runIn_pure] at h
    cases h
    exact .cons ⟨_, _, hfirst⟩ (ih hrest)

/-- A plugin was loaded for each one that was asked for, in this order. -/
def Loaded (source : PluginSource) (specs : List PluginSpec) (loaded : List Plugin) : Prop :=
  List.Forall₂ (fun spec p => ∃ w v, (Plugin.load source spec).runIn w = (.ok p, v)) specs loaded

theorem exists_of_load {source : PluginSource} {specs : List PluginSpec} {built ps : List Plugin}
    {w v : World} (h : (Plugins.load source specs built).runIn w = (.ok ps, v)) :
    ∃ loaded, ps = loaded ++ built ∧ Loaded source specs loaded := by
  obtain ⟨loaded, v₁, hmap, h⟩ := exists_of_runIn_bind h
  obtain ⟨_, v₂, -, h⟩ := exists_of_runIn_bind h
  rw [runIn_pure] at h
  cases h
  refine ⟨loaded, rfl, (forall₂_of_runIn_mapM hmap).imp fun spec p hone => ?_⟩
  obtain ⟨u, u', hone⟩ := hone
  obtain ⟨q, u'', hload, hone⟩ := exists_of_runIn_bind hone
  obtain ⟨_, _, -, hone⟩ := exists_of_runIn_bind hone
  rw [runIn_bind_ok (runIn_report _ _), runIn_pure] at hone
  cases hone
  exact ⟨u, u'', hload⟩

/-! ## What a run leaves behind -/

variable {ps : Plugins} (hquiet : ∀ p ∈ ps, p.IsQuiet)
include hquiet

theorem leavesFiles_ready (c : Collaborators) (s : Settings) : LeavesFiles (ready c s ps) := by
  refine Within.bind ?_ fun s => (looks_contextOf c s).leavesFiles
  refine (Plugins.within_start fun p hp => (hquiet p hp).start).bind fun _ => ?_
  refine (looks_withDefaults s).leavesFiles.bind fun s => ?_
  have hhanded := Plugins.within_handleConfig (fun p hp => (hquiet p hp).handleConfig) s
  refine hhanded.bind fun handed => ?_
  refine (Looks.ofExcept _).leavesFiles.bind fun s => ?_
  exact (Looks.ofExcept _).leavesFiles.bind fun _ => Within.pure s

theorem archived_handOn {x : Context} {w : World} (hbelow : AllStayBelow x w) :
    Archive.Archived x.destination w ((handOn ps x).runIn w).2 := by
  have hgather := archived_gather hbelow
  rw [handOn, runIn_bind]
  rcases hrun : (gather x).runIn w with ⟨_ | collected, v⟩ <;> rw [hrun] at hgather
  · exact hgather
  · have hdocs : LeavesFiles (do
        return (collected.stats, ← ps.handleDocs (resolveDuplicates collected.records))) :=
      (Plugins.within_handleDocs (fun p hp => (hquiet p hp).handleDocs) _).bind fun _ =>
        Within.pure _
    exact hgather.tail (.other (hdocs v))

omit hquiet

/-- A run ends like the look at its settings and the loading of its plugins if one of these fails,
and has called no hook then.  Otherwise its plugins are those that were loaded and those that were
built before, in this order, and its hooks are called in stages: the run succeeds if all stages do
and nothing fails between them, and whatever is observed of a run that fails is the beginning of
such stages.  If no hook before publishing works on files, a run that fails before it collects files
leaves all files as they are.  One that fails before the last of these hooks has returned leaves the
index alone, unless a relative path leads out of the archive, which none does in a walk over
sources, or the destination is reached over what the archive creates. -/
theorem generate_in_stages (say : Observation → Text) (c : Collaborators) (s : Settings)
    (w : World) :
    match (equip c s).runIn w with
    | (.error f, v) =>
      (generate c s).runIn w = (.error f, v) ∧ (s.validate = .error f ∧ v = w ∨ s.validate = .ok ())
    | (.ok ps, w₁) =>
      (∃ loaded, ps = loaded ++ c.plugins ∧ Loaded c.pluginSource s.plugins loaded) ∧
      (∀ base : Plugins, ps = base.noted say → ∃ obs,
        w₁.Says say ((generate c s).runIn w).2 obs ∧
          Stages (lifecycle base) obs ((generate c s).runIn w).1.isOk) ∧
      ((∀ p ∈ ps, p.IsQuiet) →
        match (ready c s ps).runIn w₁ with
        | (.error f, v) => (generate c s).runIn w = (.error f, v) ∧ w₁.SameFiles v
        | (.ok x, w₂) =>
          w₁.SameFiles w₂ ∧
          (∀ start, start? x.settings = some (.source, start) → w₂.Tidy → x.Tidy →
            AllStayBelow x w₂) ∧
          (AllStayBelow x w₂ → Archive.IsSafe x.destination w₂ →
            ∀ f v, (handOn ps x).runIn w₂ = (.error f, v) →
              (generate c s).runIn w = (.error f, v) ∧
              (v.entry (x.destination.child Output.fileName)).toOption =
                (w₁.entry (x.destination.child Output.fileName)).toOption)) := by
  rcases hequip : (equip c s).runIn w with ⟨f | ps, w₁⟩
  · refine ⟨by rw [generate_eq, runIn_bind_error hequip], ?_⟩
    rw [equip, runIn_bind, runIn_lift] at hequip
    cases hvalid : s.validate <;> rw [hvalid] at hequip
    · cases hequip
      exact .inl ⟨rfl, rfl⟩
    · exact .inr rfl
  have hgenerate : (generate c s).runIn w = (do
      let x ← ready c s ps
      let (stats, handed) ← handOn ps x
      conclude ps x stats handed : Action Outcome).runIn w₁ := by
    rw [generate_eq, runIn_bind_ok hequip]
  rw [hgenerate]
  refine ⟨?_, ?_, fun hquiet => ?_⟩
  · have hload : (Plugins.load c.pluginSource s.plugins c.plugins).runIn w = (.ok ps, w₁) := by
      rw [equip, runIn_bind, runIn_lift] at hequip
      cases hvalid : s.validate <;> rw [hvalid] at hequip
      · cases hequip
      · exact hequip
    exact exists_of_load hload
  · rintro base rfl
    exact staged_run base c s w₁
  · have hready := leavesFiles_ready hquiet c s w₁
    rw [outcome_action] at hready
    rcases hrun : (ready c s ps).runIn w₁ with ⟨f | x, w₂⟩ <;> rw [hrun] at hready
    · exact ⟨runIn_bind_error hrun, hready⟩
    · refine ⟨hready, fun start hstart hw hx path t d v => staysBelow_of_mem hw hx hstart, ?_⟩
      intro hbelow hsafe f v hfails
      have harchived := archived_handOn hquiet hbelow
      rw [hfails] at harchived
      refine ⟨by rw [runIn_bind_ok hrun, runIn_bind_error hfails], ?_⟩
      have hplain : Files.IsPlain Output.fileName := by constructor <;> decide +kernel
      have hne : Output.fileName ≠ Archive.directoryName := by decide +kernel
      rw [child_indexName, harchived.entry_beside hsafe hplain hne, hready.entry_eq]

namespace Sample

/-- What is said of calls and of how they end. -/
def wording : Observation → Text
  | .called _ h _ => h.name
  | .returned _ _ (.ok _) => "returned"
  | .returned _ _ (.error _) => "failed"
  | .asked _ _ => "asked"
  | .answered _ _ => "answered"

/-- A plugin that fails when it sees the records, behind one that is told that the run starts. -/
def refusing : Plugins :=
  [{ onStart := some (return ()) },
   { onHandleDocs := some fun _ => Action.raise (.own "ValueError" "no") }]

theorem isQuiet_refusing {p : Plugin} (hp : p ∈ refusing) : p.IsQuiet := by
  rcases List.mem_cons.1 hp with rfl | hp
  · exact ⟨fun _ h => by cases h; exact Within.pure (), nofun, nofun⟩
  · rw [List.mem_singleton.1 hp]
    exact ⟨nofun, nofun, fun _ h _ => by cases h; exact Within.throw _⟩

/-- The package with an index from an earlier run. -/
def indexed : World :=
  { world with tree := world.tree.set ["out"] (.directory [("index.json", .file (bytes "[]"))]) }

/-- A source beside an empty directory. -/
def beside : World where
  tree := .directory [("s", .directory [("a.py", .file [])]), ("d", .directory [])]
  current := []
  home := ⟨1, []⟩

/-- A run whose destination is the empty directory, by way of the index that is to be there. -/
def roundabout : Settings where
  destination := some ⟨1, ["d", "index.json", ".."]⟩
  source := some ⟨1, ["s"]⟩
  baseDirectory := ⟨1, []⟩

/-- A plugin that goes on when what it writes is refused by another one. -/
def catching : Plugins :=
  [{ onHandleContent := some fun _ _ => Action.raise (.own "ValueError" "no") },
   { onPublish := some (.ask (.write "page" (.text "page") "utf-8") fun _ => .done ()) }]

end Sample

/-- A run that fails at the records leaves the index of an earlier run alone. -/
theorem generate_in_stages_refusing :
    ∃ x w₂ f v obs, (ready { plugins := Sample.refusing.noted Sample.wording } Sample.settings
        (Sample.refusing.noted Sample.wording)).runIn Sample.indexed = (.ok x, w₂) ∧
      (handOn (Sample.refusing.noted Sample.wording) x).runIn w₂ = (.error f, v) ∧
      (generate { plugins := Sample.refusing.noted Sample.wording } Sample.settings).runIn
        Sample.indexed = (.error f, v) ∧
      Sample.indexed.Says Sample.wording v obs ∧ Stages (lifecycle Sample.refusing) obs false ∧
      v.notes = ["failed", "on_handle_docs", "returned", "on_start"] ∧
      (v.entry (x.destination.child Output.fileName)).toOption.bind Entry.content? =
        some (Sample.bytes "[]") := by
  have hrun : Sample.passes (fun x w₂ =>
        w₂.tree.isLinkFree && decide (Path.NoDots x.destination.names) &&
        decide (AllStayBelow x w₂) &&
        Sample.fails (fun v => decide
            (v.notes = ["failed", "on_handle_docs", "returned", "on_start"]))
          ((handOn (Sample.refusing.noted Sample.wording) x).runIn w₂) &&
        decide ((Sample.indexed.entry (x.destination.child Output.fileName)).toOption.bind
          Entry.content? = some (Sample.bytes "[]")))
      ((ready { plugins := Sample.refusing.noted Sample.wording } Sample.settings
        (Sample.refusing.noted Sample.wording)).runIn Sample.indexed) = true := by decide +kernel
  obtain ⟨x, w₂, hready, hrun⟩ := Sample.exists_of_passes hrun
  simp only [Bool.and_eq_true, decide_eq_true_eq] at hrun
  obtain ⟨⟨⟨⟨hfree, hdots⟩, hbelow⟩, hfails⟩, hindex⟩ := hrun
  obtain ⟨f, v, hhand, hnotes⟩ := Sample.exists_of_fails hfails
  have hstages := generate_in_stages Sample.wording
    { plugins := Sample.refusing.noted Sample.wording } Sample.settings Sample.indexed
  have hequip : (equip { plugins := Sample.refusing.noted Sample.wording } Sample.settings).runIn
      Sample.indexed = (.ok (Sample.refusing.noted Sample.wording), Sample.indexed) := rfl
  rw [hequip] at hstages
  obtain ⟨-, hcalls, hfiles⟩ := hstages
  rw [hready] at hfiles
  simp only at hfiles
  obtain ⟨obs, hsays, hobs⟩ := hcalls Sample.refusing rfl
  obtain ⟨-, -, hkept⟩ :=
    hfiles fun p hp => isQuiet_of_mem_noted (fun _ => Sample.isQuiet_refusing) hp
  obtain ⟨hgenerate, hentry⟩ := hkept hbelow
    ⟨.inl hdots, fun place _ => Files.noLinks_of_isLinkFree hfree place⟩ f v hhand
  rw [hgenerate] at hsays hobs
  refine ⟨x, w₂, f, v, obs, hready, hhand, hgenerate, hsays, hobs, of_decide_eq_true hnotes, ?_⟩
  rw [hentry, hindex]

/-- Another plugin may catch the failure of a hook, and the run goes on.  And a run that fails at
the records may put a directory where the index is to be, if its destination is reached over that
directory. -/
theorem generate_not_in_stages :
    (∃ o v, (generate { plugins := Sample.catching.noted Sample.wording } Sample.settings).runIn
        Sample.world = (.ok o, v) ∧
      v.notes = ["returned", "answered", "failed", "on_handle_content", "asked", "on_publish"]) ∧
    ∃ x w₂ f v, (ready { plugins := Sample.refusing } Sample.roundabout Sample.refusing).runIn
        Sample.beside = (.ok x, w₂) ∧
      (∀ p ∈ Sample.refusing, p.IsQuiet) ∧ AllStayBelow x w₂ ∧ Sample.beside.tree.isLinkFree ∧
      (handOn Sample.refusing x).runIn w₂ = (.error f, v) ∧
      (generate { plugins := Sample.refusing } Sample.roundabout).runIn Sample.beside =
        (.error f, v) ∧
      (Sample.beside.entry (x.destination.child Output.fileName)).toOption = none ∧
      (v.entry (x.destination.child Output.fileName)).toOption.map Entry.kind =
        some .directory := by
  have hcaught : Sample.passes (fun _ v => decide (v.notes =
        ["returned", "answered", "failed", "on_handle_content", "asked", "on_publish"]))
      ((generate { plugins := Sample.catching.noted Sample.wording } Sample.settings).runIn
        Sample.world) = true := by decide +kernel
  have hrun : Sample.passes (fun x w₂ =>
        decide ((Sample.beside.entry
          (x.destination.child Output.fileName)).toOption.map Entry.kind = none) &&
        decide (AllStayBelow x w₂) &&
        Sample.fails (fun v => decide ((v.entry
            (x.destination.child Output.fileName)).toOption.map Entry.kind = some .directory))
          ((handOn Sample.refusing x).runIn w₂))
      ((ready { plugins := Sample.refusing } Sample.roundabout Sample.refusing).runIn
        Sample.beside) = true := by decide +kernel
  obtain ⟨o, u, hgenerate, hnotes⟩ := Sample.exists_of_passes hcaught
  refine ⟨⟨o, u, hgenerate, of_decide_eq_true hnotes⟩, ?_⟩
  obtain ⟨x, w₂, hready, hrun⟩ := Sample.exists_of_passes hrun
  simp only [Bool.and_eq_true, decide_eq_true_eq] at hrun
  obtain ⟨⟨hnone, hbelow⟩, hfails⟩ := hrun
  obtain ⟨f, v, hhand, hindex⟩ := Sample.exists_of_fails hfails
  refine ⟨x, w₂, f, v, hready, fun _ => Sample.isQuiet_refusing, hbelow, by decide +kernel, hhand,
    ?_, Option.map_eq_none_iff.1 hnone, of_decide_eq_true hindex⟩
  have hequip : (equip { plugins := Sample.refusing } Sample.roundabout).runIn Sample.beside =
      (.ok Sample.refusing, Sample.beside) := rfl
  rw [generate_eq, runIn_bind_ok hequip, runIn_bind_ok hready, runIn_bind_error hhand]

end Run

end SourceDocs
