import SourceDocs.Proofs.Run.Handling

/-!
# Runs and the log

A run writes its log and never reads it.  Here this is shown of what is done with a file while a run
collects, and of what is done behind the collecting, as long as the hooks of plugins do not see the
log either.  `SeenAlike Q` relates worlds that differ in the log only, with states of their own
that are related by `Q`.
-/

namespace SourceDocs

open World Acting SourceDocs.Action

variable {α β : Type}

namespace Action.Blind

theorem attempt {x : Action α} (hx : Blind x) : Blind (Action.attempt x) := by
  intro w v h _
  have hrun := hx w v h trivial
  rw [outcome_action, outcome_action] at hrun
  rw [outcome_action, outcome_action, runIn_attempt, runIn_attempt]
  exact .of_result (congrArg Except.ok hrun.result_eq) hrun.related hrun.related

theorem throw (f : Failure) : Blind (MonadExcept.throw f : Action α) := (Looks.throw f).blind

theorem report (e : LogEvent) : Blind (Action.report e) := (Looks.report e).blind

/-- An action that asks for the world and uses nothing but the files. -/
theorem world {f : World → Action α} (hsame : ∀ w v, w.SameFiles v → f v = f w)
    (hf : ∀ w, Blind (f w)) : Blind (Action.world >>= f) := by
  intro w v h _
  rw [outcome_action, outcome_action, runIn_bind_ok (runIn_world w), runIn_bind_ok (runIn_world v),
    hsame w v h.sameFiles]
  exact hf w w v h trivial

theorem takeId : Blind Action.takeId := by
  intro w v h _
  rw [outcome_action, outcome_action, runIn_takeId, runIn_takeId, h.nextId_eq]
  refine .ok ?_
  rw [h]
  rfl

end Action.Blind

/-! ## Actions with a state of their own -/

variable {σ τ : Type}

/-- Worlds that differ in the log only, with related states. -/
def SeenAlike (Q : σ → τ → Prop) (s : World × σ) (t : World × τ) : Prop :=
  s.1.SameButLog t.1 ∧ Q s.2 t.2

/-- The same is done from worlds that differ in the log only and from related states. -/
abbrev Alike (Q : σ → τ → Prop) (x : ActionWith σ α) (y : ActionWith τ α) : Prop :=
  Acting.Related (SeenAlike Q) (SeenAlike Q) x y

namespace Alike

variable {Q : σ → τ → Prop}

theorem lift {x : Action α} (hx : Blind x) :
    Alike Q (liftM x : ActionWith σ α) (liftM x : ActionWith τ α) := by
  intro s t h _
  have hrun := hx s.1 t.1 h.1 trivial
  rw [outcome_action, outcome_action] at hrun
  rw [outcome_actionWith, outcome_actionWith, ActionWith.runWith_lift, ActionWith.runWith_lift]
  exact .of_result hrun.result_eq ⟨hrun.related, h.2⟩ ⟨hrun.related, h.2⟩

theorem update {f : σ → σ} {g : τ → τ} (hfg : ∀ a b, Q a b → Q (f a) (g b)) :
    Alike Q (ActionWith.update f) (ActionWith.update g) :=
  fun _ _ h _ => .ok ⟨h.1, hfg _ _ h.2⟩

theorem state_bind {f g : σ → ActionWith σ α} (hfg : ∀ a, Alike Eq (f a) (g a)) :
    Alike Eq (ActionWith.state >>= f) (ActionWith.state >>= g) := by
  rintro ⟨w, a⟩ ⟨v, _⟩ ⟨h, rfl⟩ _
  exact hfg a (w, a) (v, a) ⟨h, rfl⟩ trivial

theorem throw (f : Failure) :
    Alike Q (MonadExcept.throw f : ActionWith σ α) (MonadExcept.throw f) :=
  Follows.throw (fun _ _ h => h) f

theorem keeping {x : ActionWith σ α} (hx : Alike Eq x x) (a : σ) :
    Blind (ActionWith.keeping a x) := by
  intro w v h _
  have hrun := hx (w, a) (v, a) ⟨h, rfl⟩ trivial
  rw [outcome_actionWith, outcome_actionWith] at hrun
  rw [outcome_action, outcome_action, ActionWith.runIn_keeping, ActionWith.runIn_keeping,
    hrun.result_eq, hrun.related.2]
  exact .ok hrun.related.1

end Alike

/-! ## Collecting -/

namespace Extraction

variable (x : Extractor) (o : Origin)

theorem alike_push (v : Tree.Visit) : Alike Eq (push x o v) (push x o v) := by
  rw [push]
  split
  · refine Related.forM fun d _ => ?_
    exact (Alike.lift Blind.takeId).bind fun id => Alike.update fun _ _ h => h ▸ rfl
  · exact (Alike.lift (Looks.aboutNode _ _).blind).bind fun _ => Alike.throw _

theorem blind_recordsOf (tree : Value) : Blind (recordsOf x o tree) := by
  rw [recordsOf_eq]
  refine (Alike.keeping (Related.forM fun v _ => alike_push x o v) []).bind ?_
  rintro ⟨f | _, records⟩
  · exact Blind.throw f
  · exact Follows.pure _

theorem blind_extract : Blind (extract x o) := by
  rw [extract_eq]
  refine (Blind.report _).bind fun _ => (Looks.parseFile _).attempt.blind.bind fun r => ?_
  split
  · exact (Looks.aboutSource _ _).blind.bind fun _ => Follows.pure _
  · exact Blind.throw _
  · split
    · exact Blind.throw _
    · exact (blind_recordsOf x o _).bind fun _ => Follows.pure _

end Extraction

namespace Archive

theorem alike_settle : Alike Eq settle settle := by
  refine Alike.state_bind fun a => ?_
  split
  · exact Follows.pure _
  · exact Alike.update fun _ _ h => h ▸ rfl
  · exact (Alike.update fun _ _ h => h ▸ rfl).bind fun _ => Alike.throw _

theorem alike_submit (j : Job) : Alike Eq (submit j) (submit j) := by
  refine Alike.state_bind fun a => ?_
  split_ifs
  · exact Alike.throw _
  · refine alike_settle.bind fun _ => (Alike.lift (Works.carryOut _ _).attempt.blind).bind ?_
    exact fun ending => (Alike.update fun _ _ h => h ▸ rfl).bind fun _ => Follows.pure _

theorem alike_close : Alike Eq close close := by
  refine Alike.state_bind fun a => ?_
  split_ifs
  · exact Follows.pure _
  · refine (Alike.update fun _ _ h => h ▸ rfl).bind fun _ => alike_settle.bind fun _ => ?_
    refine Alike.state_bind fun a => (Alike.lift (Blind.report _)).bind fun _ => Follows.pure _

end Archive

namespace Synthetic

theorem blind_fileRecord (kind : String) (name longname : Text) (payload : List (String × Value)) :
    Blind (fileRecord kind name longname payload) :=
  Blind.takeId.bind fun _ => Follows.pure _

theorem blind_indexRecord (path : Path) (shown : Option Text) : Blind (indexRecord path shown) := by
  refine (Looks.readText path).attempt.blind.bind fun r => ?_
  split
  · exact (Blind.report _).bind fun _ => Follows.pure _
  · exact Blind.throw _
  · refine (Looks.resolve path).blind.bind fun real => ?_
    exact (blind_fileRecord _ _ _ _).bind fun _ => Follows.pure _

theorem blind_singlePackageRecord (path : Path) : Blind (singlePackageRecord path) := by
  have hboth : Looks (textAndPath path) :=
    (Looks.readText path).bind fun _ => (Looks.resolve path).bind fun _ => Looks.pure _
  refine hboth.attempt.blind.bind fun r => ?_
  split
  · exact blind_fileRecord _ _ _ _
  · split_ifs
    · exact (Blind.report _).bind fun _ => blind_fileRecord _ _ _ _
    · exact Blind.throw _
  · exact Blind.throw _

end Synthetic

namespace Run

theorem blind_indexRecords (s : Settings) : Blind (indexRecords s) := by
  unfold indexRecords
  split
  · exact Follows.pure _
  · refine Blind.world (fun w v h => by rw [h.relative_eq]) fun w => ?_
    exact (Synthetic.blind_indexRecord _ _).bind fun _ => Follows.pure _

theorem blind_packageRecords (s : Settings) : Blind (packageRecords s) := by
  unfold packageRecords
  split
  · exact (Synthetic.blind_singlePackageRecord _).bind fun _ => Follows.pure _
  · exact Follows.pure _

theorem blind_syntheticRecords (s : Settings) : Blind (syntheticRecords s) :=
  (blind_indexRecords s).bind fun _ => (blind_packageRecords s).bind fun _ => Follows.pure _

end Run

/-! ## Plugins that do not see the log -/

/-- Whatever a publication does to the world, and how it goes on, does not depend on the log. -/
def Publication.Blind : Publication α → Prop
  | .done _ => True
  | .fail _ => True
  | .act change next =>
    (∀ w v, w.SameButLog v → (change w).SameButLog (change v) ∧ next v = next w) ∧
      ∀ w, (next w).Blind
  | .ask _ next => ∀ answer, (next answer).Blind

/-- The hooks of a plugin that a run calls behind its collecting do not see the log. -/
structure Plugin.Blind (p : Plugin) : Prop where
  handleDocs : ∀ hook ∈ p.onHandleDocs, ∀ records, Action.Blind (hook records)
  handleContent : ∀ hook ∈ p.onHandleContent, ∀ content path, Action.Blind (hook content path)
  publish : ∀ publication ∈ p.onPublish, publication.Blind
  complete : ∀ hook ∈ p.onComplete, Action.Blind hook

theorem Publication.Blind.run {p : Publication α} (hp : p.Blind) {answer : Request → Action Text}
    (hanswer : ∀ r, Action.Blind (answer r)) : Action.Blind (p.run answer) := by
  induction p with
  | done a => exact Follows.pure a
  | fail f => exact Action.Blind.throw f
  | act change next ih =>
    intro w v h _
    obtain ⟨hchange, hnext⟩ := hp.1 w v h
    have hrun (u : World) : ((Publication.act change next).run answer).runIn u =
        ((next u).run answer).runIn (change u) := rfl
    rw [outcome_action, outcome_action, hrun, hrun, hnext]
    exact ih w (hp.2 w) (change w) (change v) hchange trivial
  | ask r next ih => exact (hanswer r).attempt.bind fun answered => ih answered (hp answered)

namespace Plugins

variable {ps : Plugins} (hps : ∀ p ∈ ps, p.Blind)

theorem blind_transform {γ : Type} {keep : α → Option γ → Except Failure α}
    {hooks : List (α → Action (Option γ))} (hhooks : ∀ hook ∈ hooks, ∀ a, Blind (hook a)) (a : α) :
    Blind (transform keep hooks a) := by
  unfold transform
  induction hooks generalizing a with
  | nil => exact Follows.pure a
  | cons hook rest ih =>
    rw [List.foldlM_cons]
    refine Related.bind ((hhooks hook List.mem_cons_self a).bind fun returned => ?_) fun b => ?_
    · exact (Looks.ofExcept _).blind
    · exact ih (fun hook hmem => hhooks hook (List.mem_cons_of_mem _ hmem)) b

include hps

theorem blind_handleDocs (records : List DocRecord) : Blind (ps.handleDocs records) := by
  refine blind_transform (fun hook hmem => ?_) _
  obtain ⟨p, hp, hhook⟩ := List.mem_filterMap.1 hmem
  exact (hps p hp).handleDocs hook hhook

theorem blind_handleContent (content : Value) (path : Path) :
    Blind (ps.handleContent content path) := by
  refine blind_transform (fun hook hmem => ?_) _
  obtain ⟨hook, hhook, rfl⟩ := List.mem_map.1 hmem
  obtain ⟨p, hp, hhook⟩ := List.mem_filterMap.1 hhook
  exact fun content => (hps p hp).handleContent hook hhook content path

theorem blind_publish {answer : Request → Action Text} (hanswer : ∀ r, Blind (answer r)) :
    Blind (ps.publish answer) := by
  refine Related.forM fun q hq => ?_
  obtain ⟨p, hp, hq⟩ := List.mem_filterMap.1 hq
  exact ((hps p hp).publish q hq).run hanswer

theorem blind_complete : Blind ps.complete := by
  refine Related.forM fun hook hmem => ?_
  obtain ⟨p, hp, hhook⟩ := List.mem_filterMap.1 hmem
  exact (hps p hp).complete hook hhook

end Plugins

/-! ## Publishing -/

namespace Action.Works

theorem encodeWith (codec : Codec) (t : Text) (complete : Bool) :
    Works (Files.encodeWith codec t complete) := by
  unfold Files.encodeWith
  split
  · exact pure _
  · exact throw _

theorem checkEncoding (encoding : Text) : Works (Files.checkEncoding encoding) := by
  intro w v h
  unfold Files.checkEncoding
  split_ifs <;> exact ⟨rfl, h, rfl⟩

theorem encodeText (t encoding : Text) (complete : Bool) :
    Works (Files.encodeText t encoding complete) := by
  refine (checkEncoding encoding).bind fun _ => ?_
  split
  · exact throw _
  · exact encodeWith _ t complete

theorem writeUtf8 (p : Path) (t : Text) : Works (Files.writeUtf8 p t) :=
  (openForWriting p).bind fun _ => (encodeWith _ t _).bind fun _ => fill _ _

theorem writeText (p : Path) (t encoding : Text) : Works (Files.writeText p t encoding) :=
  (checkEncoding encoding).bind fun _ => (openForWriting p).bind fun _ =>
    (encodeText t _ _).bind fun _ => fill _ _

theorem writeContent (p : Path) (content : Value) (encoding : Text) :
    Works (Publishing.writeContent p content encoding) := by
  unfold Publishing.writeContent
  split
  · exact writeBytes p _
  · exact writeText p _ encoding
  · exact throw _

theorem sameFile (p q : Path) : Works (Files.sameFile p q) := by
  refine get (fun w v h => by simp only [h.tree, h.current]) fun w => ?_
  split <;> exact pure _

theorem copyFile (source target : Path) : Works (Files.copyFile source target) := by
  have hcopy (target : Path) : Works (do
      if ← Files.sameFile source target then Action.raise (.file .sameFile)
      else
        let data ← Files.readBytes source
        Files.writeBytes target data) := by
    refine (sameFile source target).bind fun same => ?_
    split_ifs
    · exact throw _
    · exact (Looks.readBytes source).works.bind fun _ => writeBytes target _
  refine (Looks.isDirectory target).works.bind fun found => ?_
  split_ifs <;> exact (pure _).bind hcopy

theorem mapM {f : α → Action β} (hf : ∀ a, Works (f a)) (as : List α) : Works (as.mapM f) := by
  induction as with
  | nil =>
    rw [List.mapM_nil]
    exact pure _
  | cons a rest ih =>
    rw [List.mapM_cons]
    exact (hf a).bind fun _ => ih.bind fun _ => pure _

theorem copied {x : Action Unit} (hx : Works x) : Works (Files.copied x) := by
  refine hx.attempt.bind fun ending => ?_
  split
  · exact pure _
  · split_ifs
    · exact pure _
    · exact throw _
  · exact throw _

theorem copyTree (room : Nat) (source target : Path) :
    Works (Files.copyTree room source target) := by
  induction room generalizing source target with
  | zero => exact throw _
  | succ room ih =>
    have hnames : Works (Files.namesIn source) :=
      (Looks.entriesIn source).works.bind fun _ => pure _
    refine hnames.bind fun names => (makeDirectories target).bind fun _ => ?_
    refine (mapM (fun name => copied ?_) names).bind fun endings => ?_
    · refine (Looks.entryAt? _).works.bind fun found => ?_
      split
      · exact ih _ _
      · exact copyFile _ _
    · split_ifs
      · exact pure _
      · exact throw _

theorem write (records : List DocRecord) (destination : Path) :
    Works (Output.write records destination) := by
  refine (makeDirectories destination).bind fun _ => ?_
  split
  · exact throw _
  · exact (writeUtf8 _ _).bind fun _ => (report _).bind fun _ => pure _

theorem writeHanded (handed : List (Handed DocRecord)) (destination : Path) :
    Works (Output.writeHanded handed destination) := by
  unfold Output.writeHanded
  split
  · exact (write _ destination).bind fun _ => pure _
  · exact (makeDirectories destination).bind fun _ => throw _

end Action.Works

variable {ps : Plugins} (hps : ∀ p ∈ ps, p.Blind)
include hps

/-- What a plugin asks for while it publishes is done without a look at the log. -/
theorem Publishing.blind_answer (destination : Path) (r : Request) :
    Blind (Publishing.answer ps destination r) := by
  cases r with
  | write file content encoding =>
    refine Related.bind ?_ fun _ => Follows.pure _
    refine (Plugins.blind_handleContent hps content _).bind fun content => ?_
    refine (Blind.report _).bind fun _ => ?_
    exact (Works.makeDirectories _).blind.bind fun _ => (Works.writeContent _ _ _).blind
  | copy source file =>
    refine Related.bind ?_ fun _ => Follows.pure _
    refine (Blind.report _).bind fun _ => (Looks.isDirectory _).blind.bind fun found => ?_
    split_ifs
    · refine Blind.world (fun w v h => by rw [h.stack]) fun w => ?_
      exact (Works.copyTree _ _ _).blind
    · exact (Works.makeDirectories _).blind.bind fun _ => (Works.copyFile _ _).blind
  | read file => exact (Looks.readText _).blind

theorem blind_publish (destination : Path) : Blind (publish ps destination) := by
  refine (Plugins.blind_publish hps (Publishing.blind_answer hps destination)).attempt.bind ?_
  rintro (f | _)
  · exact (Blind.report _).bind fun _ => Blind.throw _
  · exact Follows.pure _

end SourceDocs
