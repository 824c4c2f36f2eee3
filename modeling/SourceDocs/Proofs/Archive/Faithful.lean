import SourceDocs.Proofs.Archive.Sequential

/-!
# Nobody can tell that there is a worker

The main result, `Archive.machine_faithful`, is about every state of a caller and a worker in any
interleaving.  The calls return and raise what those of the sequential archive do, the jobs have the
same effects in the same order, and every run comes to an end.  The jobs may do anything with the
world, so that is for any way in which they end.
-/

namespace SourceDocs.Archive

open Machine

variable {work : Path → Job → Action Path} {m m' : Machine}

/-! ## Progress -/

namespace Machine

/-- All calls were made and all jobs were carried out. -/
structure Ended (m : Machine) : Prop where
  idle : m.caller = .idle
  calls : m.calls = []
  unfinished : m.unfinished = []

/-- The steps that are left at most. -/
def cost (m : Machine) : Nat :=
  4 * m.calls.length + 2 * m.queue.length + m.running.toList.length +
    match m.caller with
    | .idle => 0
    | .submitting _ _ => 3
    | .closing _ => 2
    | .leaving _ => 1

/-- A task that is waited for has ended once none is left. -/
theorem Inv.endingIn_of_awaited (h : m.Inv) (hnil : m.unfinished = []) {t : Nat}
    (ht : m.awaited = some t) : ∃ e, endingIn m.finished t = some e := by
  rw [← Option.isSome_iff_exists, endingIn_isSome]
  have horder := h.inOrder
  rw [tickets, hnil, List.map_nil, List.append_nil] at horder
  rw [horder, List.mem_range]
  exact h.known t ht

end Machine

theorem Step.cost_lt (h : Step work m m') : m'.cost < m.cost := by
  cases h with
  | refuse hidle hcalls _ => simp [cost, reply, hidle, hcalls]
  | closedAlready hidle hcalls _ => simp [cost, reply, hidle, hcalls]
  | accept hidle hcalls _ _ =>
    simp only [cost, Machine.accept, reply, hidle, hcalls, List.length_append, List.length_cons,
      List.length_nil]
    omega
  | submit hidle hcalls _ _ =>
    simp only [cost, hidle, hcalls, List.length_cons]
    omega
  | proceed hcaller _ =>
    simp only [cost, Machine.accept, reply, hcaller, List.length_append, List.length_cons,
      List.length_nil]
    omega
  | fail hcaller _ => simp [cost, reply, hcaller]
  | close hidle hcalls _ _ =>
    simp only [cost, hidle, hcalls, List.length_cons]
    omega
  | closeBehind hidle hcalls _ _ =>
    simp only [cost, hidle, hcalls, List.length_cons]
    omega
  | stop hcaller _ => simp [cost, hcaller]
  | stopFailing hcaller _ => simp [cost, hcaller]
  | leave hcaller _ _ => simp [cost, reply, hcaller]
  | leaveFailing hcaller _ _ => simp [cost, reply, hcaller]
  | take hrunning hqueue =>
    simp only [cost, hrunning, hqueue, List.length_cons, Option.toList_some, Option.toList_none,
      List.length_nil]
    omega
  | finish hrunning => simp [cost, Machine.finish, hrunning]

/-- A caller that waits for nothing can make the next call. -/
theorem exists_step_of_idle (work : Path → Job → Action Path) (hidle : m.caller = .idle) {c : Call}
    {rest : List Call} (hcalls : m.calls = c :: rest) : ∃ m', Step work m m' := by
  cases hclosed : m.closed with
  | true =>
    cases c with
    | submit j => exact ⟨_, .refuse hidle hcalls hclosed⟩
    | close => exact ⟨_, .closedAlready hidle hcalls hclosed⟩
  | false =>
    cases hinflight : m.inflight with
    | none =>
      cases c with
      | submit j => exact ⟨_, .accept hidle hcalls hclosed hinflight⟩
      | close => exact ⟨_, .close hidle hcalls hclosed hinflight⟩
    | some t =>
      cases c with
      | submit j => exact ⟨_, .submit hidle hcalls hclosed hinflight⟩
      | close => exact ⟨_, .closeBehind hidle hcalls hclosed hinflight⟩

/-- The worker can go on as long as a job is left, and the caller otherwise. -/
theorem Machine.Inv.progress (work : Path → Job → Action Path) (h : m.Inv) :
    m.Ended ∨ ∃ m', Step work m m' := by
  cases hrunning : m.running with
  | some t => exact Or.inr ⟨_, .finish hrunning⟩
  | none =>
    cases hqueue : m.queue with
    | cons t rest => exact Or.inr ⟨_, .take hrunning hqueue⟩
    | nil =>
      have hnil : m.unfinished = [] := by rw [unfinished, hrunning, hqueue]; rfl
      cases hcaller : m.caller with
      | idle =>
        cases hcalls : m.calls with
        | nil => exact Or.inl ⟨hcaller, hcalls, hnil⟩
        | cons c rest => exact Or.inr (exists_step_of_idle work hcaller hcalls)
      | submitting j t =>
        obtain ⟨e, he⟩ := h.endingIn_of_awaited hnil (t := t) (by rw [awaited, hcaller])
        cases e with
        | ok p => exact Or.inr ⟨_, .proceed hcaller he⟩
        | error f => exact Or.inr ⟨_, .fail hcaller he⟩
      | closing t =>
        obtain ⟨e, he⟩ := h.endingIn_of_awaited hnil (t := t) (by rw [awaited, hcaller])
        cases e with
        | ok p => exact Or.inr ⟨_, .stop hcaller he⟩
        | error f => exact Or.inr ⟨_, .stopFailing hcaller he⟩
      | leaving waited =>
        by_cases hfailed : ∃ t f, waited = some t ∧ endingIn m.finished t = some (.error f)
        · obtain ⟨t, f, rfl, hf⟩ := hfailed
          exact Or.inr ⟨_, .leaveFailing hcaller hnil hf⟩
        · exact Or.inr ⟨_, .leave hcaller hnil fun t f ht hf => hfailed ⟨t, f, ht, hf⟩⟩

/-- A run goes on to its end. -/
theorem Machine.Inv.exists_ended (h : m.Inv) : ∃ m', Reachable work m m' ∧ m'.Ended := by
  induction hcost : m.cost using Nat.strong_induction_on generalizing m with
  | _ n ih =>
    rcases h.progress work with hended | ⟨m₁, hstep⟩
    · exact ⟨m, .refl, hended⟩
    · obtain ⟨m₂, hreach, hended⟩ := ih m₁.cost (hcost ▸ hstep.cost_lt) (hstep.inv h) rfl
      exact ⟨m₂, .head hstep hreach, hended⟩

/-! ## Failures -/

/-- A list in which `f` gives no value twice gives each at one place only. -/
theorem eq_of_nodup_filterMap {α β : Type} {l : List α} {f : α → Option β}
    (h : (l.filterMap f).Nodup) {i j : Nat} {a b : α} (ha : l[i]? = some a) (hb : l[j]? = some b)
    {x : β} (hx : f a = some x) (hy : f b = some x) : i = j := by
  rw [List.Nodup, List.pairwise_filterMap, List.pairwise_iff_getElem] at h
  obtain ⟨hi, rfl⟩ := List.getElem?_eq_some_iff.1 ha
  obtain ⟨hj, rfl⟩ := List.getElem?_eq_some_iff.1 hb
  rcases Nat.lt_trichotomy i j with hlt | heq | hgt
  · exact absurd rfl (h i j hi hj hlt x hx x hy)
  · exact heq
  · exact absurd rfl (h j i hj hi hgt x hy x hx)

/-- Every failure of a job is raised once, by the call behind the one that admitted it. -/
structure Machine.RaisesOnce (m : Machine) : Prop where
  /-- The first call raises nothing. -/
  first : ∀ t f, m.outcomes[0]? ≠ some (.raised t f)
  /-- Any other call raises the failure of the job that the call before admitted, if it failed. -/
  behind : ∀ (i t : Nat) (f : Failure), i + 1 < m.outcomes.length →
    (m.outcomes[i + 1]? = some (.raised t f) ↔
      m.outcomes[i]? = some (.admitted t) ∧ endingIn m.finished t = some (.error f))
  /-- No other call raises it again. -/
  once : ∀ (i j t : Nat) (f g : Failure),
    m.outcomes[i]? = some (.raised t f) → m.outcomes[j]? = some (.raised t g) → i = j
  /-- Until the next call ends, the failure of the last job is not lost. -/
  owing : ∀ t, m.outcomes.getLast? = some (.admitted t) ↔ m.owing = some t

theorem Machine.History.raisesOnce (h : m.History) : m.RaisesOnce := by
  have hfirst : ∀ t f, m.outcomes[0]? ≠ some (.raised t f) := by
    intro t f hraised
    exact h.first t f (by rw [List.head?_eq_getElem?, hraised])
  have hbehind : ∀ (i t : Nat) (f : Failure), i + 1 < m.outcomes.length →
      (m.outcomes[i + 1]? = some (.raised t f) ↔
        m.outcomes[i]? = some (.admitted t) ∧ endingIn m.finished t = some (.error f)) := by
    intro i t f hi
    have hraises := (List.isChain_iff_getElem.1 h.chain i hi).raises t f
    rw [List.getElem?_eq_getElem hi, List.getElem?_eq_getElem (by omega), Option.some.injEq,
      Option.some.injEq]
    exact hraises
  -- What is raised leads back to the call that admitted the job, and there is one such call only.
  have hbefore : ∀ (i t : Nat) (f : Failure), m.outcomes[i]? = some (.raised t f) →
      ∃ k, i = k + 1 ∧ m.outcomes[k]? = some (.admitted t) := by
    intro i t f hraised
    obtain ⟨hi, -⟩ := List.getElem?_eq_some_iff.1 hraised
    cases i with
    | zero => exact absurd hraised (hfirst t f)
    | succ k => exact ⟨k, rfl, ((hbehind k t f hi).1 hraised).1⟩
  refine ⟨hfirst, hbehind, fun i j t f g hi hj => ?_, fun t => ?_⟩
  · obtain ⟨k, rfl, hk⟩ := hbefore i t f hi
    obtain ⟨l, rfl, hl⟩ := hbefore j t g hj
    have hnodup : (m.outcomes.filterMap Reply.ticket?).Nodup := by
      rw [h.numbered]
      exact List.nodup_range
    rw [eq_of_nodup_filterMap hnodup hk hl rfl rfl]
  · rw [← h.last]
    cases hlast : m.outcomes.getLast? with
    | none => simp
    | some r => cases r <;> simp [Reply.ticket?]

/-! ## The main result -/

/-- What a machine that was started with `calls` cannot be told apart from the sequential archive
by. -/
structure Faithful (work : Path → Job → Action Path) (root : Path) (calls : List Call) (w : World)
    (m : Machine) : Prop where
  /-- At most one job is unfinished. -/
  single : m.unfinished.length ≤ 1
  /-- Jobs are carried out in the order in which they were admitted. -/
  inOrder : m.tickets = List.range m.admitted
  /-- The calls that have ended led to what the sequential archive answers to them, and the jobs of
  those that admitted one, and of no other, have its effects. -/
  sequential : ∃ made answers a, calls = made ++ (m.underway ++ m.calls) ∧
    (serve work made).runWith w { root } = (.ok answers, m.finalWorld work, a) ∧
    m.answers work = answers.map some ∧
    m.tasks.map Task.job = admittedJobs made m.outcomes ∧
    (m.caller = .idle → a.closed = m.closed ∧ a.written = m.written)
  /-- At the end that is so for all calls, and for the world as it is. -/
  ended : m.Ended → ∃ answers a,
    (serve work calls).runWith w { root } = (.ok answers, m.world, a) ∧
    m.replies.map (fun (r, n) => r.answer? m.finished n) = answers.map some ∧
    m.finished.map (fun d => d.task.job) = admittedJobs calls m.outcomes ∧
    a.closed = m.closed ∧ a.written = m.written
  raisesOnce : m.RaisesOnce
  /-- The caller and the worker never block each other for good. -/
  comesToEnd : ∃ m', Reachable work m m' ∧ m'.Ended

theorem Step.root_eq (h : Step work m m') : m'.root = m.root := by
  cases h <;> rfl

theorem Reachable.root_eq {root : Path} {calls : List Call} {w : World}
    (h : Reachable work (start root calls w) m) : m.root = root := by
  induction h with
  | refl => rfl
  | tail _ hstep ih => rw [hstep.root_eq, ih]

/-- Whatever a caller and a worker do in turn, it is what the sequential archive does. -/
theorem machine_faithful {root : Path} {calls : List Call} {w : World}
    (h : Reachable work (start root calls w) m) : Faithful work root calls w m := by
  have hinv := h.inv
  obtain ⟨made, answers, a, htracks⟩ := h.tracks
  have hserved := htracks.served
  rw [h.root_eq] at hserved
  have hidle : m.caller = .idle → a.closed = m.closed ∧ a.written = m.written := by
    intro hcaller
    have hclosed := htracks.stands.closed
    have hwritten := htracks.stands.written
    rw [hcaller] at hclosed hwritten
    exact ⟨hclosed, hwritten⟩
  refine ⟨hinv.length_unfinished_le, hinv.inOrder,
    ⟨made, answers, a, htracks.split, hserved, htracks.same, htracks.jobs, hidle⟩, fun hended => ?_,
    h.history.raisesOnce, hinv.exists_ended⟩
  have hmade : made = calls := by
    rw [htracks.split, underway, hended.idle, hended.calls]
    simp
  have hsame := htracks.same
  have hjobs := htracks.jobs
  rw [Machine.answers, finalDone_of_nil work hended.unfinished] at hsame
  rw [tasks, hended.unfinished, List.append_nil, List.map_map] at hjobs
  rw [finalWorld_of_nil work hended.unfinished] at hserved
  subst hmade
  exact ⟨answers, a, hserved, hsame, hjobs, hidle hended.idle⟩

/-! ## A run with a failure -/

/-- A world with a directory `/root`, in which the file `a.json` cannot be written. -/
def blocked : World where
  tree := .directory [("root", .directory [("a.json", .directory [])])]
  current := []
  home := ⟨1, []⟩

/-- That world once `c.json` was written. -/
def blockedBehind : World :=
  { blocked with
    tree := .directory [("root", .directory
      [("a.json", .directory []), ("c.json", .file [110, 117, 108, 108])])]
    log := [.wroteTree ⟨1, ["root", "c.json"]⟩] }

/-- The failure to write `a.json`. -/
def blockedFailure : Failure :=
  .persistence (.unwritten ⟨1, ["root", "a.json"]⟩ (.file .isDirectory))

/-- Three jobs, the first of which fails. -/
def blockedCalls : List Call :=
  [.submit ⟨"a", .null⟩, .submit ⟨"b", .null⟩, .submit ⟨"c", .null⟩, .close]

theorem makeDirectories_blocked (name : Text) :
    (Files.makeDirectories (Path.parent ⟨1, ["root", name]⟩)).runIn blocked =
      (.ok (), blocked) := by
  have hparent : Path.parent ⟨1, ["root", name]⟩ = ⟨1, ["root"]⟩ := rfl
  rw [hparent]
  cbv

theorem carryOut_blocked :
    (carryOut ⟨1, ["root"]⟩ ⟨"a", .null⟩).runIn blocked = (.error blockedFailure, blocked) := by
  have htarget : target ⟨1, ["root"]⟩ ⟨"a", .null⟩ = ⟨1, ["root", "a.json"]⟩ := by decide +kernel
  have hopen : (Files.openForWriting ⟨1, ["root", "a.json"]⟩).runIn blocked =
      (.error (.raised (.file .isDirectory)), blocked) := rfl
  have hwrite : (writeTree ⟨1, ["root", "a.json"]⟩ .null).runIn blocked =
      (.error (.raised (.file .isDirectory)), blocked) := by
    rw [writeTree, Action.runIn_bind_ok (makeDirectories_blocked _),
      Action.runIn_bind_error hopen]
  rw [carryOut, htarget, Action.runIn_attempt_bind, hwrite]
  rfl

theorem carryOut_blocked_behind : (carryOut ⟨1, ["root"]⟩ ⟨"c", .null⟩).runIn blocked =
    (.ok ⟨1, ["root", "c.json"]⟩, blockedBehind) := by
  have htarget : target ⟨1, ["root"]⟩ ⟨"c", .null⟩ = ⟨1, ["root", "c.json"]⟩ := by decide +kernel
  have hopen : (Files.openForWriting ⟨1, ["root", "c.json"]⟩).runIn blocked =
      (.ok ["root", "c.json"],
        { blocked with tree := blocked.tree.set ["root", "c.json"] (.file []) }) := rfl
  have hchunks : Json.treeChunks .null = ([Text.ofString "null"], none) := rfl
  have hdata : encodePieces [Text.ofString "null"] = ([110, 117, 108, 108], true) := by
    decide +kernel
  have hwrite : (writeTree ⟨1, ["root", "c.json"]⟩ .null).runIn blocked =
      (.ok (), { blockedBehind with log := [] }) := by
    rw [writeTree, Action.runIn_bind_ok (makeDirectories_blocked _), Action.runIn_bind_ok hopen]
    simp only [hchunks, hdata]
    rfl
  rw [carryOut, htarget, Action.runIn_attempt_bind, hwrite]
  rfl

theorem Step.finish_of_run {t : Task} {e : Except Failure Path} {w : World}
    (h : m.running = some t) (hrun : (work m.root t.job).runIn m.world = (e, w)) :
    Step work m { m with running := none, world := w, finished := m.finished ++ [⟨t, e⟩] } := by
  have hstep : Step work m _ := .finish h
  rwa [Machine.finish, hrun] at hstep

/-- The second call raises the failure of the first job, and its own job is never carried out. -/
theorem machine_faithful_blocked :
    ∃ m, Reachable carryOut (start ⟨1, ["root"]⟩ blockedCalls blocked) m ∧ m.Ended ∧
      m.written = 1 ∧
      m.outcomes = [.admitted 0, .raised 0 blockedFailure, .admitted 1, .closed 1] ∧
      Faithful carryOut ⟨1, ["root"]⟩ blockedCalls blocked m := by
  have hadmitted := Relation.ReflTransGen.single (r := Step carryOut)
    (.accept (m := start ⟨1, ["root"]⟩ blockedCalls blocked) rfl rfl rfl rfl)
  have hfailed := (hadmitted.tail (.take rfl rfl)).tail (.finish_of_run rfl carryOut_blocked)
  have hraised := (hfailed.tail (.submit rfl rfl rfl rfl)).tail (.fail rfl rfl)
  have hclosing := (hraised.tail (.accept rfl rfl rfl rfl)).tail (.closeBehind rfl rfl rfl rfl)
  have hwritten :=
    (hclosing.tail (.take rfl rfl)).tail (.finish_of_run rfl carryOut_blocked_behind)
  have hstopped := hwritten.tail (.stop rfl rfl)
  have hleft := hstopped.tail (.leave rfl rfl fun t f ht hf => by
    cases ht
    cases hf)
  exact ⟨_, hleft, ⟨rfl, rfl, rfl⟩, rfl, rfl, machine_faithful hleft⟩

end SourceDocs.Archive
