import SourceDocs.Proofs.Archive.Sequential
import SourceDocs.Proofs.Looking

/-!
# What the worker has done

`Machine.Accounts` relates what an archive with a worker counts to what the worker has done: all
jobs that it knows to have succeeded are counted but for the one that the next call waits for, and
the files are those that the finished jobs leave behind when they are carried out one after another.
-/

namespace SourceDocs.Archive

open Machine

variable {work : Path → Job → Action Path}

/-- Whether a task has ended well. -/
def Done.succeeded (d : Done) : Bool := d.ending.toBool

/-- The number of tasks that have ended well. -/
def successes (finished : List Done) : Nat := finished.countP Done.succeeded

theorem successes_concat (finished : List Done) (d : Done) :
    successes (finished ++ [d]) = successes finished + if d.succeeded then 1 else 0 := by
  rw [successes, List.countP_append, List.countP_singleton]
  rfl

theorem runTasks_concat (f : Job → Action Path) (ts : List Task) (t : Task) (w : World) :
    runTasks f (ts ++ [t]) w =
      ((runTasks f ts w).1 ++ [⟨t, ((f t.job).runIn (runTasks f ts w).2).1⟩],
        ((f t.job).runIn (runTasks f ts w).2).2) := by
  induction ts generalizing w with
  | nil => rfl
  | cons u rest ih =>
    rw [List.cons_append, runTasks, runTasks]
    simp only [ih]
    rfl

namespace Machine

variable {m m' : Machine} {w : World}

/-- What the next call will count. -/
def uncounted (m : Machine) : Nat :=
  match m.awaited.bind (endingIn m.finished) with
  | some (.ok _) => 1
  | _ => 0

/-- Where the finished tasks, carried out one after another, lead. -/
def worldOfFinished (work : Path → Job → Action Path) (w : World) (m : Machine) : World :=
  (runTasks (work m.root) (m.finished.map Done.task) w).2

/-- Whether the caller waits in order to close the archive. -/
def closes (m : Machine) : Bool :=
  match m.caller with
  | .closing _ | .leaving _ => true
  | _ => false

/-- The finished tasks have ended as they do when they are carried out one after another, and have
left the same files. -/
structure Carried (work : Path → Job → Action Path) (w : World) (m : Machine) : Prop where
  results : (runTasks (work m.root) (m.finished.map Done.task) w).1 = m.finished
  files : (m.worldOfFinished work w).SameFiles m.world
  /-- As long as there may be jobs to carry out, the log is the same, too. -/
  exact : m.closed = false ∨ m.unfinished ≠ [] → m.worldOfFinished work w = m.world

/-- What has become of the world that the machine was started in, and what is counted. -/
structure Accounts (work : Path → Job → Action Path) (w : World) (m : Machine) : Prop where
  carried : m.Carried work w
  counted : successes m.finished = m.written + m.uncounted
  /-- A call that closes the archive marks it as closed before it waits. -/
  marked : m.closes = true → m.closed = true

theorem Carried.of_caller (h : m.Carried work w) (hroot : m'.root = m.root)
    (hfinished : m'.finished = m.finished) (hfiles : m.world.SameFiles m'.world)
    (hexact : m'.closed = false ∨ m'.unfinished ≠ [] →
      (m.closed = false ∨ m.unfinished ≠ []) ∧ m'.world = m.world) : m'.Carried work w := by
  have hend : m'.worldOfFinished work w = m.worldOfFinished work w := by
    rw [worldOfFinished, worldOfFinished, hroot, hfinished]
  refine ⟨?_, ?_, fun hopen => ?_⟩
  · rw [hroot, hfinished]
    exact h.results
  · rw [hend]
    exact h.files.trans hfiles
  · obtain ⟨hopen, hworld⟩ := hexact hopen
    rw [hend, hworld]
    exact h.exact hopen

theorem Carried.finish (h : m.Carried work w) {t : Task} (hrunning : m.running = some t) :
    (m.finish work t).Carried work w := by
  have hworld : m.worldOfFinished work w = m.world := by
    refine h.exact (.inr ?_)
    rw [unfinished_running hrunning]
    exact List.cons_ne_nil _ _
  have hrun : runTasks (work m.root) ((m.finish work t).finished.map Done.task) w =
      ((m.finish work t).finished, (m.finish work t).world) := by
    rw [worldOfFinished] at hworld
    simp only [Machine.finish, List.map_append, List.map_cons, List.map_nil]
    rw [runTasks_concat, hworld, h.results]
  have hend : (m.finish work t).worldOfFinished work w = (m.finish work t).world := by
    rw [worldOfFinished]
    exact congrArg Prod.snd hrun
  refine ⟨congrArg Prod.fst hrun, ?_, fun _ => hend⟩
  rw [hend]
  exact .refl _

theorem accounts_start (work : Path → Job → Action Path) (root : Path) (calls : List Call)
    (w : World) : (start root calls w).Accounts work w := by
  refine ⟨⟨rfl, .refl w, fun _ => rfl⟩, rfl, fun h => ?_⟩
  cases h

theorem uncounted_of_ok {t : Nat} {p : Path} (ht : m.awaited = some t)
    (he : endingIn m.finished t = some (.ok p)) : m.uncounted = 1 := by
  rw [uncounted, ht, Option.bind_some, he]

theorem uncounted_of_error {t : Nat} {f : Failure} (ht : m.awaited = some t)
    (he : endingIn m.finished t = some (.error f)) : m.uncounted = 0 := by
  rw [uncounted, ht, Option.bind_some, he]

theorem uncounted_of_unfinished {t : Nat} (ht : m.awaited = some t)
    (he : endingIn m.finished t = none) : m.uncounted = 0 := by
  rw [uncounted, ht, Option.bind_some, he]

theorem uncounted_of_awaited (h : m.awaited = none) : m.uncounted = 0 := by
  rw [uncounted, h]
  rfl

theorem uncounted_congr (hawaited : m'.awaited = m.awaited) (hfinished : m'.finished = m.finished) :
    m'.uncounted = m.uncounted := by
  rw [uncounted, uncounted, hawaited, hfinished]

/-- The next number is that of no task. -/
theorem Inv.endingIn_admitted (h : m.Inv) : endingIn m.finished m.admitted = none := by
  rw [← Option.not_isSome_iff_eq_none, endingIn_isSome]
  intro hmem
  have hticket : m.admitted ∈ m.tickets := List.mem_append_left _ hmem
  rw [h.inOrder, List.mem_range] at hticket
  exact lt_irrefl _ hticket

/-- A task that runs has not ended. -/
theorem Inv.endingIn_running (h : m.Inv) {t : Task} (hrunning : m.running = some t) :
    endingIn m.finished t.ticket = none := by
  rw [← Option.not_isSome_iff_eq_none, endingIn_isSome]
  intro hmem
  have hdisjoint := (List.nodup_append.1 h.nodup).2.2
  refine hdisjoint _ hmem _ ?_ rfl
  rw [unfinished_running hrunning]
  exact List.mem_cons_self

/-- What has just ended has ended so. -/
theorem endingIn_concat {finished : List Done} {d : Done}
    (h : endingIn finished d.task.ticket = none) :
    endingIn (finished ++ [d]) d.task.ticket = some d.ending := by
  have hnone : finished.find? (fun e => e.task.ticket = d.task.ticket) = none := by
    rwa [endingIn, Option.map_eq_none_iff] at h
  rw [endingIn, List.find?_append, hnone]
  simp

/-- A step that finishes no task and leaves the world alone. -/
theorem Accounts.of_caller (h : m.Accounts work w) (hroot : m'.root = m.root)
    (hfinished : m'.finished = m.finished) (hworld : m'.world = m.world)
    (hcounted : m'.written + m'.uncounted = m.written + m.uncounted)
    (hexact : m'.closed = false ∨ m'.unfinished ≠ [] → m.closed = false ∨ m.unfinished ≠ [])
    (hmarked : m'.closes = true → m'.closed = true) : m'.Accounts work w := by
  refine ⟨h.carried.of_caller hroot hfinished ?_ fun hopen => ⟨hexact hopen, hworld⟩, ?_, hmarked⟩
  · rw [hworld]
    exact .refl _
  · rw [hfinished, hcounted]
    exact h.counted

/-- A task that ends is counted next, if it has ended well. -/
theorem Accounts.finish (h : m.Accounts work w) {t : Task} (hrunning : m.running = some t)
    (huncounted : (m.finish work t).uncounted = m.uncounted +
      if Done.succeeded ⟨t, ((work m.root t.job).runIn m.world).1⟩ then 1 else 0) :
    (m.finish work t).Accounts work w := by
  refine ⟨h.carried.finish hrunning, ?_, h.marked⟩
  rw [huncounted]
  simp only [Machine.finish]
  rw [successes_concat, h.counted, Nat.add_assoc]

/-- A job that is handed over is not counted yet. -/
theorem Accounts.accept (h : m.Accounts work w) {b : Machine} (j : Job) (hroot : b.root = m.root)
    (hfinished : b.finished = m.finished) (hworld : b.world = m.world)
    (hwritten : b.written = m.written + m.uncounted) (hopen : m.closed = false)
    (hfree : endingIn b.finished b.admitted = none) : (b.accept j).Accounts work w := by
  have hawaited : (b.accept j).awaited = some b.admitted := rfl
  refine h.of_caller hroot hfinished hworld ?_ (fun _ => .inl hopen) fun hfalse => ?_
  · rw [uncounted_of_unfinished hawaited hfree]
    exact hwritten
  · cases hfalse

end Machine

variable {m m' : Machine} {w : World}

/-- Whatever the caller or the worker does next, it is accounted for. -/
theorem Step.accounts (h : m.Accounts work w) (hinv : m.Inv) (hstep : Step work m m') :
    m'.Accounts work w := by
  have hidle {b : Machine} (hb : b.caller = .idle) : b.closes = true → b.closed = true := by
    rw [closes, hb]
    exact Bool.noConfusion
  cases hstep with
  | refuse hcaller _ hclosed =>
    refine h.of_caller rfl rfl rfl ?_ id (hidle rfl)
    exact congrArg (m.written + ·) (uncounted_congr (by rw [awaited, awaited, hcaller]; rfl) rfl)
  | closedAlready hcaller _ hclosed =>
    refine h.of_caller rfl rfl rfl ?_ id (hidle rfl)
    exact congrArg (m.written + ·) (uncounted_congr (by rw [awaited, awaited, hcaller]; rfl) rfl)
  | @accept j rest hcaller _ hopen hnone =>
    have hquiet : m.uncounted = 0 := uncounted_of_awaited (by rw [awaited, hcaller, hnone])
    refine h.accept (b := { m with calls := rest }) j rfl rfl rfl ?_ hopen hinv.endingIn_admitted
    rw [hquiet]
    rfl
  | @submit j rest t hcaller _ hopen hsome =>
    refine h.of_caller rfl rfl rfl ?_ id Bool.noConfusion
    refine congrArg (m.written + ·) (uncounted_congr ?_ rfl)
    rw [awaited, awaited, hcaller, hsome]
  | @proceed j t p hcaller hended =>
    have hone : m.uncounted = 1 := uncounted_of_ok (by rw [awaited, hcaller]) hended
    refine h.accept (b := { m with written := m.written + 1 }) j rfl rfl rfl ?_
      (hinv.isOpen j t hcaller) hinv.endingIn_admitted
    rw [hone]
  | @fail j t f hcaller hended =>
    have hnone := hinv.inflight_eq_none hcaller Caller.noConfusion
    refine h.of_caller rfl rfl rfl ?_ id (hidle rfl)
    rw [uncounted_of_error (by rw [awaited, hcaller]) hended,
      uncounted_of_awaited (m := m.reply _) (by rw [awaited]; exact hnone)]
    rfl
  | close hcaller _ hopen hnone =>
    refine h.of_caller rfl rfl rfl ?_ (fun _ => .inl hopen) fun _ => rfl
    rw [uncounted_of_awaited (m := m) (by rw [awaited, hcaller, hnone]), uncounted_of_awaited rfl]
  | closeBehind hcaller _ hopen hsome =>
    refine h.of_caller rfl rfl rfl ?_ (fun _ => .inl hopen) fun _ => rfl
    refine congrArg (m.written + ·) (uncounted_congr ?_ rfl)
    rw [awaited, awaited, hcaller, hsome]
  | @stop t p hcaller hended =>
    refine h.of_caller rfl rfl rfl ?_ id fun _ => h.marked (by rw [closes, hcaller])
    rw [uncounted_of_ok (by rw [awaited, hcaller]) hended, uncounted_of_awaited rfl]
  | @stopFailing t f hcaller hended =>
    refine h.of_caller rfl rfl rfl ?_ id fun _ => h.marked (by rw [closes, hcaller])
    rw [uncounted_of_error (m := m) (by rw [awaited, hcaller]) hended, uncounted_of_awaited rfl]
  | @leave waited hcaller hnil _ =>
    -- The log goes on, but no job is left that could see it.
    have hnone := hinv.inflight_eq_none hcaller Caller.noConfusion
    have hclosed := h.marked (by rw [closes, hcaller])
    refine ⟨h.carried.of_caller rfl rfl ⟨rfl, rfl, rfl, rfl⟩ fun hopen => ?_, ?_, hidle rfl⟩
    · rcases hopen with hopen | hleft
      · rw [show m.closed = false from hopen] at hclosed
        cases hclosed
      · exact absurd hnil hleft
    · have hcounted := h.counted
      rw [uncounted_of_awaited (by rw [awaited, hcaller])] at hcounted
      rw [uncounted_of_awaited (by rw [awaited]; exact hnone)]
      exact hcounted
  | @leaveFailing t f hcaller hnil hended =>
    have hnone := hinv.inflight_eq_none hcaller Caller.noConfusion
    refine h.of_caller rfl rfl rfl ?_ id (hidle rfl)
    rw [uncounted_of_awaited (m := m) (by rw [awaited, hcaller]),
      uncounted_of_awaited (m := m.reply _) (by rw [awaited]; exact hnone)]
    rfl
  | @take t rest hrunning hqueue =>
    refine h.of_caller rfl rfl rfl ?_ (fun hopen => ?_) h.marked
    · exact congrArg (m.written + ·) (uncounted_congr rfl rfl)
    · rwa [unfinished_take hrunning hqueue] at hopen
  | @finish t hrunning =>
    refine h.finish hrunning ?_
    have hmem : t ∈ m.unfinished := by
      rw [unfinished_running hrunning]
      exact List.mem_cons_self
    have hawaited := hinv.awaits t hmem
    have hnew := hinv.endingIn_running hrunning
    have hended : endingIn (m.finish work t).finished t.ticket =
        some ((work m.root t.job).runIn m.world).1 :=
      endingIn_concat (d := ⟨t, ((work m.root t.job).runIn m.world).1⟩) hnew
    rw [uncounted_of_unfinished hawaited hnew, Nat.zero_add, Done.succeeded]
    cases hend : ((work m.root t.job).runIn m.world).1 with
    | ok p => exact uncounted_of_ok hawaited (hended.trans (congrArg some hend))
    | error f => exact uncounted_of_error hawaited (hended.trans (congrArg some hend))

theorem Reachable.accounts {root : Path} {calls : List Call}
    (h : Reachable work (start root calls w) m) : m.Accounts work w := by
  induction h with
  | refl => exact accounts_start work root calls w
  | tail hreach hstep ih => exact hstep.accounts ih (Reachable.inv hreach)

end SourceDocs.Archive
