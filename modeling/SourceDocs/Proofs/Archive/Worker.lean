import Mathlib
import SourceDocs.Archive

/-!
# An archive with a worker

Behind the calls of `Archive.submit` and `Archive.close` there may be a worker that carries out jobs
at its own pace.  `Archive.Machine` has both: a caller with calls to make, who waits for the job
before when it hands over the next one, and a worker with a queue.  `Archive.Step` says what either
of them can do next, in any order.  The invariant `Machine.Inv` holds of everything that can happen:
at most one job is unfinished, it is the one that the caller will ask for next, jobs are carried out
in the order in which they were admitted, and a failure is raised by the call behind its own.
-/

namespace SourceDocs.Archive

/-! ## Callers and workers -/

/-- A call to an archive. -/
inductive Call where
  | submit (j : Job)
  | close

/-- A job that was admitted, with its number. -/
structure Task where
  ticket : Nat
  job : Job

/-- A task that was carried out, and how that ended. -/
structure Done where
  task : Task
  ending : Except Failure Path

/-- What a call led to. -/
inductive Reply where
  /-- The archive was closed already. -/
  | refused
  /-- The failure of the job with this number. -/
  | raised (ticket : Nat) (f : Failure)
  /-- The job was admitted under this number. -/
  | admitted (ticket : Nat)
  | closed (written : Nat)

/-- Where the caller is in a call. -/
inductive Caller where
  | idle
  /-- It waits for a task before it hands over a job. -/
  | submitting (j : Job) (ticket : Nat)
  /-- It waits for a task before it closes the archive. -/
  | closing (ticket : Nat)
  /-- It waits for the worker to stop; it has waited for this task before. -/
  | leaving (waited : Option Nat)

/-- A caller and a worker. -/
structure Machine where
  root : Path
  world : World
  /-- The calls that are left to make. -/
  calls : List Call
  caller : Caller := .idle
  /-- The task that the next call waits for. -/
  inflight : Option Nat := none
  closed : Bool := false
  written : Nat := 0
  /-- The number of tasks. -/
  admitted : Nat := 0
  queue : List Task := []
  running : Option Task := none
  finished : List Done := []
  /-- What the calls led to, and the number of trees written as it could be read behind each. -/
  replies : List (Reply × Nat) := []

namespace Machine

/-- The machine at its start. -/
def start (root : Path) (calls : List Call) (w : World) : Machine :=
  { root, world := w, calls }

/-- The tasks that are not carried out yet. -/
def unfinished (m : Machine) : List Task := m.running.toList ++ m.queue

/-- How a task ended, among those that were carried out. -/
def endingIn (finished : List Done) (ticket : Nat) : Option (Except Failure Path) :=
  (finished.find? fun d => d.task.ticket = ticket).map Done.ending

/-- The end of a call. -/
def reply (m : Machine) (r : Reply) : Machine :=
  { m with caller := .idle, replies := m.replies ++ [(r, m.written)] }

/-- Hands a job over to the worker. -/
def accept (m : Machine) (j : Job) : Machine :=
  reply { m with
    inflight := some m.admitted
    admitted := m.admitted + 1
    queue := m.queue ++ [⟨m.admitted, j⟩] } (.admitted m.admitted)

/-- Carries out a task. -/
def finish (work : Path → Job → Action Path) (m : Machine) (t : Task) : Machine :=
  let (ending, w) := (work m.root t.job).runIn m.world
  { m with running := none, world := w, finished := m.finished ++ [⟨t, ending⟩] }

end Machine

open Machine

/-- What the caller or the worker can do next, where `work` carries jobs out. -/
inductive Step (work : Path → Job → Action Path) (m : Machine) : Machine → Prop where
  | refuse {j : Job} {rest : List Call} : m.caller = .idle → m.calls = .submit j :: rest →
      m.closed = true → Step work m (reply { m with calls := rest } .refused)
  | accept {j : Job} {rest : List Call} : m.caller = .idle → m.calls = .submit j :: rest →
      m.closed = false → m.inflight = none → Step work m (accept { m with calls := rest } j)
  | submit {j : Job} {rest : List Call} {t : Nat} : m.caller = .idle →
      m.calls = .submit j :: rest → m.closed = false → m.inflight = some t →
      Step work m { m with calls := rest, inflight := none, caller := .submitting j t }
  | proceed {j : Job} {t : Nat} {p : Path} : m.caller = .submitting j t →
      endingIn m.finished t = some (.ok p) →
      Step work m (accept { m with written := m.written + 1 } j)
  | fail {j : Job} {t : Nat} {f : Failure} : m.caller = .submitting j t →
      endingIn m.finished t = some (.error f) → Step work m (reply m (.raised t f))
  | closedAlready {rest : List Call} : m.caller = .idle → m.calls = .close :: rest →
      m.closed = true → Step work m (reply { m with calls := rest } (.closed m.written))
  | close {rest : List Call} : m.caller = .idle → m.calls = .close :: rest → m.closed = false →
      m.inflight = none →
      Step work m { m with calls := rest, closed := true, caller := .leaving none }
  | closeBehind {rest : List Call} {t : Nat} : m.caller = .idle → m.calls = .close :: rest →
      m.closed = false → m.inflight = some t →
      Step work m { m with
        calls := rest, closed := true, inflight := none, caller := .closing t }
  | stop {t : Nat} {p : Path} : m.caller = .closing t → endingIn m.finished t = some (.ok p) →
      Step work m { m with written := m.written + 1, caller := .leaving (some t) }
  | stopFailing {t : Nat} {f : Failure} : m.caller = .closing t →
      endingIn m.finished t = some (.error f) → Step work m { m with caller := .leaving (some t) }
  /-- The worker has stopped, and no failure is left to raise. -/
  | leave {waited : Option Nat} : m.caller = .leaving waited → m.unfinished = [] →
      (∀ t f, waited = some t → endingIn m.finished t ≠ some (.error f)) →
      Step work m (reply { m with
        world := { m.world with log := .drained m.written :: m.world.log } } (.closed m.written))
  | leaveFailing {t : Nat} {f : Failure} : m.caller = .leaving (some t) → m.unfinished = [] →
      endingIn m.finished t = some (.error f) → Step work m (reply m (.raised t f))
  /-- The worker takes the next task. -/
  | take {t : Task} {rest : List Task} : m.running = none → m.queue = t :: rest →
      Step work m { m with running := some t, queue := rest }
  | finish {t : Task} : m.running = some t → Step work m (finish work m t)

/-- What a machine can come to. -/
def Reachable (work : Path → Job → Action Path) : Machine → Machine → Prop :=
  Relation.ReflTransGen (Step work)

/-! ## Scheduling -/

namespace Machine

/-- The task that a call waits for, or that the next one will wait for. -/
def awaited (m : Machine) : Option Nat :=
  match m.caller with
  | .idle => m.inflight
  | .submitting _ t => some t
  | .closing t => some t
  | .leaving _ => none

/-- The numbers of the tasks, those that were carried out first. -/
def tickets (m : Machine) : List Nat :=
  m.finished.map (fun d => d.task.ticket) ++ m.unfinished.map Task.ticket

/-- Tasks are carried out in the order in which they were admitted, and one that is unfinished is
waited for. -/
structure Inv (m : Machine) : Prop where
  inOrder : m.tickets = List.range m.admitted
  awaits : ∀ t ∈ m.unfinished, m.awaited = some t.ticket
  known : ∀ t, m.awaited = some t → t < m.admitted
  taken : m.caller = .idle ∨ m.inflight = none
  isOpen : ∀ j t, m.caller = .submitting j t → m.closed = false
  ended : ∀ t, m.caller = .leaving (some t) → (endingIn m.finished t).isSome

variable {m : Machine}

theorem endingIn_isSome {finished : List Done} {t : Nat} :
    (endingIn finished t).isSome ↔ t ∈ finished.map fun d => d.task.ticket := by
  simp [endingIn]

theorem Inv.nodup (h : m.Inv) : m.tickets.Nodup := by
  rw [h.inOrder]
  exact List.nodup_range

/-- No task is left once the one that is waited for has ended. -/
theorem Inv.unfinished_eq_nil (h : m.Inv) {t : Nat} {e : Except Failure Path}
    (he : endingIn m.finished t = some e) (ht : m.awaited = some t) : m.unfinished = [] := by
  rw [List.eq_nil_iff_forall_not_mem]
  intro task hmem
  have heq : task.ticket = t := Option.some.inj ((h.awaits task hmem).symm.trans ht)
  have hdisjoint := (List.nodup_append.1 h.nodup).2.2
  exact hdisjoint t (endingIn_isSome.1 (by simp [he])) t (List.mem_map.2 ⟨task, hmem, heq⟩) rfl

/-- No task is left if none is waited for. -/
theorem Inv.unfinished_of_awaited (h : m.Inv) (ht : m.awaited = none) : m.unfinished = [] := by
  rw [List.eq_nil_iff_forall_not_mem]
  intro task hmem
  have hsome := h.awaits task hmem
  rw [ht] at hsome
  cases hsome

/-- Once a call is under way nothing is in flight. -/
theorem Inv.inflight_eq_none (h : m.Inv) {c : Caller} (hcaller : m.caller = c) (hc : c ≠ .idle) :
    m.inflight = none :=
  h.taken.resolve_left (hcaller ▸ hc)

/-- At most one job is unfinished. -/
theorem Inv.length_unfinished_le (h : m.Inv) : m.unfinished.length ≤ 1 := by
  have hnodup := (List.nodup_append.1 h.nodup).2.1
  rcases hu : m.unfinished with _ | ⟨a, _ | ⟨b, rest⟩⟩
  · simp
  · simp
  · have ha := h.awaits a (by simp [hu])
    have hb := h.awaits b (by simp [hu])
    rw [hu] at hnodup
    simp [Option.some.inj (ha.symm.trans hb)] at hnodup

theorem inv_start (root : Path) (calls : List Call) (w : World) : (start root calls w).Inv := by
  constructor <;> simp [start, tickets, unfinished, awaited]

theorem unfinished_take {t : Task} {rest : List Task} (hrunning : m.running = none)
    (hqueue : m.queue = t :: rest) :
    unfinished { m with running := some t, queue := rest } = m.unfinished := by
  rw [unfinished, unfinished, hrunning, hqueue]
  rfl

theorem unfinished_running {t : Task} (hrunning : m.running = some t) :
    m.unfinished = t :: m.queue := by
  rw [unfinished, hrunning]
  rfl

/-- A step that changes neither the tasks nor what is waited for. -/
theorem Inv.of_same (h : m.Inv) {m' : Machine} (hfinished : m'.finished = m.finished)
    (hunfinished : m'.unfinished = m.unfinished) (hadmitted : m'.admitted = m.admitted)
    (hawaited : m'.awaited = m.awaited) (htaken : m'.caller = .idle ∨ m'.inflight = none)
    (hopen : ∀ j t, m'.caller = .submitting j t → m'.closed = false)
    (hended : ∀ t, m'.caller = .leaving (some t) → (endingIn m'.finished t).isSome) : m'.Inv := by
  refine ⟨?_, ?_, ?_, htaken, hopen, hended⟩
  · rw [tickets, hfinished, hunfinished, hadmitted]
    exact h.inOrder
  · rw [hunfinished, hawaited]
    exact h.awaits
  · rw [hawaited, hadmitted]
    exact h.known

/-- A step behind which no task is left and none is waited for. -/
theorem Inv.of_unfinished_eq_nil (h : m.Inv) (hnil : m.unfinished = []) {m' : Machine}
    (hfinished : m'.finished = m.finished) (hunfinished : m'.unfinished = m.unfinished)
    (hadmitted : m'.admitted = m.admitted) (hawaited : m'.awaited = none)
    (hinflight : m'.inflight = none)
    (hopen : ∀ j t, m'.caller = .submitting j t → m'.closed = false)
    (hended : ∀ t, m'.caller = .leaving (some t) → (endingIn m'.finished t).isSome) : m'.Inv := by
  refine ⟨?_, ?_, ?_, Or.inr hinflight, hopen, hended⟩
  · rw [tickets, hfinished, hunfinished, hadmitted]
    exact h.inOrder
  · simp [hunfinished, hnil]
  · simp [hawaited]

/-- A job is handed over when no task is left. -/
theorem Inv.accept (h : m.Inv) (hnil : m.unfinished = []) {m' : Machine}
    (hfinished : m'.finished = m.finished) (hunfinished : m'.unfinished = m.unfinished)
    (hadmitted : m'.admitted = m.admitted) (j : Job) : (m'.accept j).Inv := by
  have hunfinished' : (m'.accept j).unfinished = [⟨m.admitted, j⟩] := by
    rw [hnil] at hunfinished
    obtain ⟨hrunning, hqueue⟩ := List.append_eq_nil_iff.1 hunfinished
    simp [unfinished, Machine.accept, reply, hqueue, hadmitted, Option.toList_eq_nil_iff.1 hrunning]
  have htickets := h.inOrder
  rw [tickets, hnil, List.map_nil, List.append_nil] at htickets
  refine ⟨?_, ?_, ?_, Or.inl rfl, nofun, nofun⟩
  · rw [tickets, hunfinished']
    simp [Machine.accept, reply, hfinished, hadmitted, htickets, List.range_succ]
  · rw [hunfinished']
    simp [awaited, Machine.accept, reply, hadmitted]
  · simp [awaited, Machine.accept, reply]

end Machine

variable {work : Path → Job → Action Path} {m m' : Machine}

theorem Step.inv (h : m.Inv) (hstep : Step work m m') : m'.Inv := by
  cases hstep with
  | refuse hidle _ _ =>
    exact h.of_same rfl rfl rfl (by simp [awaited, hidle, reply]) (Or.inl rfl) nofun nofun
  | closedAlready hidle _ _ =>
    exact h.of_same rfl rfl rfl (by simp [awaited, hidle, reply]) (Or.inl rfl) nofun nofun
  | accept hidle _ _ hnone =>
    have hnil := h.unfinished_of_awaited (by simp [awaited, hidle, hnone])
    refine h.accept hnil ?_ ?_ ?_ _ <;> rfl
  | submit hidle _ hopen hsome =>
    exact h.of_same rfl rfl rfl (by simp [awaited, hidle, hsome]) (Or.inr rfl) (fun _ _ _ => hopen)
      nofun
  | proceed hcaller hended =>
    have hnil := h.unfinished_eq_nil hended (by simp [awaited, hcaller])
    refine h.accept hnil ?_ ?_ ?_ _ <;> rfl
  | fail hcaller hended =>
    have hnil := h.unfinished_eq_nil hended (by simp [awaited, hcaller])
    have hinflight := h.inflight_eq_none hcaller nofun
    exact h.of_unfinished_eq_nil hnil rfl rfl rfl (by simp [awaited, reply, hinflight]) hinflight
      nofun nofun
  | close hidle _ _ hnone =>
    have hnil := h.unfinished_of_awaited (by simp [awaited, hidle, hnone])
    exact h.of_unfinished_eq_nil hnil rfl rfl rfl rfl hnone nofun (by simp)
  | closeBehind hidle _ _ hsome =>
    exact h.of_same rfl rfl rfl (by simp [awaited, hidle, hsome]) (Or.inr rfl) nofun nofun
  | stop hcaller hended =>
    have hnil := h.unfinished_eq_nil hended (by simp [awaited, hcaller])
    have hinflight := h.inflight_eq_none hcaller nofun
    exact h.of_unfinished_eq_nil hnil rfl rfl rfl rfl hinflight nofun (by simp [hended])
  | stopFailing hcaller hended =>
    have hnil := h.unfinished_eq_nil hended (by simp [awaited, hcaller])
    have hinflight := h.inflight_eq_none hcaller nofun
    exact h.of_unfinished_eq_nil hnil rfl rfl rfl rfl hinflight nofun (by simp [hended])
  | leave hcaller hnil _ =>
    have hinflight := h.inflight_eq_none hcaller nofun
    exact h.of_unfinished_eq_nil hnil rfl rfl rfl (by simp [awaited, reply, hinflight]) hinflight
      nofun nofun
  | leaveFailing hcaller hnil _ =>
    have hinflight := h.inflight_eq_none hcaller nofun
    exact h.of_unfinished_eq_nil hnil rfl rfl rfl (by simp [awaited, reply, hinflight]) hinflight
      nofun nofun
  | take hrunning hqueue =>
    exact h.of_same rfl (unfinished_take hrunning hqueue) rfl rfl h.taken h.isOpen h.ended
  | @finish t hrunning =>
    have hsplit := unfinished_running hrunning
    have horder := h.inOrder
    rw [tickets, hsplit] at horder
    refine ⟨?_, ?_, h.known, h.taken, h.isOpen, fun u hu => ?_⟩
    · simpa [tickets, unfinished, Machine.finish] using horder
    · exact fun u hu => h.awaits u (by rw [hsplit]; exact List.mem_cons_of_mem _ hu)
    · rw [endingIn_isSome]
      have hmem := endingIn_isSome.1 (h.ended u hu)
      simp only [Machine.finish, List.map_append]
      exact List.mem_append_left _ hmem

theorem Reachable.inv {root : Path} {calls : List Call} {w : World}
    (h : Reachable work (start root calls w) m) : m.Inv := by
  induction h with
  | refl => exact inv_start root calls w
  | tail _ hstep ih => exact hstep.inv ih

/-! ## Replies -/

/-- The number under which a call admitted a job. -/
def Reply.ticket? : Reply → Option Nat
  | .admitted t => some t
  | _ => none

/-- A call behind another one raises the failure of the job that the other admitted, and no other
failure. -/
structure Follows (finished : List Done) (r r' : Reply) : Prop where
  ended : ∀ t, r = .admitted t → (endingIn finished t).isSome
  raises : ∀ t f, r' = .raised t f ↔ r = .admitted t ∧ endingIn finished t = some (.error f)

namespace Machine

/-- What the calls led to. -/
def outcomes (m : Machine) : List Reply := m.replies.map Prod.fst

/-- The task whose failure is not raised yet, if it fails. -/
def owing (m : Machine) : Option Nat :=
  match m.caller with
  | .idle => m.inflight
  | .submitting _ t => some t
  | .closing t => some t
  | .leaving waited => waited

/-- Every failure is raised by the call behind that of its job. -/
structure History (m : Machine) : Prop where
  numbered : m.outcomes.filterMap Reply.ticket? = List.range m.admitted
  last : m.outcomes.getLast?.bind Reply.ticket? = m.owing
  first : ∀ t f, m.outcomes.head? ≠ some (.raised t f)
  chain : m.outcomes.IsChain (Follows m.finished)
  shut : m.closed = true → m.inflight = none

theorem endingIn_append {finished : List Done} {t : Nat} {e : Except Failure Path}
    (h : endingIn finished t = some e) (more : List Done) :
    endingIn (finished ++ more) t = some e := by
  obtain ⟨d, hd, rfl⟩ := Option.map_eq_some_iff.1 h
  simp [endingIn, List.find?_append, hd]

/-- What was raised stays right when more tasks are carried out. -/
theorem follows_append {finished : List Done} {r r' : Reply} (h : Follows finished r r')
    (more : List Done) : Follows (finished ++ more) r r' := by
  have hended {t : Nat} (hr : r = .admitted t) :
      endingIn (finished ++ more) t = endingIn finished t := by
    obtain ⟨e, he⟩ := Option.isSome_iff_exists.1 (h.ended t hr)
    rw [he, endingIn_append he]
  refine ⟨fun t hr => ?_, fun t f => ?_⟩
  · rw [hended hr]
    exact h.ended t hr
  · rw [h.raises t f]
    exact and_congr_right fun hr => by rw [hended hr]

theorem history_start (root : Path) (calls : List Call) (w : World) :
    (start root calls w).History := by
  constructor <;> simp [start, outcomes, owing]

/-- A step that leaves the replies alone. -/
theorem History.of_same (h : m.History) {m' : Machine} (hreplies : m'.replies = m.replies)
    (hfinished : m'.finished = m.finished) (hadmitted : m'.admitted = m.admitted)
    (howing : m'.owing = m.owing) (hshut : m'.closed = true → m'.inflight = none) : m'.History := by
  have houtcomes : m'.outcomes = m.outcomes := by rw [outcomes, outcomes, hreplies]
  refine ⟨?_, ?_, ?_, ?_, hshut⟩
  · rw [houtcomes, hadmitted]
    exact h.numbered
  · rw [houtcomes, howing]
    exact h.last
  · rw [houtcomes]
    exact h.first
  · rw [houtcomes, hfinished]
    exact h.chain

/-- A reply that raises what is owing. -/
theorem History.snoc (h : m.History) {m' : Machine} {r : Reply} {n : Nat}
    (hreplies : m'.replies = m.replies ++ [(r, n)]) (hfinished : m'.finished = m.finished)
    (hnumbered : List.range m.admitted ++ r.ticket?.toList = List.range m'.admitted)
    (howing : m'.owing = r.ticket?)
    (hended : ∀ t, m.owing = some t → (endingIn m.finished t).isSome)
    (hraises : ∀ t f, r = .raised t f ↔ m.owing = some t ∧ endingIn m.finished t = some (.error f))
    (hshut : m'.closed = true → m'.inflight = none) : m'.History := by
  have houtcomes : m'.outcomes = m.outcomes ++ [r] := by simp [outcomes, hreplies]
  have howed {r₀ : Reply} {t : Nat} (hlast : m.outcomes.getLast? = some r₀) :
      r₀ = .admitted t ↔ m.owing = some t := by
    rw [← h.last, hlast]
    cases r₀ <;> simp [Reply.ticket?]
  refine ⟨?_, ?_, fun t f hhead => ?_, ?_, hshut⟩
  · rw [houtcomes, List.filterMap_append, h.numbered, ← hnumbered]
    cases hr : r.ticket? <;> simp [hr]
  · rw [houtcomes, howing]
    simp
  · rw [houtcomes] at hhead
    cases hnil : m.outcomes with
    | nil =>
      have hnone : m.owing = none := by rw [← h.last, hnil]; rfl
      rw [hnil] at hhead
      have howes := ((hraises t f).1 (by simpa using hhead)).1
      rw [hnone] at howes
      cases howes
    | cons r₀ rest =>
      rw [hnil] at hhead
      exact h.first t f (by rw [hnil]; exact hhead)
  · rw [houtcomes, hfinished, List.isChain_append]
    refine ⟨h.chain, List.isChain_singleton r, fun r₀ hr₀ r' hr' => ?_⟩
    obtain rfl : r = r' := by simpa using hr'
    refine ⟨fun t ht => hended t ((howed hr₀).1 ht), fun t f => ?_⟩
    rw [hraises t f, howed hr₀]

/-- A reply that admits and raises nothing, when nothing is owing. -/
theorem History.reply_quiet (h : m.History) (howing : m.owing = none)
    (hinflight : m.inflight = none) (rest : List Call) {r : Reply} (hticket : r.ticket? = none)
    (hraised : ∀ t f, r ≠ .raised t f) :
    (reply { m with calls := rest } r).History := by
  refine h.snoc rfl rfl ?_ ?_ ?_ ?_ fun _ => hinflight
  · rw [hticket, reply]
    simp
  · rw [hticket]
    exact hinflight
  · simp [howing]
  · simp [howing, hraised]

/-- A reply that raises the failure that is owing. -/
theorem History.reply_raised (h : m.History) {t : Nat} {f : Failure} (howing : m.owing = some t)
    (hended : endingIn m.finished t = some (.error f)) (hinflight : m.inflight = none) :
    (m.reply (.raised t f)).History := by
  refine h.snoc rfl rfl ?_ ?_ ?_ (fun t' f' => ?_) h.shut
  · simp [Reply.ticket?, reply]
  · exact hinflight
  · simp [howing, hended]
  · rw [howing, Reply.raised.injEq, Option.some.injEq]
    refine and_congr_right fun ht => ?_
    rw [← ht, hended, Option.some.injEq, Except.error.injEq]

end Machine

theorem Step.history (h : m.History) (hinv : m.Inv) (hstep : Step work m m') : m'.History := by
  cases hstep with
  | refuse hidle _ hclosed =>
    have hnone := h.shut hclosed
    exact h.reply_quiet (by simp [owing, hidle, hnone]) hnone _ rfl nofun
  | closedAlready hidle _ hclosed =>
    have hnone := h.shut hclosed
    exact h.reply_quiet (by simp [owing, hidle, hnone]) hnone _ rfl nofun
  | accept hidle _ hopen hnone =>
    have howing : m.owing = none := by simp [owing, hidle, hnone]
    exact h.snoc rfl rfl (by simp [Reply.ticket?, Machine.accept, reply, List.range_succ])
      (by simp [owing, Machine.accept, reply, Reply.ticket?]) (by simp [howing]) (by simp [howing])
      (by simp [Machine.accept, reply, hopen])
  | @proceed j t p hcaller hended =>
    have howing : m.owing = some t := by rw [owing, hcaller]
    have hopen := hinv.isOpen j t hcaller
    refine h.snoc rfl rfl (by simp [Reply.ticket?, Machine.accept, reply, List.range_succ])
      (by simp [owing, Machine.accept, reply, Reply.ticket?]) (by simp [howing, hended])
      (fun t' f => iff_of_false nofun ?_) (by simp [Machine.accept, reply, hopen])
    rintro ⟨ht, hfailed⟩
    rw [← Option.some.inj (howing.symm.trans ht), hended] at hfailed
    cases hfailed
  | @fail j t f hcaller hended =>
    exact h.reply_raised (by rw [owing, hcaller]) hended (hinv.inflight_eq_none hcaller nofun)
  | @leaveFailing t f hcaller hnil hended =>
    exact h.reply_raised (by rw [owing, hcaller]) hended (hinv.inflight_eq_none hcaller nofun)
  | @leave waited hcaller hnil hfailing =>
    have howing : m.owing = waited := by rw [owing, hcaller]
    have hnone := hinv.inflight_eq_none hcaller nofun
    refine h.snoc rfl rfl (by simp [Reply.ticket?, reply])
      (by simp [owing, reply, Reply.ticket?, hnone]) (fun t ht => hinv.ended t ?_) (fun t f => ?_)
      h.shut
    · rw [hcaller, ← howing, ht]
    · rw [howing]
      exact iff_of_false nofun fun hraise => hfailing t f hraise.1 hraise.2
  | submit hidle _ _ hsome =>
    exact h.of_same rfl rfl rfl (by simp [owing, hidle, hsome]) fun _ => rfl
  | close hidle _ _ hnone =>
    exact h.of_same rfl rfl rfl (by simp [owing, hidle, hnone]) fun _ => hnone
  | closeBehind hidle _ _ hsome =>
    exact h.of_same rfl rfl rfl (by simp [owing, hidle, hsome]) fun _ => rfl
  | stop hcaller _ => exact h.of_same rfl rfl rfl (by simp [owing, hcaller]) h.shut
  | stopFailing hcaller _ => exact h.of_same rfl rfl rfl (by simp [owing, hcaller]) h.shut
  | take _ _ => exact h.of_same rfl rfl rfl rfl h.shut
  | finish _ =>
    exact ⟨h.numbered, h.last, h.first, h.chain.imp fun _ _ hr => follows_append hr _, h.shut⟩

theorem Reachable.history {root : Path} {calls : List Call} {w : World}
    (h : Reachable work (start root calls w) m) : m.History := by
  induction h with
  | refl => exact history_start root calls w
  | tail hreach hstep ih => exact hstep.history ih (Reachable.inv hreach)

end SourceDocs.Archive
