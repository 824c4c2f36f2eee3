import SourceDocs.Proofs.Action
import SourceDocs.Proofs.Archive.Worker

/-!
# An archive with a worker is a sequential one

`Archive.submitBy` carries a job out at once, before the call returns.  `Machine.Tracks` relates a
machine to the sequential archive that has answered the same calls; a call under way has not
happened for it yet, and a job that was handed over has been carried out.  Every step of the caller
or of the worker keeps that relation.
-/

namespace SourceDocs.Archive

open Machine

variable {work : Path → Job → Action Path}

/-! ## The sequential archive -/

/-- The failure that the next call raises. -/
def failing? (a : Archive) : Option Failure :=
  match a.pending with
  | some (.error f) => some f
  | _ => none

/-- The archive once it has been seen how the last job ended. -/
def settled (a : Archive) : Archive :=
  match a.pending with
  | some (.ok _) => { a with pending := none, written := a.written + 1 }
  | _ => { a with pending := none }

@[simp] theorem settled_root (a : Archive) : a.settled.root = a.root := by
  unfold settled
  split <;> rfl

@[simp] theorem settled_closed (a : Archive) : a.settled.closed = a.closed := by
  unfold settled
  split <;> rfl

@[simp] theorem settled_pending (a : Archive) : a.settled.pending = none := by
  unfold settled
  split <;> rfl

theorem settled_of_failing? {a : Archive} {f : Failure} (h : a.failing? = some f) :
    a.settled = { a with pending := none } := by
  unfold failing? at h
  split at h
  · rename_i hp
    simp [settled, hp]
  · cases h

theorem failing?_of_ok {a : Archive} {p : Path} (h : a.pending = some (.ok p)) :
    a.failing? = none := by
  rw [failing?, h]

theorem failing?_of_none {a : Archive} (h : a.pending = none) : a.failing? = none := by
  rw [failing?, h]

theorem failing?_of_error {a : Archive} {f : Failure} (h : a.pending = some (.error f)) :
    a.failing? = some f := by
  rw [failing?, h]

theorem settled_written_of_ok {a : Archive} {p : Path} (h : a.pending = some (.ok p)) :
    a.settled.written = a.written + 1 := by
  rw [settled, h]

theorem settled_written_of_none {a : Archive} (h : a.pending = none) :
    a.settled.written = a.written := by
  rw [settled, h]

theorem settled_written_of_error {a : Archive} {f : Failure} (h : a.pending = some (.error f)) :
    a.settled.written = a.written := by
  rw [settled, h]

theorem runWith_settle (w : World) (a : Archive) :
    settle.runWith w a =
      (match a.failing? with | some f => .error f | none => .ok (), w, a.settled) := by
  unfold settle
  rw [ActionWith.runWith_bind_ok (ActionWith.runWith_state w a)]
  obtain ⟨root, pending, closed, written⟩ := a
  rcases pending with _ | f | p <;> rfl

/-- A closed archive refuses jobs. -/
theorem runWith_submitBy_closed (work : Path → Job → Action Path) {w : World} {a : Archive}
    (h : a.closed = true) (j : Job) :
    (submitBy work j).runWith w a = (.error (.persistence .closed), w, a) := by
  unfold submitBy
  rw [ActionWith.runWith_bind_ok (ActionWith.runWith_state w a), if_pos h, ActionWith.runWith_throw]

/-- An open archive raises the failure of the last job. -/
theorem runWith_submitBy_failing (work : Path → Job → Action Path) {w : World} {a : Archive}
    (h : a.closed = false) {f : Failure} (hf : a.failing? = some f) (j : Job) :
    (submitBy work j).runWith w a = (.error f, w, { a with pending := none }) := by
  have hsettle := runWith_settle w a
  rw [hf, settled_of_failing? hf] at hsettle
  unfold submitBy
  rw [ActionWith.runWith_bind_ok (ActionWith.runWith_state w a), if_neg (by simp [h])]
  exact ActionWith.runWith_bind_error hsettle

/-- An open archive carries a job out at once. -/
theorem runWith_submitBy (work : Path → Job → Action Path) {w : World} {a : Archive}
    (h : a.closed = false) (hf : a.failing? = none) (j : Job) :
    (submitBy work j).runWith w a = (.ok ((work a.root j).runIn w).1, ((work a.root j).runIn w).2,
      { a.settled with pending := some ((work a.root j).runIn w).1 }) := by
  have hsettle := runWith_settle w a
  rw [hf] at hsettle
  unfold submitBy
  rw [ActionWith.runWith_bind_ok (ActionWith.runWith_state w a), if_neg (by simp [h]),
    ActionWith.runWith_bind_ok hsettle]
  have hattempt : (liftM (Action.attempt (work a.root j)) :
      ActionWith Archive (Except Failure Path)).runWith w a.settled =
      (.ok ((work a.root j).runIn w).1, ((work a.root j).runIn w).2, a.settled) := by simp
  rw [ActionWith.runWith_bind_ok hattempt]
  rfl

theorem runWith_close_closed {w : World} {a : Archive} (h : a.closed = true) :
    close.runWith w a = (.ok a.written, w, a) := by
  unfold close
  rw [ActionWith.runWith_bind_ok (ActionWith.runWith_state w a), if_pos h, ActionWith.runWith_pure]

theorem runWith_close_failing {w : World} {a : Archive} (h : a.closed = false) {f : Failure}
    (hf : a.failing? = some f) :
    close.runWith w a = (.error f, w, { a with closed := true, pending := none }) := by
  have hsettle := runWith_settle w { a with closed := true }
  rw [show failing? { a with closed := true } = some f from hf,
    settled_of_failing? (f := f) (by exact hf)] at hsettle
  unfold close
  rw [ActionWith.runWith_bind_ok (ActionWith.runWith_state w a), if_neg (by simp [h]),
    ActionWith.runWith_bind_ok (ActionWith.runWith_update _ w a)]
  exact ActionWith.runWith_bind_error hsettle

/-- An open archive that closes reports how many trees were written. -/
theorem runWith_close {w : World} {a : Archive} (h : a.closed = false) (hf : a.failing? = none) :
    close.runWith w a = (.ok a.settled.written,
      { w with log := .drained a.settled.written :: w.log },
      { a.settled with closed := true }) := by
  have hsettle := runWith_settle w { a with closed := true }
  have hsettled : settled { a with closed := true } = { a.settled with closed := true } := by
    obtain ⟨root, pending, closed, written⟩ := a
    rcases pending with _ | f | p <;> rfl
  rw [show failing? { a with closed := true } = none from hf, hsettled] at hsettle
  unfold close
  rw [ActionWith.runWith_bind_ok (ActionWith.runWith_state w a), if_neg (by simp [h]),
    ActionWith.runWith_bind_ok (ActionWith.runWith_update _ w a),
    ActionWith.runWith_bind_ok hsettle, ActionWith.runWith_bind_ok (ActionWith.runWith_state _ _)]
  rfl

/-! ## Answers -/

/-- What a call returned. -/
inductive Result where
  | submitted (ending : Except Failure Path)
  | closed (written : Nat)

/-- How a call ended, and the number of trees written as it can be read behind it. -/
structure Answer where
  result : Except Failure Result
  written : Nat

/-- Makes a call. -/
def answer (work : Path → Job → Action Path) : Call → ActionWith Archive Answer
  | .submit j => do
    let r ← ActionWith.attempt (submitBy work j)
    return ⟨r.map .submitted, (← ActionWith.state).written⟩
  | .close => do
    let r ← ActionWith.attempt close
    return ⟨r.map .closed, (← ActionWith.state).written⟩

/-- Makes calls one after another. -/
def serve (work : Path → Job → Action Path) : List Call → ActionWith Archive (List Answer)
  | [] => return []
  | c :: rest => do
    let x ← answer work c
    let xs ← serve work rest
    return x :: xs

theorem runWith_answer_submit (work : Path → Job → Action Path) {w w' : World} {a a' : Archive}
    {j : Job} {r : Except Failure (Except Failure Path)}
    (h : (submitBy work j).runWith w a = (r, w', a')) :
    (answer work (.submit j)).runWith w a = (.ok ⟨r.map .submitted, a'.written⟩, w', a') := by
  have hattempt := ActionWith.runWith_attempt (submitBy work j) w a
  rw [h] at hattempt
  unfold answer
  rw [ActionWith.runWith_bind_ok hattempt,
    ActionWith.runWith_bind_ok (ActionWith.runWith_state w' a')]
  rfl

theorem runWith_answer_close (work : Path → Job → Action Path) {w w' : World} {a a' : Archive}
    {r : Except Failure Nat} (h : close.runWith w a = (r, w', a')) :
    (answer work .close).runWith w a = (.ok ⟨r.map .closed, a'.written⟩, w', a') := by
  have hattempt := ActionWith.runWith_attempt close w a
  rw [h] at hattempt
  unfold answer
  rw [ActionWith.runWith_bind_ok hattempt,
    ActionWith.runWith_bind_ok (ActionWith.runWith_state w' a')]
  rfl

theorem runWith_serve_concat {calls : List Call} {c : Call} {w w₁ w₂ : World} {a a₁ a₂ : Archive}
    {xs : List Answer} {x : Answer} (h : (serve work calls).runWith w a = (.ok xs, w₁, a₁))
    (hc : (answer work c).runWith w₁ a₁ = (.ok x, w₂, a₂)) :
    (serve work (calls ++ [c])).runWith w a = (.ok (xs ++ [x]), w₂, a₂) := by
  induction calls generalizing w a xs with
  | nil =>
    obtain ⟨hxs, hstate⟩ := Prod.mk.inj h
    obtain ⟨rfl, rfl⟩ := Prod.mk.inj hstate
    obtain rfl := Except.ok.inj hxs
    rw [List.nil_append, serve, ActionWith.runWith_bind_ok hc]
    rfl
  | cons d rest ih =>
    obtain ⟨y, w', a', hd, h⟩ := ActionWith.exists_of_runWith_bind h
    obtain ⟨ys, w'', a'', hrest, h⟩ := ActionWith.exists_of_runWith_bind h
    obtain ⟨hxs, hstate⟩ := Prod.mk.inj h
    obtain ⟨rfl, rfl⟩ := Prod.mk.inj hstate
    obtain rfl := Except.ok.inj hxs
    rw [List.cons_append, serve, ActionWith.runWith_bind_ok hd,
      ActionWith.runWith_bind_ok (ih hrest)]
    rfl

/-! ## The worker ahead of time -/

/-- Carries out tasks one after another. -/
def runTasks (work : Job → Action Path) : List Task → World → List Done × World
  | [], w => ([], w)
  | t :: rest, w =>
    let (ending, w') := (work t.job).runIn w
    let (more, w'') := runTasks work rest w'
    (⟨t, ending⟩ :: more, w'')

namespace Machine

/-- All tasks with their ends, once the worker has carried out what is left. -/
def finalDone (work : Path → Job → Action Path) (m : Machine) : List Done :=
  m.finished ++ (runTasks (work m.root) m.unfinished m.world).1

/-- The world, once the worker has carried out what is left. -/
def finalWorld (work : Path → Job → Action Path) (m : Machine) : World :=
  (runTasks (work m.root) m.unfinished m.world).2

variable {m : Machine}

theorem finalDone_of_nil (work : Path → Job → Action Path) (h : m.unfinished = []) :
    m.finalDone work = m.finished := by
  rw [finalDone, h]
  exact List.append_nil _

theorem finalWorld_of_nil (work : Path → Job → Action Path) (h : m.unfinished = []) :
    m.finalWorld work = m.world := by
  rw [finalWorld, h]
  rfl

/-- What the worker does now or later is the same in the end. -/
theorem final_finish (work : Path → Job → Action Path) {t : Task} (h : m.running = some t) :
    (m.finish work t).finalDone work = m.finalDone work ∧
      (m.finish work t).finalWorld work = m.finalWorld work := by
  have hrest : (m.finish work t).unfinished = m.queue := rfl
  constructor
  · rw [finalDone, finalDone, unfinished_running h, hrest]
    simp [Machine.finish, runTasks]
  · rw [finalWorld, finalWorld, unfinished_running h, hrest]
    rfl

theorem unfinished_accept (h : m.unfinished = []) (j : Job) :
    (m.accept j).unfinished = [⟨m.admitted, j⟩] := by
  obtain ⟨hrunning, hqueue⟩ := List.append_eq_nil_iff.1 h
  simp [unfinished, accept, reply, hqueue, Option.toList_eq_nil_iff.1 hrunning]

/-- A job that is handed over will be carried out. -/
theorem final_accept (work : Path → Job → Action Path) (h : m.unfinished = []) (j : Job) :
    (m.accept j).finalDone work =
      m.finished ++ [⟨⟨m.admitted, j⟩, ((work m.root j).runIn m.world).1⟩] ∧
    (m.accept j).finalWorld work = ((work m.root j).runIn m.world).2 := by
  constructor
  · rw [finalDone, unfinished_accept h]
    rfl
  · rw [finalWorld, unfinished_accept h]
    rfl

end Machine

/-! ## The simulation -/

/-- The answer that a reply stands for, where the ends of tasks are known. -/
def Reply.answer? (done : List Done) (written : Nat) : Reply → Option Answer
  | .refused => some ⟨.error (.persistence .closed), written⟩
  | .raised _ f => some ⟨.error f, written⟩
  | .admitted t => (endingIn done t).map fun e => ⟨.ok (.submitted e), written⟩
  | .closed n => some ⟨.ok (.closed n), written⟩

theorem answer?_append {done : List Done} {n : Nat} {r : Reply} {x : Answer}
    (h : r.answer? done n = some x) (more : List Done) : r.answer? (done ++ more) n = some x := by
  cases r with
  | refused | raised | closed => exact h
  | admitted t =>
    obtain ⟨e, he, rfl⟩ := Option.map_eq_some_iff.1 h
    rw [Reply.answer?, endingIn_append he]
    rfl

/-- The jobs of the calls that admitted one. -/
def admittedJobs (calls : List Call) (replies : List Reply) : List Job :=
  (calls.zip replies).filterMap fun
    | (.submit j, .admitted _) => some j
    | _ => none

namespace Machine

/-- The call that has not ended yet. -/
def underway (m : Machine) : List Call :=
  match m.caller with
  | .idle => []
  | .submitting j _ => [.submit j]
  | .closing _ => [.close]
  | .leaving _ => [.close]

/-- All tasks, those that were carried out first. -/
def tasks (m : Machine) : List Task := m.finished.map Done.task ++ m.unfinished

/-- The replies as answers. -/
def answers (work : Path → Job → Action Path) (m : Machine) : List (Option Answer) :=
  m.replies.map fun (r, n) => r.answer? (m.finalDone work) n

/-- The archive that a machine stands for: a call under way has not happened yet. -/
structure StandsFor (work : Path → Job → Action Path) (m : Machine) (a : Archive) : Prop where
  root : a.root = m.root
  pending : a.pending = m.owing.bind (endingIn (m.finalDone work))
  closed : match m.caller with
    | .idle => a.closed = m.closed
    | .submitting _ _ => a.closed = false ∧ m.closed = false
    | .closing _ => a.closed = false ∧ m.closed = true
    | .leaving _ => a.closed = false ∧ m.closed = true
  written : (match m.caller with | .leaving _ => a.settled.written | _ => a.written) = m.written

/-- A machine that was started with `calls` has come as far as the sequential archive that has
answered the calls `made`. -/
structure Tracks (work : Path → Job → Action Path) (calls : List Call) (w : World) (m : Machine)
    (made : List Call) (answers : List Answer) (a : Archive) : Prop where
  split : calls = made ++ (m.underway ++ m.calls)
  length : made.length = m.replies.length
  served : (serve work made).runWith w { root := m.root } = (.ok answers, m.finalWorld work, a)
  stands : m.StandsFor work a
  same : m.answers work = answers.map some
  jobs : m.tasks.map Task.job = admittedJobs made m.outcomes

variable {m m' : Machine} {calls made : List Call} {w : World} {xs : List Answer} {a a' : Archive}

theorem tracks_start (root : Path) (calls : List Call) (w : World) :
    Tracks work calls w (start root calls w) [] [] { root } := by
  constructor
  · rfl
  · rfl
  · rfl
  · constructor <;> rfl
  · rfl
  · rfl

/-- A step that the sequential archive does not see. -/
theorem Tracks.of_same (h : Tracks work calls w m made xs a) (hroot : m'.root = m.root)
    (hcalls : m'.underway ++ m'.calls = m.underway ++ m.calls) (hreplies : m'.replies = m.replies)
    (hdone : m'.finalDone work = m.finalDone work)
    (hworld : m'.finalWorld work = m.finalWorld work)
    (htasks : m'.tasks = m.tasks) (hstands : m'.StandsFor work a) :
    Tracks work calls w m' made xs a := by
  refine ⟨?_, ?_, ?_, hstands, ?_, ?_⟩
  · rw [hcalls]
    exact h.split
  · rw [hreplies]
    exact h.length
  · rw [hroot, hworld]
    exact h.served
  · rw [answers, hreplies, hdone]
    exact h.same
  · rw [htasks, outcomes, hreplies]
    exact h.jobs

/-- A step that ends a call. -/
theorem Tracks.snoc (h : Tracks work calls w m made xs a) {c : Call} {r : Reply} {n : Nat}
    {x : Answer} (more : List Done) (new : List Task) (hroot : m'.root = m.root)
    (hcalls : m.underway ++ m.calls = c :: (m'.underway ++ m'.calls))
    (hreplies : m'.replies = m.replies ++ [(r, n)])
    (hdone : m'.finalDone work = m.finalDone work ++ more)
    (htasks : m'.tasks = m.tasks ++ new) (hnew : new.map Task.job = admittedJobs [c] [r])
    (hx : r.answer? (m'.finalDone work) n = some x)
    (hanswer : (answer work c).runWith (m.finalWorld work) a = (.ok x, m'.finalWorld work, a'))
    (hstands : m'.StandsFor work a') :
    Tracks work calls w m' (made ++ [c]) (xs ++ [x]) a' := by
  have houtcomes : m'.outcomes = m.outcomes ++ [r] := by simp [outcomes, hreplies]
  have hlength : made.length = m.outcomes.length := by simp [outcomes, h.length]
  refine ⟨?_, ?_, ?_, hstands, ?_, ?_⟩
  · rw [h.split, hcalls]
    simp
  · simp [hreplies, h.length]
  · rw [hroot]
    exact runWith_serve_concat h.served hanswer
  · rw [answers, hreplies, List.map_append, List.map_append]
    congr 1
    · rw [← h.same, answers]
      refine List.map_congr_left ?_
      rintro ⟨r₀, n₀⟩ hmem
      have hknown : r₀.answer? (m.finalDone work) n₀ ∈ xs.map some := by
        rw [← h.same, answers]
        exact List.mem_map.2 ⟨(r₀, n₀), hmem, rfl⟩
      obtain ⟨z, -, hz⟩ := List.mem_map.1 hknown
      simp only [hdone]
      rw [← hz, answer?_append hz.symm]
    · simp [hx]
  · rw [htasks, houtcomes, List.map_append, h.jobs, hnew, admittedJobs, admittedJobs, admittedJobs,
      List.zip_append hlength, List.filterMap_append]

/-! ### Steps -/

theorem tasks_eq_of_unfinished (hfinished : m'.finished = m.finished)
    (hunfinished : m'.unfinished = m.unfinished) : m'.tasks = m.tasks := by
  rw [tasks, tasks, hfinished, hunfinished]

/-- A step of the caller that ends no call. -/
theorem Tracks.of_caller (h : Tracks work calls w m made xs a) (hroot : m'.root = m.root)
    (hcalls : m'.underway ++ m'.calls = m.underway ++ m.calls) (hreplies : m'.replies = m.replies)
    (hfinished : m'.finished = m.finished) (hunfinished : m'.unfinished = m.unfinished)
    (hworld : m'.world = m.world) (hstands : m'.StandsFor work a) :
    Tracks work calls w m' made xs a := by
  refine h.of_same hroot hcalls hreplies ?_ ?_ (tasks_eq_of_unfinished hfinished hunfinished)
    hstands
  · rw [finalDone, finalDone, hfinished, hunfinished, hroot, hworld]
  · rw [finalWorld, finalWorld, hunfinished, hroot, hworld]

theorem Tracks.take (h : Tracks work calls w m made xs a) {t : Task} {rest : List Task}
    (hrunning : m.running = none) (hqueue : m.queue = t :: rest) :
    Tracks work calls w { m with running := some t, queue := rest } made xs a := by
  have hunfinished := unfinished_take hrunning hqueue
  refine h.of_caller rfl rfl rfl rfl hunfinished rfl ?_
  refine ⟨h.stands.root, ?_, h.stands.closed, h.stands.written⟩
  rw [finalDone, hunfinished]
  exact h.stands.pending

theorem Tracks.finish (h : Tracks work calls w m made xs a) {t : Task}
    (hrunning : m.running = some t) :
    Tracks work calls w (m.finish work t) made xs a := by
  obtain ⟨hdone, hworld⟩ := final_finish work hrunning
  refine h.of_same rfl rfl rfl hdone hworld ?_ ?_
  · rw [tasks, tasks, unfinished_running hrunning]
    simp [Machine.finish, unfinished]
  · refine ⟨h.stands.root, ?_, h.stands.closed, h.stands.written⟩
    rw [hdone]
    exact h.stands.pending

/-- A call that changes nothing. -/
theorem Tracks.reply_unchanged (h : Tracks work calls w m made xs a) (hidle : m.caller = .idle)
    {c : Call} {rest : List Call} (hcalls : m.calls = c :: rest) {r : Reply} {x : Answer}
    (hjobs : admittedJobs [c] [r] = []) (hx : r.answer? (m.finalDone work) m.written = some x)
    (hanswer : (answer work c).runWith (m.finalWorld work) a = (.ok x, m.finalWorld work, a)) :
    Tracks work calls w (reply { m with calls := rest } r) (made ++ [c]) (xs ++ [x]) a := by
  refine h.snoc [] [] rfl ?_ rfl ?_ ?_ ?_ hx hanswer ?_
  · simp [underway, hidle, hcalls, reply]
  · exact (List.append_nil _).symm
  · exact (List.append_nil _).symm
  · rw [hjobs]
    rfl
  · have hclosed := h.stands.closed
    have hwritten := h.stands.written
    have hpending := h.stands.pending
    rw [hidle] at hclosed hwritten
    rw [owing, hidle] at hpending
    exact ⟨h.stands.root, hpending, hclosed, hwritten⟩

/-- A call that raises the failure that is owing. -/
theorem Tracks.reply_raised (h : Tracks work calls w m made xs a) {c : Call} {t : Nat} {f : Failure}
    (hcalls : m.underway = [c]) (hinflight : m.inflight = none)
    (hanswer : (answer work c).runWith (m.finalWorld work) a =
      (.ok ⟨.error f, a'.written⟩, m.finalWorld work, a'))
    (hroot : a'.root = m.root) (hpending : a'.pending = none) (hclosed : a'.closed = m.closed)
    (hwritten : a'.written = m.written) :
    Tracks work calls w (m.reply (.raised t f)) (made ++ [c]) (xs ++ [⟨.error f, m.written⟩])
      a' := by
  rw [hwritten] at hanswer
  refine h.snoc [] [] rfl ?_ rfl ?_ ?_ ?_ rfl hanswer ?_
  · rw [hcalls]
    rfl
  · exact (List.append_nil _).symm
  · exact (List.append_nil _).symm
  · cases c <;> rfl
  · refine ⟨hroot, ?_, hclosed, hwritten⟩
    rw [hpending, owing, reply, hinflight]
    rfl

/-- A call that hands over a job, once it is known how the job before ended. -/
theorem Tracks.accept (h : Tracks work calls w m made xs a) (hinv : m.Inv)
    (hnil : m.unfinished = []) (j : Job) {b : Machine} (hroot : b.root = m.root)
    (hworld : b.world = m.world) (hfinished : b.finished = m.finished)
    (hunfinished : b.unfinished = m.unfinished) (hadmitted : b.admitted = m.admitted)
    (hreplies : b.replies = m.replies) (hcalls : m.underway ++ m.calls = .submit j :: b.calls)
    (hopen : b.closed = false) (hclosed : a.closed = false) (hfailing : a.failing? = none)
    (hwritten : a.settled.written = b.written) :
    ∃ x a', Tracks work calls w (b.accept j) (made ++ [.submit j]) (xs ++ [x]) a' := by
  have hbnil : b.unfinished = [] := by rw [hunfinished, hnil]
  obtain ⟨hdone, hfinal⟩ := final_accept work hbnil j
  have hrun := runWith_submitBy work (w := m.finalWorld work) hclosed hfailing j
  rw [h.stands.root, finalWorld_of_nil work hnil] at hrun
  have hanswer := runWith_answer_submit work hrun
  have hnew : endingIn m.finished m.admitted = none := by
    rw [← Option.not_isSome_iff_eq_none, endingIn_isSome]
    intro hmem
    have hticket : m.admitted ∈ m.tickets := List.mem_append_left _ hmem
    rw [hinv.inOrder, List.mem_range] at hticket
    exact lt_irrefl _ hticket
  have hending : endingIn ((b.accept j).finalDone work) m.admitted =
      some ((work m.root j).runIn m.world).1 := by
    rw [hdone, hfinished, hadmitted, hroot, hworld]
    have hfind : m.finished.find? (fun d => d.task.ticket = m.admitted) = none := by
      simpa [endingIn] using hnew
    simp [endingIn, List.find?_append, hfind]
  refine ⟨_, _, h.snoc [⟨⟨m.admitted, j⟩, ((work m.root j).runIn m.world).1⟩] [⟨m.admitted, j⟩]
    hroot ?_ (by rw [Machine.accept, reply, hreplies]) ?_ ?_ rfl ?_
    (by rw [finalWorld_of_nil work hnil, hfinal, hroot, hworld]; exact hanswer) ?_⟩
  · exact hcalls
  · rw [hdone, finalDone_of_nil work hnil, hfinished, hadmitted, hroot, hworld]
  · rw [tasks, tasks, hnil, unfinished_accept hbnil, hadmitted, List.append_nil, ← hfinished]
    rfl
  · rw [Reply.answer?, hadmitted, hending, hwritten]
    rfl
  · refine ⟨?_, ?_, ?_, hwritten⟩
    · exact (settled_root a).trans (h.stands.root.trans hroot.symm)
    · have howing : (b.accept j).owing = some m.admitted := by
        rw [← hadmitted]
        rfl
      rw [howing, Option.bind_some, hending]
    · exact (settled_closed a).trans (hclosed.trans hopen.symm)

/-- The failure or success that the archive waits for is that of the task that is owing. -/
theorem Tracks.pending_eq (h : Tracks work calls w m made xs a) (hnil : m.unfinished = []) {t : Nat}
    {e : Except Failure Path} (howing : m.owing = some t)
    (he : endingIn m.finished t = some e) : a.pending = some e := by
  rw [h.stands.pending, howing, Option.bind_some, finalDone_of_nil work hnil, he]

/-- A call that closes the archive when no failure is owing. -/
theorem Tracks.leave (h : Tracks work calls w m made xs a) (hinv : m.Inv) {waited : Option Nat}
    (hcaller : m.caller = .leaving waited) (hnil : m.unfinished = [])
    (hfailing : ∀ t f, waited = some t → endingIn m.finished t ≠ some (.error f)) :
    ∃ made' xs' a', Tracks work calls w (reply { m with
      world := { m.world with log := .drained m.written :: m.world.log } } (.closed m.written))
      made' xs' a' := by
  have hclosed := h.stands.closed
  have hwritten := h.stands.written
  have hpending := h.stands.pending
  have howing : m.owing = waited := by rw [owing, hcaller]
  rw [howing, finalDone_of_nil work hnil] at hpending
  rw [hcaller] at hclosed hwritten
  change a.settled.written = m.written at hwritten
  have hquiet : a.failing? = none := by
    cases waited with
    | none => exact failing?_of_none hpending
    | some t =>
      cases hended : endingIn m.finished t with
      | none => exact failing?_of_none (hpending.trans hended)
      | some e =>
        cases e with
        | error f => exact absurd hended (hfailing t f rfl)
        | ok p => exact failing?_of_ok (hpending.trans hended)
  have hanswer := runWith_answer_close work
    (runWith_close (w := m.finalWorld work) hclosed.1 hquiet)
  have hworld := finalWorld_of_nil work hnil
  simp only [hwritten, hworld] at hanswer
  refine ⟨_, _, { a.settled with closed := true, written := m.written },
    h.snoc (c := .close) [] [] rfl ?_ rfl ?_ (List.append_nil _).symm rfl rfl ?_ ?_⟩
  · rw [underway, hcaller]
    rfl
  · rw [finalDone_of_nil work hnil, finalDone_of_nil work (by exact hnil)]
    exact (List.append_nil _).symm
  · rw [hworld, finalWorld_of_nil work (by exact hnil)]
    exact hanswer
  · refine ⟨(settled_root a).trans h.stands.root, ?_, hclosed.2.symm, rfl⟩
    rw [owing, reply, hinv.inflight_eq_none hcaller Caller.noConfusion]
    exact settled_pending a

end Machine

variable {m m' : Machine} {calls made : List Call} {w : World} {xs : List Answer} {a : Archive}

/-- Whatever the caller or the worker does next, the sequential archive follows. -/
theorem Step.tracks (h : Tracks work calls w m made xs a) (hinv : m.Inv)
    (hstep : Step work m m') : ∃ made' xs' a', Tracks work calls w m' made' xs' a' := by
  have hclosed := h.stands.closed
  have hwritten := h.stands.written
  have hpending := h.stands.pending
  cases hstep with
  | take hrunning hqueue => exact ⟨made, xs, a, h.take hrunning hqueue⟩
  | finish hrunning => exact ⟨made, xs, a, h.finish hrunning⟩
  | @refuse j rest hidle hcalls hshut =>
    rw [hidle] at hclosed hwritten
    have hanswer := runWith_answer_submit work
      (runWith_submitBy_closed work (w := m.finalWorld work) (hclosed.trans hshut) j)
    rw [show a.written = m.written from hwritten] at hanswer
    exact ⟨_, _, a, h.reply_unchanged hidle hcalls rfl rfl hanswer⟩
  | @closedAlready rest hidle hcalls hshut =>
    rw [hidle] at hclosed hwritten
    have hanswer := runWith_answer_close work
      (runWith_close_closed (w := m.finalWorld work) (hclosed.trans hshut))
    rw [show a.written = m.written from hwritten] at hanswer
    exact ⟨_, _, a, h.reply_unchanged hidle hcalls rfl rfl hanswer⟩
  | @accept j rest hidle hcalls hopen hnone =>
    rw [hidle] at hclosed hwritten
    have hnil := hinv.unfinished_of_awaited (by simp [awaited, hidle, hnone])
    have hnothing : a.pending = none := by
      rw [hpending, owing, hidle]
      simp [hnone]
    obtain ⟨x, a', htracks⟩ := h.accept (b := { m with calls := rest }) hinv hnil j rfl rfl rfl rfl
      rfl rfl (by simp [underway, hidle, hcalls]) hopen (hclosed.trans hopen)
      (failing?_of_none hnothing) ((settled_written_of_none hnothing).trans hwritten)
    exact ⟨_, _, a', htracks⟩
  | @proceed j t p hcaller hended =>
    rw [hcaller] at hclosed hwritten
    have hnil := hinv.unfinished_eq_nil hended (by simp [awaited, hcaller])
    have hok := h.pending_eq hnil (by simp [owing, hcaller]) hended
    obtain ⟨x, a', htracks⟩ := h.accept (b := { m with written := m.written + 1 }) hinv hnil j rfl
      rfl rfl rfl rfl rfl (by simp [underway, hcaller]) hclosed.2 hclosed.1 (failing?_of_ok hok)
      ((settled_written_of_ok hok).trans (congrArg (· + 1) hwritten))
    exact ⟨_, _, a', htracks⟩
  | @fail j t f hcaller hended =>
    rw [hcaller] at hclosed hwritten
    have hnil := hinv.unfinished_eq_nil hended (by simp [awaited, hcaller])
    have herror := h.pending_eq hnil (by simp [owing, hcaller]) hended
    have hanswer := runWith_answer_submit work (runWith_submitBy_failing work
      (w := m.finalWorld work) hclosed.1 (failing?_of_error herror) j)
    exact ⟨_, _, _, h.reply_raised (by simp [underway, hcaller])
      (hinv.inflight_eq_none hcaller Caller.noConfusion) hanswer h.stands.root rfl
      (hclosed.1.trans hclosed.2.symm) hwritten⟩
  | @submit j rest t hidle hcalls hopen hsome =>
    rw [hidle] at hclosed hwritten
    refine ⟨made, xs, a, h.of_caller rfl ?_ rfl rfl rfl rfl ?_⟩
    · simp [underway, hidle, hcalls]
    · refine ⟨h.stands.root, ?_, ⟨hclosed.trans hopen, hopen⟩, hwritten⟩
      rw [hpending, owing, hidle, hsome]
      rfl
  | @close rest hidle hcalls hopen hnone =>
    rw [hidle] at hclosed hwritten
    rw [owing, hidle, hnone] at hpending
    refine ⟨made, xs, a, h.of_caller rfl ?_ rfl rfl rfl rfl ?_⟩
    · simp [underway, hidle, hcalls]
    · exact ⟨h.stands.root, hpending, ⟨hclosed.trans hopen, rfl⟩,
        (settled_written_of_none hpending).trans hwritten⟩
  | @closeBehind rest t hidle hcalls hopen hsome =>
    rw [hidle] at hclosed hwritten
    refine ⟨made, xs, a, h.of_caller rfl ?_ rfl rfl rfl rfl ?_⟩
    · simp [underway, hidle, hcalls]
    · refine ⟨h.stands.root, ?_, ⟨hclosed.trans hopen, rfl⟩, hwritten⟩
      rw [hpending, owing, hidle, hsome]
      rfl
  | @stop t p hcaller hended =>
    rw [hcaller] at hclosed hwritten
    have hnil := hinv.unfinished_eq_nil hended (by simp [awaited, hcaller])
    have hok := h.pending_eq hnil (by simp [owing, hcaller]) hended
    refine ⟨made, xs, a, h.of_caller rfl ?_ rfl rfl rfl rfl ?_⟩
    · simp [underway, hcaller]
    · refine ⟨h.stands.root, ?_, hclosed,
        (settled_written_of_ok hok).trans (congrArg (· + 1) hwritten)⟩
      rw [hpending, owing, hcaller]
      rfl
  | @stopFailing t f hcaller hended =>
    rw [hcaller] at hclosed hwritten
    have hnil := hinv.unfinished_eq_nil hended (by simp [awaited, hcaller])
    have herror := h.pending_eq hnil (by simp [owing, hcaller]) hended
    refine ⟨made, xs, a, h.of_caller rfl ?_ rfl rfl rfl rfl ?_⟩
    · simp [underway, hcaller]
    · refine ⟨h.stands.root, ?_, hclosed, (settled_written_of_error herror).trans hwritten⟩
      rw [hpending, owing, hcaller]
      rfl
  | leave hcaller hnil hfailing => exact h.leave hinv hcaller hnil hfailing
  | @leaveFailing t f hcaller hnil hended =>
    rw [hcaller] at hclosed hwritten
    have herror := h.pending_eq hnil (by simp [owing, hcaller]) hended
    have hanswer := runWith_answer_close work
      (runWith_close_failing (w := m.finalWorld work) hclosed.1 (failing?_of_error herror))
    exact ⟨_, _, _, h.reply_raised (by simp [underway, hcaller])
      (hinv.inflight_eq_none hcaller Caller.noConfusion) hanswer h.stands.root rfl hclosed.2.symm
      ((settled_written_of_error herror).symm.trans hwritten)⟩

theorem Reachable.tracks {root : Path} (h : Reachable work (start root calls w) m) :
    ∃ made xs a, Tracks work calls w m made xs a := by
  induction h with
  | refl => exact ⟨[], [], _, tracks_start root calls w⟩
  | tail hreach hstep ih =>
    obtain ⟨made, xs, a, htracks⟩ := ih
    exact hstep.tracks htracks (Reachable.inv hreach)

end SourceDocs.Archive
