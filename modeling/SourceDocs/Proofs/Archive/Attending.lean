import SourceDocs.Proofs.Archive.Faithful
import SourceDocs.Proofs.Archive.Session

/-!
# Sessions and the sequential archive

The sequential archive answers to submits, closes and aborts what the archive with a worker does
(`Session.Before.sequential`, `Session.Behind.sequential`).  What an abort takes away is the effect
of a job, which the sequential archive has carried out by then, but no answer depends on it.
-/

namespace SourceDocs.Archive

open Machine

variable {work : Path → Job → Action Path} {m m' : Machine} {w : World}

/-! ## The sequential archive -/

/-- What the sequential archive does with orders, and what it answers to the calls among them. -/
def attend (work : Path → Job → Action Path) :
    List Order → ActionWith Archive (List (Option Answer))
  | [] => return []
  | .call c :: rest => do
    let x ← answer work c
    let xs ← attend work rest
    return some x :: xs
  | .abort :: rest => do
    abort
    let xs ← attend work rest
    return none :: xs

/-- An ending stands for an answer, where the ends of tasks are known. -/
inductive Ending.Stands (done : List Done) : Ending → Option Answer → Prop where
  | call {c : Call} {r : Reply} {n : Nat} {x : Answer} : r.answer? done n = some x →
      Stands done (.call c r n) (some x)
  | abort : Stands done .abort none

theorem runWith_attend_append {os os' : List Order} {w w₁ w₂ : World} {a a₁ a₂ : Archive}
    {xs ys : List (Option Answer)} (h : (attend work os).runWith w a = (.ok xs, w₁, a₁))
    (h' : (attend work os').runWith w₁ a₁ = (.ok ys, w₂, a₂)) :
    (attend work (os ++ os')).runWith w a = (.ok (xs ++ ys), w₂, a₂) := by
  induction os generalizing w a xs with
  | nil =>
    cases h
    exact h'
  | cons o rest ih =>
    cases o with
    | call c =>
      obtain ⟨x, v, b, hc, h⟩ := ActionWith.exists_of_runWith_bind h
      obtain ⟨zs, v', b', hrest, h⟩ := ActionWith.exists_of_runWith_bind h
      cases h
      rw [List.cons_append, attend, ActionWith.runWith_bind_ok hc,
        ActionWith.runWith_bind_ok (ih hrest)]
      rfl
    | abort =>
      obtain ⟨_, v, b, hc, h⟩ := ActionWith.exists_of_runWith_bind h
      obtain ⟨zs, v', b', hrest, h⟩ := ActionWith.exists_of_runWith_bind h
      cases h
      rw [List.cons_append, attend, ActionWith.runWith_bind_ok hc,
        ActionWith.runWith_bind_ok (ih hrest)]
      rfl

theorem runWith_attend_call {c : Call} {w v : World} {a b : Archive} {x : Answer}
    (h : (answer work c).runWith w a = (.ok x, v, b)) :
    (attend work [.call c]).runWith w a = (.ok [some x], v, b) := by
  rw [attend, ActionWith.runWith_bind_ok h]
  rfl

theorem runWith_attend_abort (work : Path → Job → Action Path) (w : World) (a : Archive) :
    (attend work [.abort]).runWith w a =
      (.ok [none], w, { a with closed := true, pending := none }) := rfl

/-- Without aborts, the orders are calls. -/
theorem runWith_attend_calls {calls : List Call} {w v : World} {a b : Archive} {xs : List Answer}
    (h : (serve work calls).runWith w a = (.ok xs, v, b)) :
    (attend work (calls.map .call)).runWith w a = (.ok (xs.map some), v, b) := by
  induction calls generalizing w a xs with
  | nil =>
    cases h
    rfl
  | cons c rest ih =>
    obtain ⟨x, w₁, a₁, hc, h⟩ := ActionWith.exists_of_runWith_bind h
    obtain ⟨ys, w₂, a₂, hrest, h⟩ := ActionWith.exists_of_runWith_bind h
    cases h
    rw [List.map_cons, attend, ActionWith.runWith_bind_ok hc,
      ActionWith.runWith_bind_ok (ih hrest)]
    rfl

/-- A closed archive answers as a closed machine replies. -/
theorem runWith_answer_closed (work : Path → Job → Action Path) {a : Archive}
    (hclosed : a.closed = true) (hwritten : a.written = m.written) (c : Call) (v : World)
    (done : List Done) :
    ∃ x, (answer work c).runWith v a = (.ok x, v, a) ∧
      (m.turnAway c).answer? done m.written = some x := by
  cases c with
  | submit j =>
    refine ⟨_, runWith_answer_submit work (runWith_submitBy_closed work hclosed j), ?_⟩
    rw [← hwritten]
    rfl
  | close =>
    refine ⟨_, runWith_answer_close work (runWith_close_closed hclosed), ?_⟩
    rw [turnAway, ← hwritten]
    rfl

/-! ## Whole sessions -/

/-- The endings of calls without an abort. -/
def endings (calls : List Call) (replies : List (Reply × Nat)) : List Ending :=
  (calls.zip replies).map fun (c, r, n) => .call c r n

theorem endings_concat {made rest : List Call} {c : Call} {replies : List (Reply × Nat)}
    (hlength : made.length = replies.length) (r : Reply) (n : Nat) :
    endings (made ++ c :: rest) (replies ++ [(r, n)]) =
      endings (made ++ c :: rest) replies ++ [.call c r n] := by
  have hshort : (made ++ c :: rest).zip replies = made.zip replies := by
    conv_lhs => rw [← List.append_nil replies]
    rw [List.zip_append hlength, List.zip_nil_right, List.append_nil]
  rw [endings, endings, hshort, List.zip_append hlength, List.map_append, List.zip_cons_cons,
    List.zip_nil_right]
  rfl

theorem endings_of_length {made rest : List Call} {replies : List (Reply × Nat)}
    (hlength : made.length = replies.length) :
    endings (made ++ rest) replies = endings made replies := by
  rw [endings, endings]
  conv_lhs => rw [← List.append_nil replies]
  rw [List.zip_append hlength, List.zip_nil_right, List.append_nil]

theorem map_order_endings {made : List Call} {replies : List (Reply × Nat)}
    (hlength : made.length = replies.length) :
    (endings made replies).map Ending.order = made.map .call := by
  have hfirst : (made.zip replies).map Prod.fst = made := List.map_fst_zip hlength.le
  conv_rhs => rw [← hfirst]
  rw [endings, List.map_map, List.map_map]
  rfl

theorem job?_endings (made : List Call) (replies : List (Reply × Nat)) :
    (endings made replies).filterMap Ending.job? = admittedJobs made (replies.map Prod.fst) := by
  rw [endings, admittedJobs, List.zip_map_right, List.filterMap_map, List.filterMap_map]
  refine List.filterMap_congr fun e _ => ?_
  obtain ⟨c, r, n⟩ := e
  cases c <;> cases r <;> rfl

theorem forall₂_stands {made : List Call} {replies : List (Reply × Nat)} {done : List Done}
    {xs : List Answer} (hlength : made.length = replies.length)
    (h : replies.map (fun (r, n) => r.answer? done n) = xs.map some) :
    List.Forall₂ (Ending.Stands done) (endings made replies) (xs.map some) := by
  induction made generalizing replies xs with
  | nil =>
    obtain rfl := List.length_eq_zero_iff.1 hlength.symm
    obtain rfl := List.map_eq_nil_iff.1 h.symm
    exact .nil
  | cons c rest ih =>
    cases replies with
    | nil => cases hlength
    | cons e more =>
      cases xs with
      | nil => cases h
      | cons x ys =>
        obtain ⟨hx, hrest⟩ := List.cons.inj h
        exact .cons (.call hx) (ih (Nat.succ.inj hlength) hrest)

theorem prefix_runTasks {f : Job → Action Path} {ts us : List Task} (h : ts <+: us) (w : World) :
    (runTasks f ts w).1 <+: (runTasks f us w).1 := by
  induction ts generalizing us w with
  | nil => exact List.nil_prefix
  | cons t rest ih =>
    obtain ⟨more, rfl⟩ := h
    rw [List.cons_append, runTasks, runTasks]
    exact (List.prefix_cons_inj _).2 (ih (List.prefix_append rest more) _)

namespace Session

variable {s s' : Session} {root : Path} {first : List Call}

/-- Before the first abort, a session is a machine. -/
structure Before (work : Path → Job → Action Path) (root : Path) (first : List Call) (w : World)
    (s : Session) : Prop where
  notAborting : s.aborting = false
  ended : s.ended = endings first s.machine.replies
  reachable : Archive.Reachable work (.start root first w) s.machine

/-- Behind the beginning of the first abort. -/
structure Behind (work : Path → Job → Action Path) (root : Path) (w : World) (s : Session) :
    Prop where
  adrift : s.machine.Adrift work w
  sameRoot : s.machine.root = root
  sequential : ∃ xs v a done,
    (attend work (s.ended.map Ending.order)).runWith w { root } = (.ok xs, v, a) ∧
    List.Forall₂ (Ending.Stands done) s.ended xs ∧ s.machine.finalDone work <+: done ∧
    a.written = s.machine.written ∧ (s.aborting = false → a.closed = true)
  jobs : s.machine.tasks.map Task.job <+: s.ended.filterMap Ending.job?
  admitted : (s.ended.filterMap Ending.job?).length = s.machine.admitted
  waiting : s.aborting = true → s.machine.calls = []

/-- The jobs of a machine are those of the submits that were admitted. -/
theorem Before.jobs (h : Before work root first w s) :
    s.machine.tasks.map Task.job = s.ended.filterMap Ending.job? ∧
      (s.ended.filterMap Ending.job?).length = s.machine.admitted := by
  obtain ⟨made, xs, a, htracks⟩ := h.reachable.tracks
  have hjobs : s.machine.tasks.map Task.job = s.ended.filterMap Ending.job? := by
    rw [htracks.jobs, h.ended, htracks.split, endings_of_length htracks.length, job?_endings]
    rfl
  refine ⟨hjobs, ?_⟩
  have horder := congrArg List.length h.reachable.inv.inOrder
  rw [tickets_eq_tasks, List.length_map, List.length_range] at horder
  rw [← hjobs, List.length_map, horder]

theorem Before.sequential (h : Before work root first w s) :
    ∃ xs a, (attend work (s.ended.map Ending.order)).runWith w { root } =
        (.ok xs, s.machine.finalWorld work, a) ∧
      List.Forall₂ (Ending.Stands (s.machine.finalDone work)) s.ended xs ∧
      (s.machine.caller = .idle →
        a.closed = s.machine.closed ∧ a.written = s.machine.written) := by
  obtain ⟨made, xs, a, htracks⟩ := h.reachable.tracks
  have hended : s.ended = endings made s.machine.replies := by
    rw [h.ended, htracks.split, endings_of_length htracks.length]
  have hserved := htracks.served
  rw [h.reachable.root_eq] at hserved
  refine ⟨xs.map some, a, ?_, ?_, fun hidle => ?_⟩
  · rw [hended, map_order_endings htracks.length]
    exact runWith_attend_calls hserved
  · rw [hended]
    exact forall₂_stands htracks.length htracks.same
  · have hclosed := htracks.stands.closed
    have hwritten := htracks.stands.written
    rw [hidle] at hclosed hwritten
    exact ⟨hclosed, hwritten⟩

theorem Before.step (h : Before work root first w s) (hstep : Step work s s') :
    Before work root first w s' ∨ Behind work root w s' := by
  cases hstep with
  | go hstep hreplies =>
    refine .inl ⟨h.notAborting, ?_, h.reachable.tail hstep⟩
    rw [hreplies]
    exact h.ended
  | @reply m c rest r n hstep hcall hreplies =>
    obtain ⟨made, xs, a, htracks⟩ := h.reachable.tracks
    have hsplit := htracks.split
    rw [hcall] at hsplit
    refine .inl ⟨h.notAborting, ?_, h.reachable.tail hstep⟩
    rw [hreplies, h.ended, hsplit, endings_concat htracks.length]
  | beginAbort hidle hcalls _ _ =>
    obtain ⟨xs, a, hserved, hstands, hsame⟩ := h.sequential
    obtain ⟨hjobs, hadmitted⟩ := h.jobs
    refine .inr ⟨h.reachable.accounts.beginAbort h.reachable.inv hidle, h.reachable.root_eq,
      ⟨xs, s.machine.finalWorld work, a, s.machine.finalDone work, hserved, hstands,
        List.prefix_refl _, (hsame hidle).2, Bool.noConfusion⟩, ?_, hadmitted, fun _ => hcalls⟩
    exact hjobs ▸ List.prefix_refl _
  | endAbort haborting _ =>
    rw [h.notAborting] at haborting
    cases haborting

/-- Behind an abort, the worker may go on. -/
theorem Behind.go (h : Behind work root w s) {m : Machine} (hstep : Archive.Step work s.machine m)
    (hreplies : m.replies = s.machine.replies) : Behind work root w { s with machine := m } := by
  obtain ⟨xs, v, a, done, hserved, hstands, hdone, hwritten, hclosed⟩ := h.sequential
  have hstays := hstep.stays h.adrift.shut
  have hsame : m.finalDone work = s.machine.finalDone work ∧ m.calls = s.machine.calls := by
    rcases hstep.of_shut h.adrift.shut with ⟨c, rest, -, rfl⟩ | ⟨t, rest, hrunning, hqueue, rfl⟩ |
      ⟨t, hrunning, rfl⟩
    · simp [Machine.reply] at hreplies
    · refine ⟨?_, rfl⟩
      rw [finalDone, unfinished_take hrunning hqueue]
      rfl
    · exact ⟨(final_finish work hrunning).1, rfl⟩
  refine ⟨h.adrift.step hstep, hstep.root_eq.trans h.sameRoot,
    ⟨xs, v, a, done, hserved, hstands, ?_, hwritten.trans hstays.written.symm, hclosed⟩,
    (hstays.tasks.map Task.job).trans h.jobs, h.admitted.trans hstays.admitted.symm,
    fun haborting => hsame.2.trans (h.waiting haborting)⟩
  rw [hsame.1]
  exact hdone

/-- An ending that admits no job. -/
theorem job?_concat (es : List Ending) {e : Ending} (h : e.job? = none) :
    (es ++ [e]).filterMap Ending.job? = es.filterMap Ending.job? := by
  rw [List.filterMap_append, List.filterMap_cons_none h, List.filterMap_nil, List.append_nil]

/-- Behind an abort, a call is turned away, as by the sequential archive. -/
theorem Behind.reply (h : Behind work root w s) {m : Machine} {c : Call} {rest : List Call}
    {r : Reply} {n : Nat} (hstep : Archive.Step work s.machine m)
    (hcall : s.machine.underway ++ s.machine.calls = c :: rest)
    (hreplies : m.replies = s.machine.replies ++ [(r, n)]) :
    Behind work root w { s with machine := m, ended := s.ended ++ [.call c r n] } := by
  obtain ⟨xs, v, a, done, hserved, hstands, hdone, hwritten, hclosed⟩ := h.sequential
  have hopen : s.aborting = false := by
    refine Bool.eq_false_iff.2 fun haborting => ?_
    rw [underway, h.adrift.shut.idle, List.nil_append, h.waiting haborting] at hcall
    cases hcall
  have hadrift := h.adrift.step hstep
  obtain ⟨rfl, rfl, rfl⟩ := hstep.reply_of_shut h.adrift.shut hcall hreplies
  obtain ⟨x, hanswer, hx⟩ := runWith_answer_closed work (hclosed hopen) hwritten c v done
  have hmore := job?_concat s.ended (e := .call c (s.machine.turnAway c) s.machine.written)
    (by cases c <;> rfl)
  refine ⟨hadrift, h.sameRoot, ⟨xs ++ [some x], v, a, done, ?_, ?_, hdone, hwritten, hclosed⟩,
    ?_, ?_, fun haborting => ?_⟩
  · rw [List.map_append]
    exact runWith_attend_append hserved (runWith_attend_call hanswer)
  · exact List.rel_append hstands (List.Forall₂.cons (Ending.Stands.call hx) .nil)
  · rw [hmore]
    exact h.jobs
  · rw [hmore]
    exact h.admitted
  · rw [show s.aborting = true from haborting] at hopen
    cases hopen

/-- Behind an abort, another one may end. -/
theorem Behind.endAbort (h : Behind work root w s) (calls : List Call) (rest : List (List Call)) :
    Behind work root w (s.endAbort calls rest) := by
  obtain ⟨xs, v, a, done, hserved, hstands, hdone, hwritten, -⟩ := h.sequential
  have hmore := job?_concat s.ended (e := .abort) rfl
  refine ⟨h.adrift.endAbort calls rest, h.sameRoot, ⟨xs ++ [none], v,
    { a with closed := true, pending := none }, done, ?_, ?_, ?_, hwritten, fun _ => rfl⟩, ?_, ?_,
    Bool.noConfusion⟩
  · rw [Session.endAbort, List.map_append]
    exact runWith_attend_append hserved (runWith_attend_abort work v a)
  · exact List.rel_append hstands (List.Forall₂.cons Ending.Stands.abort .nil)
  · refine List.IsPrefix.trans ?_ hdone
    exact (List.prefix_append_right_inj _).2
      (prefix_runTasks (unfinished_endAbort s calls rest) _)
  · rw [Session.endAbort, hmore]
    exact ((tasks_endAbort s calls rest).map Task.job).trans h.jobs
  · rw [Session.endAbort, hmore]
    exact h.admitted

theorem Behind.step (h : Behind work root w s) (hstep : Step work s s') :
    Behind work root w s' := by
  cases hstep with
  | go hstep hreplies => exact h.go hstep hreplies
  | reply hstep hcall hreplies => exact h.reply hstep hcall hreplies
  | beginAbort _ hcalls _ _ =>
    obtain ⟨xs, v, a, done, hserved, hstands, hdone, hwritten, -⟩ := h.sequential
    exact ⟨h.adrift.beginAbort, h.sameRoot,
      ⟨xs, v, a, done, hserved, hstands, hdone, hwritten, Bool.noConfusion⟩, h.jobs, h.admitted,
      fun _ => hcalls⟩
  | endAbort _ _ => exact h.endAbort _ _

end Session

end SourceDocs.Archive
