import SourceDocs.Proofs.Archive.Counting

/-!
# Closing and aborting

A `Session` is an archive with a worker to which submits, closes and aborts are made in any order.
An abort asks for nothing and waits for nothing: it marks the archive as closed and takes away the
job that has not begun yet.  Up to the first abort the session is a `Machine`, and behind it the
archive turns every call away (`Step.of_shut`), while the worker may still be at its last job
(`Machine.Adrift`).
-/

namespace SourceDocs.Archive

open Machine

variable {work : Path → Job → Action Path}

/-! ## Sessions -/

/-- What the caller asks for. -/
inductive Order where
  | call (c : Call)
  | abort

/-- What has ended: a call, with its reply and the number of trees written as it could be read
then, or an abort. -/
inductive Ending where
  | call (c : Call) (r : Reply) (written : Nat)
  | abort

namespace Ending

def order : Ending → Order
  | .call c _ _ => .call c
  | .abort => .abort

/-- Whether that was a close or an abort. -/
def shuts : Ending → Bool
  | .call (.submit _) _ _ => false
  | .call .close _ _ => true
  | .abort => true

/-- The job that was admitted. -/
def job? : Ending → Option Job
  | .call (.submit j) (.admitted _) _ => some j
  | _ => none

end Ending

/-- A caller and a worker, where the caller may also abort. -/
structure Session where
  machine : Machine
  /-- For each abort that is left to make, the calls behind it. -/
  later : List (List Call)
  /-- The caller is in the middle of an abort. -/
  aborting : Bool := false
  ended : List Ending := []

namespace Session

/-- A session with calls to make and, for each abort, the calls behind it. -/
def start (root : Path) (first : List Call) (later : List (List Call)) (w : World) : Session :=
  { machine := .start root first w, later }

/-- The abort begins: the archive is closed, and nothing will be asked for. -/
def beginAbort (s : Session) : Session :=
  { s with aborting := true, machine := { s.machine with closed := true, inflight := none } }

/-- The abort ends: what the worker has not begun with is taken away. -/
def endAbort (s : Session) (calls : List Call) (rest : List (List Call)) : Session :=
  { machine := { s.machine with calls, queue := [] }
    later := rest
    ended := s.ended ++ [.abort] }

/-- What can happen next.  In the middle of an abort the worker goes on, but no call is made. -/
inductive Step (work : Path → Job → Action Path) (s : Session) : Session → Prop where
  | go {m : Machine} : Archive.Step work s.machine m → m.replies = s.machine.replies →
      Step work s { s with machine := m }
  | reply {m : Machine} {c : Call} {rest : List Call} {r : Reply} {n : Nat} :
      Archive.Step work s.machine m → s.machine.underway ++ s.machine.calls = c :: rest →
      m.replies = s.machine.replies ++ [(r, n)] →
      Step work s { s with machine := m, ended := s.ended ++ [.call c r n] }
  | beginAbort : s.machine.caller = .idle → s.machine.calls = [] → s.later ≠ [] →
      s.aborting = false → Step work s s.beginAbort
  | endAbort {calls : List Call} {rest : List (List Call)} : s.aborting = true →
      s.later = calls :: rest → Step work s (s.endAbort calls rest)

/-- What a session can come to. -/
def Reachable (work : Path → Job → Action Path) : Session → Session → Prop :=
  Relation.ReflTransGen (Step work)

end Session

/-! ## Closed archives -/

/-- What a closed archive replies to a call. -/
def Machine.turnAway (m : Machine) : Call → Reply
  | .submit _ => .refused
  | .close => .closed m.written

/-- A closed archive, with no call under way. -/
structure Machine.Shut (m : Machine) : Prop where
  closed : m.closed = true
  idle : m.caller = .idle

variable {m m' : Machine} {w : World}

/-- A closed archive turns calls away, and the worker goes on. -/
theorem Step.of_shut (h : m.Shut) (hstep : Step work m m') :
    (∃ c rest, m.calls = c :: rest ∧ m' = reply { m with calls := rest } (m.turnAway c)) ∨
    (∃ t rest, m.running = none ∧ m.queue = t :: rest ∧
      m' = { m with running := some t, queue := rest }) ∨
    ∃ t, m.running = some t ∧ m' = m.finish work t := by
  obtain ⟨hclosed, hidle⟩ := h
  cases hstep with
  | refuse _ hcalls _ => exact .inl ⟨_, _, hcalls, rfl⟩
  | closedAlready _ hcalls _ => exact .inl ⟨_, _, hcalls, rfl⟩
  | take hrunning hqueue => exact .inr (.inl ⟨_, _, hrunning, hqueue, rfl⟩)
  | finish hrunning => exact .inr (.inr ⟨_, hrunning, rfl⟩)
  | accept _ _ hopen _ | submit _ _ hopen _ | close _ _ hopen _ | closeBehind _ _ hopen _ =>
    rw [hclosed] at hopen
    cases hopen
  | proceed hcaller _ | fail hcaller _ | stop hcaller _ | stopFailing hcaller _ | leave hcaller _ _
  | leaveFailing hcaller _ _ =>
    rw [hidle] at hcaller
    cases hcaller

/-- The reply of a closed archive. -/
theorem Step.reply_of_shut (h : m.Shut) (hstep : Step work m m') {c : Call} {rest : List Call}
    {r : Reply} {n : Nat} (hcall : m.underway ++ m.calls = c :: rest)
    (hreplies : m'.replies = m.replies ++ [(r, n)]) :
    m' = reply { m with calls := rest } (m.turnAway c) ∧ r = m.turnAway c ∧ n = m.written := by
  rw [underway, h.idle, List.nil_append] at hcall
  rcases hstep.of_shut h with ⟨c', rest', hcalls, rfl⟩ | ⟨t, rest', -, -, rfl⟩ | ⟨t, -, rfl⟩
  · obtain ⟨rfl, rfl⟩ := List.cons.inj (hcalls.symm.trans hcall)
    obtain ⟨rfl, rfl⟩ : m.turnAway c' = r ∧ m.written = n := by
      simpa [Machine.reply] using hreplies
    exact ⟨rfl, rfl, rfl⟩
  · simp at hreplies
  · simp [Machine.finish] at hreplies

/-- What stays of a closed archive, whatever happens. -/
structure Machine.Stays (m m' : Machine) : Prop where
  shut : m'.Shut
  written : m'.written = m.written
  admitted : m'.admitted = m.admitted
  tasks : m'.tasks <+: m.tasks

theorem Machine.Stays.refl (h : m.Shut) : m.Stays m := ⟨h, rfl, rfl, List.prefix_refl _⟩

theorem Machine.Stays.trans {m'' : Machine} (h : m.Stays m') (h' : m'.Stays m'') : m.Stays m'' :=
  ⟨h'.shut, h'.written.trans h.written, h'.admitted.trans h.admitted, h'.tasks.trans h.tasks⟩

theorem tasks_finish (work : Path → Job → Action Path) {t : Task} (hrunning : m.running = some t) :
    (m.finish work t).tasks = m.tasks := by
  rw [tasks, tasks, unfinished_running hrunning]
  simp [Machine.finish, unfinished]

theorem Step.stays (h : m.Shut) (hstep : Step work m m') : m.Stays m' := by
  rcases hstep.of_shut h with ⟨c, rest, -, rfl⟩ | ⟨t, rest, hrunning, hqueue, rfl⟩ |
    ⟨t, hrunning, rfl⟩
  · exact ⟨⟨h.closed, rfl⟩, rfl, rfl, List.prefix_refl _⟩
  · refine ⟨⟨h.closed, h.idle⟩, rfl, rfl, ?_⟩
    have htasks : tasks { m with running := some t, queue := rest } = m.tasks :=
      tasks_eq_of_unfinished rfl (unfinished_take hrunning hqueue)
    rw [htasks]
  · refine ⟨⟨h.closed, h.idle⟩, rfl, rfl, ?_⟩
    rw [tasks_finish work hrunning]

/-- The job that an abort takes away is the last one. -/
theorem unfinished_endAbort (s : Session) (calls : List Call) (rest : List (List Call)) :
    (s.endAbort calls rest).machine.unfinished <+: s.machine.unfinished := by
  rw [unfinished, unfinished]
  exact ⟨s.machine.queue, by simp [Session.endAbort]⟩

theorem tasks_endAbort (s : Session) (calls : List Call) (rest : List (List Call)) :
    (s.endAbort calls rest).machine.tasks <+: s.machine.tasks :=
  (List.prefix_append_right_inj _).2 (unfinished_endAbort s calls rest)

namespace Session

variable {s s' : Session}

/-- What stays of a session once the archive is closed: no submit schedules anything. -/
structure Stays (s s' : Session) : Prop where
  machine : s.machine.Stays s'.machine
  refused : ∃ more, s'.ended = s.ended ++ more ∧
    ∀ j r n, Ending.call (.submit j) r n ∈ more → r = .refused ∧ n = s.machine.written

theorem Step.stays (h : s.machine.Shut) (hstep : Step work s s') : s.Stays s' := by
  cases hstep with
  | go hstep _ =>
    refine ⟨hstep.stays h, [], (List.append_nil _).symm, fun j r n hmem => ?_⟩
    cases hmem
  | @reply m c rest r n hstep hcall hreplies =>
    refine ⟨hstep.stays h, [.call c r n], rfl, fun j r' n' hmem => ?_⟩
    obtain ⟨rfl, rfl, rfl⟩ : Call.submit j = c ∧ r' = r ∧ n' = n := by simpa using hmem
    exact (hstep.reply_of_shut h hcall hreplies).2
  | beginAbort hidle _ _ _ =>
    refine ⟨⟨⟨rfl, hidle⟩, rfl, rfl, List.prefix_refl _⟩, [], (List.append_nil _).symm, ?_⟩
    intro j r n hmem
    cases hmem
  | endAbort _ _ =>
    refine ⟨⟨⟨h.closed, h.idle⟩, rfl, rfl, tasks_endAbort s _ _⟩, [.abort], rfl, ?_⟩
    intro j r n hmem
    simp at hmem

/-- Once the archive is closed and no call is under way, that stays so. -/
theorem Reachable.stays (h : s.machine.Shut) (hreach : Reachable work s s') : s.Stays s' := by
  induction hreach with
  | refl => exact ⟨.refl h, [], (List.append_nil _).symm, fun j r n hmem => by cases hmem⟩
  | tail _ hstep ih =>
    obtain ⟨hmachine, more, hmore, hrefused⟩ := ih
    obtain ⟨hmachine', last, hlast, hrefused'⟩ := hstep.stays hmachine.shut
    refine ⟨hmachine.trans hmachine', more ++ last, ?_, fun j r n hmem => ?_⟩
    · rw [hlast, hmore, List.append_assoc]
    · rcases List.mem_append.1 hmem with hmem | hmem
      · exact hrefused j r n hmem
      · rw [← hmachine.written]
        exact hrefused' j r n hmem

end Session

/-! ## How calls end -/

/-- How a call can end: it was turned away, it was a submit to an open archive, or it was the close
of an archive that has no job left. -/
theorem Step.ends {c : Call} {rest : List Call} {r : Reply} {n : Nat} (hinv : m.Inv)
    (hacc : m.Accounts work w) (h : Step work m m') (hcall : m.underway ++ m.calls = c :: rest)
    (hreplies : m'.replies = m.replies ++ [(r, n)]) :
    m.Shut ∨ (∃ j, c = .submit j) ∧ m'.closed = false ∨
      c = .close ∧ m'.Shut ∧ m'.inflight = none ∧ m'.unfinished = [] ∧
        ∀ k, r = .closed k → k = m'.written := by
  have hquiet (hsame : m.replies = m.replies ++ [(r, n)]) : False := by simp at hsame
  cases h with
  | refuse hidle _ hclosed | closedAlready hidle _ hclosed => exact .inl ⟨hclosed, hidle⟩
  | accept hidle hcalls hopen _ =>
    rw [underway, hidle, hcalls] at hcall
    exact .inr (.inl ⟨⟨_, (List.cons.inj hcall).1.symm⟩, hopen⟩)
  | @proceed j t p hcaller _ =>
    rw [underway, hcaller] at hcall
    exact .inr (.inl ⟨⟨j, (List.cons.inj hcall).1.symm⟩, hinv.isOpen j t hcaller⟩)
  | @fail j t f hcaller _ =>
    rw [underway, hcaller] at hcall
    exact .inr (.inl ⟨⟨j, (List.cons.inj hcall).1.symm⟩, hinv.isOpen j t hcaller⟩)
  | @leave waited hcaller hnil _ =>
    rw [underway, hcaller] at hcall
    have hclosed := hacc.marked (by rw [closes, hcaller])
    have hnone := hinv.inflight_eq_none hcaller Caller.noConfusion
    obtain ⟨rfl, rfl⟩ : Reply.closed m.written = r ∧ m.written = n := by
      simpa [Machine.reply] using hreplies
    exact .inr (.inr ⟨(List.cons.inj hcall).1.symm, ⟨hclosed, rfl⟩, hnone, hnil,
      fun k hk => (Reply.closed.inj hk).symm⟩)
  | @leaveFailing t f hcaller hnil _ =>
    rw [underway, hcaller] at hcall
    have hclosed := hacc.marked (by rw [closes, hcaller])
    have hnone := hinv.inflight_eq_none hcaller Caller.noConfusion
    obtain ⟨rfl, rfl⟩ : Reply.raised t f = r ∧ m.written = n := by
      simpa [Machine.reply] using hreplies
    exact .inr (.inr ⟨(List.cons.inj hcall).1.symm, ⟨hclosed, rfl⟩, hnone, hnil,
      fun k hk => by cases hk⟩)
  | submit | close | closeBehind | stop | stopFailing | take | finish =>
    exact (hquiet hreplies).elim

/-! ## Behind an abort -/

/-- An archive that was aborted: the worker may still be at the last job, or the last job may have
been taken away. -/
structure Machine.Adrift (work : Path → Job → Action Path) (w : World) (m : Machine) : Prop where
  shut : m.Shut
  carried : m.Carried work w
  counted : m.written ≤ successes m.finished
  inOrder : m.tickets <+: List.range m.admitted
  few : m.admitted ≤ m.finished.length + 1
  last : ∀ t ∈ m.unfinished, t.ticket + 1 = m.admitted

theorem tickets_eq_tasks (m : Machine) : m.tickets = m.tasks.map Task.ticket := by
  rw [tickets, tasks, List.map_append, List.map_map]
  rfl

/-- All jobs but the last have ended. -/
theorem Machine.Inv.length_finished (h : m.Inv) : m.admitted ≤ m.finished.length + 1 := by
  have hlength := congrArg List.length h.inOrder
  have hone := h.length_unfinished_le
  rw [tickets, List.length_append, List.length_map, List.length_map, List.length_range] at hlength
  omega

theorem Machine.Inv.last (h : m.Inv) {t : Task} (ht : t ∈ m.unfinished) :
    t.ticket + 1 = m.admitted := by
  have hone := h.length_unfinished_le
  have horder := h.inOrder
  obtain ⟨u, hu⟩ : ∃ u, m.unfinished = [u] := by
    rw [← List.length_eq_one_iff]
    exact le_antisymm hone (List.length_pos_of_mem ht)
  rw [hu, List.mem_singleton] at ht
  subst ht
  rw [tickets, hu, List.map_singleton] at horder
  obtain ⟨k, hk⟩ : ∃ k, m.admitted = k + 1 := by
    refine Nat.exists_eq_succ_of_ne_zero fun hzero => ?_
    rw [hzero] at horder
    simp at horder
  rw [hk, List.range_succ] at horder
  rw [hk, List.singleton_inj.1 (List.append_inj' horder rfl).2]

/-- Where the first abort begins. -/
theorem Machine.Accounts.beginAbort {s : Session} (hacc : s.machine.Accounts work w)
    (hinv : s.machine.Inv) (hidle : s.machine.caller = .idle) :
    s.beginAbort.machine.Adrift work w where
  shut := ⟨rfl, hidle⟩
  carried := by
    refine hacc.carried.of_caller rfl rfl (.refl _) fun hopen => ⟨.inr ?_, rfl⟩
    exact hopen.resolve_left Bool.noConfusion
  counted := hacc.counted ▸ Nat.le_add_right _ _
  inOrder := by
    have horder : s.beginAbort.machine.tickets = List.range s.machine.admitted := hinv.inOrder
    rw [horder]
    exact List.prefix_refl _
  few := hinv.length_finished
  last _ ht := hinv.last ht

namespace Machine.Adrift

theorem beginAbort {s : Session} (h : s.machine.Adrift work w) :
    s.beginAbort.machine.Adrift work w where
  shut := ⟨rfl, h.shut.idle⟩
  carried := by
    refine h.carried.of_caller rfl rfl (.refl _) fun hopen => ⟨.inr ?_, rfl⟩
    exact hopen.resolve_left Bool.noConfusion
  counted := h.counted
  inOrder := h.inOrder
  few := h.few
  last := h.last

theorem endAbort {s : Session} (h : s.machine.Adrift work w) (calls : List Call)
    (rest : List (List Call)) : (s.endAbort calls rest).machine.Adrift work w where
  shut := ⟨h.shut.closed, h.shut.idle⟩
  carried := by
    refine h.carried.of_caller rfl rfl (.refl _) fun hopen => ⟨.inr ?_, rfl⟩
    rcases hopen with hopen | hleft
    · exact absurd (h.shut.closed.symm.trans hopen) Bool.noConfusion
    · intro hnil
      have hprefix := unfinished_endAbort s calls rest
      rw [hnil, List.prefix_nil] at hprefix
      exact hleft hprefix
  counted := h.counted
  inOrder := by
    rw [tickets_eq_tasks]
    refine ((tasks_endAbort s calls rest).map Task.ticket).trans ?_
    rw [← tickets_eq_tasks]
    exact h.inOrder
  few := h.few
  last t ht := h.last t ((unfinished_endAbort s calls rest).subset ht)

theorem step (h : m.Adrift work w) (hstep : Step work m m') : m'.Adrift work w := by
  have hstays := hstep.stays h.shut
  have horder : m'.tickets <+: List.range m'.admitted := by
    rw [tickets_eq_tasks, hstays.admitted]
    refine (hstays.tasks.map Task.ticket).trans ?_
    rw [← tickets_eq_tasks]
    exact h.inOrder
  rcases hstep.of_shut h.shut with ⟨c, rest, -, rfl⟩ | ⟨t, rest, hrunning, hqueue, rfl⟩ |
    ⟨t, hrunning, rfl⟩
  · exact ⟨hstays.shut, h.carried.of_caller rfl rfl (.refl _) fun hopen => ⟨hopen, rfl⟩, h.counted,
      horder, h.few, h.last⟩
  · have hunfinished := unfinished_take hrunning hqueue
    refine ⟨hstays.shut, h.carried.of_caller rfl rfl (.refl _) fun hopen => ⟨?_, rfl⟩, h.counted,
      horder, h.few, fun u hu => h.last u ?_⟩
    · rwa [hunfinished] at hopen
    · rwa [hunfinished] at hu
  · have hsplit := unfinished_running hrunning
    refine ⟨hstays.shut, h.carried.finish hrunning, ?_, horder, ?_, fun u hu => h.last u ?_⟩
    · simp only [Machine.finish]
      rw [successes_concat]
      exact h.counted.trans (Nat.le_add_right _ _)
    · simp only [Machine.finish, List.length_append, List.length_singleton]
      exact h.few.trans (Nat.le_succ _)
    · rw [hsplit]
      exact List.mem_cons_of_mem _ hu

end Machine.Adrift

end SourceDocs.Archive
