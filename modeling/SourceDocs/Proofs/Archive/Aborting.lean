import SourceDocs.Proofs.Archive.Attending
import SourceDocs.Proofs.Archive.Placed
import SourceDocs.Proofs.Files.Spared

/-!
# What closes and aborts leave

The main result is `session_accounted`, about submits, closes and aborts in any order and a worker
at any pace: what a close or an abort ends for good, what is counted, and what can have become of
the files behind an abort.
-/

namespace SourceDocs.Archive

open Machine

variable {work : Path → Job → Action Path} {m m' : Machine} {w : World}

namespace Session

variable {s s' : Session} {root : Path} {first : List Call}

/-- All jobs have ended, and those that have ended well are counted. -/
structure Drained (m : Machine) : Prop where
  shut : m.Shut
  unfinished : m.unfinished = []
  written : m.written = successes m.finished
  all : m.finished.length = m.admitted

theorem Drained.step (h : Drained m) (hstep : Archive.Step work m m') : Drained m' := by
  have hnil := List.append_eq_nil_iff.1 h.unfinished
  rcases hstep.of_shut h.shut with ⟨c, rest, -, rfl⟩ | ⟨t, rest, -, hqueue, -⟩ | ⟨t, hrunning, -⟩
  · exact ⟨⟨h.shut.closed, rfl⟩, h.unfinished, h.written, h.all⟩
  · rw [hqueue] at hnil
    cases hnil.2
  · rw [hrunning] at hnil
    cases hnil.1

/-- What a session has come to, whatever it was asked for and in whatever order. -/
structure Inv (work : Path → Job → Action Path) (root : Path) (first : List Call) (w : World)
    (s : Session) : Prop where
  phase : Before work root first w s ∨ Behind work root w s
  shut : ∀ e ∈ s.ended, e.shuts = true → s.machine.Shut
  shuts : s.machine.Shut → s.aborting = true ∨ ∃ e ∈ s.ended, e.shuts = true
  drained : ∀ n k, s.ended.find? Ending.shuts = some (.call .close (.closed n) k) →
    n = s.machine.written ∧ Drained s.machine

/-- A step that ends no call does not close the archive for good. -/
theorem shut_of_go (hstep : Archive.Step work m m') (hreplies : m'.replies = m.replies)
    (h : m'.Shut) : m.Shut := by
  obtain ⟨hclosed, hidle⟩ := h
  cases hstep with
  | take | finish => exact ⟨hclosed, hidle⟩
  | submit | close | closeBehind | stop | stopFailing => cases hidle
  | refuse | accept | proceed | fail | closedAlready | leave | leaveFailing =>
    simp [Machine.accept, Machine.reply] at hreplies

/-- How a call ends whose reply is the first behind which the archive is closed, or that leaves it
open. -/
theorem Inv.reply (h : Inv work root first w s) {m : Machine} {c : Call} {rest : List Call}
    {r : Reply} {n : Nat} (hstep : Archive.Step work s.machine m)
    (hcall : s.machine.underway ++ s.machine.calls = c :: rest)
    (hreplies : m.replies = s.machine.replies ++ [(r, n)]) :
    (∃ e ∈ s.ended, e.shuts = true) ∨ (∃ j, c = .submit j) ∧ m.closed = false ∨
      c = .close ∧ m.Shut ∧ ∀ k, r = .closed k → k = m.written ∧ Drained m := by
  have hopen (haborting : s.aborting = true) : ¬ s.machine.Shut := by
    intro hshut
    rw [underway, hshut.idle, List.nil_append] at hcall
    rcases h.phase with hbefore | hbehind
    · rw [hbefore.notAborting] at haborting
      cases haborting
    · rw [hbehind.waiting haborting] at hcall
      cases hcall
  have hearlier (hshut : s.machine.Shut) : ∃ e ∈ s.ended, e.shuts = true :=
    (h.shuts hshut).resolve_left fun haborting => hopen haborting hshut
  rcases h.phase with hbefore | hbehind
  · rcases hstep.ends hbefore.reachable.inv hbefore.reachable.accounts hcall hreplies with
      hshut | hsubmit | ⟨rfl, hshut, hnone, hnil, hclosed⟩
    · exact .inl (hearlier hshut)
    · exact .inr (.inl hsubmit)
    · have hreach : Archive.Reachable work (.start root first w) m := hbefore.reachable.tail hstep
      refine .inr (.inr ⟨rfl, hshut, fun k hk => ⟨hclosed k hk, hshut, hnil, ?_, ?_⟩⟩)
      · have hcounted := hreach.accounts.counted
        rw [uncounted_of_awaited (by rw [awaited, hshut.idle, hnone])] at hcounted
        exact hcounted.symm
      · have horder := congrArg List.length hreach.inv.inOrder
        rw [tickets, hnil, List.map_nil, List.append_nil, List.length_map, List.length_range]
          at horder
        exact horder
  · exact .inl (hearlier hbehind.adrift.shut)

theorem inv_start (work : Path → Job → Action Path) (root : Path) (first : List Call)
    (later : List (List Call)) (w : World) : Inv work root first w (start root first later w) := by
  refine ⟨.inl ⟨rfl, ?_, .refl⟩, fun e he => ?_, fun hshut => ?_, fun n k hfind => ?_⟩
  · rw [endings]
    exact (congrArg (List.map _) List.zip_nil_right).symm
  · cases he
  · cases hshut.closed
  · cases hfind

/-- What is drained stays so, and there is no other first close. -/
theorem Inv.drained_of_earlier (h : Inv work root first w s) (hstep : Step work s s')
    {e : Ending} (he : e ∈ s.ended) (hshuts : e.shuts = true) (n k : Nat)
    (hfind : s'.ended.find? Ending.shuts = some (.call .close (.closed n) k)) :
    n = s'.machine.written ∧ Drained s'.machine := by
  have hstays := hstep.stays (h.shut e he hshuts)
  obtain ⟨more, hmore, -⟩ := hstays.refused
  have hfirst : s'.ended.find? Ending.shuts = s.ended.find? Ending.shuts := by
    rw [hmore, List.find?_append, Option.or_of_isSome]
    rw [List.find?_isSome]
    exact ⟨e, he, hshuts⟩
  rw [hfirst] at hfind
  obtain ⟨hn, hdrained⟩ := h.drained n k hfind
  refine ⟨hn.trans hstays.machine.written.symm, ?_⟩
  cases hstep with
  | go hstep _ => exact hdrained.step hstep
  | reply hstep _ _ => exact hdrained.step hstep
  | beginAbort hidle _ _ _ =>
    exact ⟨⟨rfl, hidle⟩, hdrained.unfinished, hdrained.written, hdrained.all⟩
  | @endAbort calls rest _ _ =>
    refine ⟨⟨hdrained.shut.closed, hdrained.shut.idle⟩, ?_, hdrained.written, hdrained.all⟩
    have hprefix := unfinished_endAbort s calls rest
    rw [hdrained.unfinished, List.prefix_nil] at hprefix
    exact hprefix

theorem Inv.phase_step (h : Inv work root first w s) (hstep : Step work s s') :
    Before work root first w s' ∨ Behind work root w s' := by
  rcases h.phase with hbefore | hbehind
  · exact hbefore.step hstep
  · exact .inr (hbehind.step hstep)

/-- Behind a close or an abort, nothing that ends is the first to close the archive. -/
theorem Inv.of_earlier (h : Inv work root first w s) (hstep : Step work s s') {e : Ending}
    (he : e ∈ s.ended) (hshuts : e.shuts = true) : Inv work root first w s' := by
  have hstays := hstep.stays (h.shut e he hshuts)
  obtain ⟨more, hmore, -⟩ := hstays.refused
  refine ⟨h.phase_step hstep, fun _ _ _ => hstays.machine.shut, fun _ => .inr ⟨e, ?_, hshuts⟩,
    h.drained_of_earlier hstep he hshuts⟩
  rw [hmore]
  exact List.mem_append_left _ he

/-- None of these endings closes the archive. -/
theorem find?_shuts {es : List Ending} (h : ∀ e ∈ es, e.shuts = false) :
    es.find? Ending.shuts = none := by
  rw [List.find?_eq_none]
  exact fun e he => Bool.eq_false_iff.1 (h e he)

/-- As long as no close and no abort has ended, a call that ends is a submit to an open archive, or
the first close. -/
theorem Inv.of_reply (h : Inv work root first w s) (hnone : ∀ e ∈ s.ended, e.shuts = false)
    {m : Machine} {c : Call} {rest : List Call} {r : Reply} {n : Nat}
    (hstep : Archive.Step work s.machine m)
    (hcall : s.machine.underway ++ s.machine.calls = c :: rest)
    (hreplies : m.replies = s.machine.replies ++ [(r, n)]) :
    Inv work root first w { s with machine := m, ended := s.ended ++ [.call c r n] } := by
  have hphase := h.phase_step (.reply hstep hcall hreplies)
  rcases h.reply hstep hcall hreplies with ⟨e, he, hshuts⟩ | ⟨⟨j, rfl⟩, hopen⟩ |
    ⟨rfl, hshut, hdrained⟩
  · rw [hnone e he] at hshuts
    cases hshuts
  · have hsubmit : ∀ e ∈ s.ended ++ [.call (.submit j) r n], e.shuts = false := by
      intro e he
      rcases List.mem_append.1 he with he | he
      · exact hnone e he
      · rw [List.mem_singleton.1 he]
        rfl
    refine ⟨hphase, fun e he hshuts => ?_, fun hshut => ?_, fun n' k hfind => ?_⟩
    · rw [hsubmit e he] at hshuts
      cases hshuts
    · exact absurd (hshut.closed.symm.trans hopen) Bool.noConfusion
    · rw [find?_shuts hsubmit] at hfind
      cases hfind
  · have hlast : Ending.call .close r n ∈ s.ended ++ [.call .close r n] :=
      List.mem_append_right _ (List.mem_singleton_self _)
    refine ⟨hphase, fun _ _ _ => hshut, fun _ => .inr ⟨_, hlast, rfl⟩, fun n' k hfind => ?_⟩
    rw [List.find?_append, find?_shuts hnone, Option.none_or] at hfind
    obtain ⟨rfl, -⟩ : r = .closed n' ∧ n = k := by simpa [Ending.shuts] using hfind
    exact hdrained n' rfl

theorem Step.inv (h : Inv work root first w s) (hstep : Step work s s') :
    Inv work root first w s' := by
  have hphase := h.phase_step hstep
  by_cases hearlier : ∃ e ∈ s.ended, e.shuts = true
  · obtain ⟨e, he, hshuts⟩ := hearlier
    exact h.of_earlier hstep he hshuts
  -- No close and no abort has ended yet.
  · have hnone : ∀ e ∈ s.ended, e.shuts = false := by
      intro e he
      exact Bool.eq_false_iff.2 fun hshuts => hearlier ⟨e, he, hshuts⟩
    have hfirst := find?_shuts hnone
    cases hstep with
    | go hstep hreplies =>
      refine ⟨hphase, fun e he hshuts => absurd ⟨e, he, hshuts⟩ hearlier,
        fun hshut => h.shuts (shut_of_go hstep hreplies hshut), fun n k hfind => ?_⟩
      rw [hfirst] at hfind
      cases hfind
    | reply hstep hcall hreplies => exact h.of_reply hnone hstep hcall hreplies
    | beginAbort hidle _ _ _ =>
      refine ⟨hphase, fun e he hshuts => absurd ⟨e, he, hshuts⟩ hearlier, fun _ => .inl rfl,
        fun n k hfind => ?_⟩
      have hfind' : s.ended.find? Ending.shuts = some (.call .close (.closed n) k) := hfind
      rw [hfirst] at hfind'
      cases hfind'
    | @endAbort calls rest haborting _ =>
      have hbehind : Behind work root w s := by
        refine h.phase.resolve_left fun hbefore => ?_
        rw [hbefore.notAborting] at haborting
        cases haborting
      have hshut := (hbehind.adrift.endAbort calls rest).shut
      refine ⟨hphase, fun _ _ _ => hshut, fun _ => .inr ⟨.abort, ?_, rfl⟩, fun n k hfind => ?_⟩
      · exact List.mem_append_right _ (List.mem_singleton_self _)
      · rw [Session.endAbort, List.find?_append, hfirst, Option.none_or] at hfind
        cases hfind

theorem Reachable.inv {later : List (List Call)}
    (h : Reachable work (start root first later w) s) : Inv work root first w s := by
  induction h with
  | refl => exact inv_start work root first later w
  | tail _ hstep ih => exact hstep.inv ih

end Session

/-! ## What a job does to the files -/

/-- The path to the file of a job has a name. -/
theorem target_names_ne_nil (root : Path) (j : Job) : (target root j).names ≠ [] := by
  have hnames : (Path.ofText (j.relativePath ++ Text.ofString ".json")).names ≠ [] :=
    Path.names_ofText_append _ (by decide +kernel) (by decide +kernel)
  rw [target, Path.child, Path.join]
  split_ifs
  · exact hnames
  · exact List.append_ne_nil_of_right_ne_nil _ hnames

/-! ## The main result -/

/-- What the files may look like while a session is in a state: the job that the worker is at may
have got to any point of its writing. -/
def Session.Shows (s : Session) (v : World) : Prop :=
  match s.machine.running with
  | none => v = s.machine.world
  | some t =>
    Relation.ReflTransGen (Action.Writes (target s.machine.root t.job)) s.machine.world v

/-- What can be said of a session with an archive of trees. -/
structure Session.Accounted (root : Path) (w : World) (s : Session) : Prop where
  /-- The jobs that were admitted are in the order of their submits, and none but the last is
  unfinished. -/
  jobs : s.machine.tasks.map Task.job <+: s.ended.filterMap Ending.job? ∧
    (s.ended.filterMap Ending.job?).length = s.machine.admitted ∧
    s.machine.finished.map (fun d => d.task.ticket) = List.range s.machine.finished.length ∧
    s.machine.finished.length ≤ s.machine.admitted ∧
    s.machine.admitted ≤ s.machine.finished.length + 1
  /-- Once a close or an abort has ended, every later submit is refused and schedules nothing, and
  the number of trees written stays. -/
  final : (∃ e ∈ s.ended, e.shuts = true) → ∀ s', Session.Reachable carryOut s s' →
    s'.machine.written = s.machine.written ∧ s'.machine.admitted = s.machine.admitted ∧
    s'.machine.tasks <+: s.machine.tasks ∧
    ∃ more, s'.ended = s.ended ++ more ∧ ∀ j r n, Ending.call (.submit j) r n ∈ more →
      r = .refused ∧
      r.answer? s'.machine.finished n = some ⟨.error (.persistence .closed), s.machine.written⟩
  /-- No more trees are counted than jobs have succeeded. -/
  bounded : s.machine.written ≤ successes s.machine.finished
  /-- If the first of the closes and aborts is a close that returns a number, all jobs have ended,
  and that is the number of those that have succeeded. -/
  drained : ∀ n k, s.ended.find? Ending.shuts = some (.call .close (.closed n) k) →
    n = s.machine.written ∧ n = successes s.machine.finished ∧
    s.machine.finished.length = s.machine.admitted
  /-- Behind an abort the files are those that the finished jobs leave when they are carried out one
  after another, but for what the last job that was admitted has written to its file. -/
  aborted : .abort ∈ s.ended → ∃ v₀,
    runTasks (carryOut root) (s.machine.finished.map Done.task) w = (s.machine.finished, v₀) ∧
    ∀ v, s.Shows v → v₀.SameFiles v ∨ ∃ t, s.machine.running = some t ∧
      t.ticket + 1 = s.machine.admitted ∧
      Relation.ReflTransGen (Action.Writes (target root t.job)) v₀ v ∧
      World.Spares (fun names => ∃ e, v.LeadsTo (target root t.job) (names, some e)) v₀ v
  /-- The sequential archive answers the same to the same submits, closes and aborts. -/
  sequential : ∃ xs v a done,
    (attend carryOut (s.ended.map Ending.order)).runWith w { root } = (.ok xs, v, a) ∧
    List.Forall₂ (Ending.Stands done) s.ended xs ∧ s.machine.finished <+: done ∧
    (s.machine.caller = .idle → s.aborting = false →
      a.closed = s.machine.closed ∧ a.written = s.machine.written)

variable {s : Session} {root : Path} {first : List Call} {later : List (List Call)}

/-- The finished tasks are the first that were admitted. -/
theorem finished_eq_range (h : m.tickets <+: List.range m.admitted) :
    m.finished.map (fun d => d.task.ticket) = List.range m.finished.length ∧
      m.finished.length ≤ m.admitted := by
  have hprefix : m.finished.map (fun d => d.task.ticket) <+: List.range m.admitted :=
    (List.prefix_append _ _).trans h
  have hlength := hprefix.length_le
  rw [List.length_map, List.length_range] at hlength
  refine ⟨?_, hlength⟩
  have htake := List.prefix_iff_eq_take.1 hprefix
  rw [List.length_map, List.take_range, min_eq_left hlength] at htake
  exact htake

theorem Session.Behind.aborted (h : Session.Behind carryOut root w s) :
    ∃ v₀, runTasks (carryOut root) (s.machine.finished.map Done.task) w =
        (s.machine.finished, v₀) ∧
      ∀ v, s.Shows v → v₀.SameFiles v ∨ ∃ t, s.machine.running = some t ∧
        t.ticket + 1 = s.machine.admitted ∧
        Relation.ReflTransGen (Action.Writes (target root t.job)) v₀ v ∧
        World.Spares (fun names => ∃ e, v.LeadsTo (target root t.job) (names, some e)) v₀ v := by
  obtain ⟨hresults, hfiles, hexact⟩ := h.adrift.carried
  rw [h.sameRoot] at hresults
  refine ⟨s.machine.worldOfFinished carryOut w, Prod.ext hresults ?_, fun v hshows => ?_⟩
  · rw [worldOfFinished, h.sameRoot]
  · cases hrunning : s.machine.running with
    | none =>
      rw [Session.Shows, hrunning] at hshows
      rw [show v = s.machine.world from hshows]
      exact .inl hfiles
    | some t =>
      rw [Session.Shows, hrunning] at hshows
      have hmem : t ∈ s.machine.unfinished := by
        rw [unfinished_running hrunning]
        exact List.mem_cons_self
      have hsame := hexact (.inr (List.ne_nil_of_mem hmem))
      have hwrites : Relation.ReflTransGen (Action.Writes (target root t.job))
          (s.machine.worldOfFinished carryOut w) v := by
        rw [hsame, ← h.sameRoot]
        exact hshows
      exact .inr ⟨t, rfl, h.adrift.last t hmem, hwrites,
        .of_writes (target_names_ne_nil root t.job) hwrites⟩

/-- Whatever a session is asked for and however the worker is scheduled, closes and aborts end it
for good, what is counted has succeeded, and an abort leaves at most the last job in doubt. -/
theorem session_accounted (h : Session.Reachable carryOut (.start root first later w) s) :
    s.Accounted root w := by
  have hinv := h.inv
  have hfinal : (∃ e ∈ s.ended, e.shuts = true) → ∀ s', Session.Reachable carryOut s s' →
      s'.machine.written = s.machine.written ∧ s'.machine.admitted = s.machine.admitted ∧
      s'.machine.tasks <+: s.machine.tasks ∧
      ∃ more, s'.ended = s.ended ++ more ∧ ∀ j r n, Ending.call (.submit j) r n ∈ more →
        r = .refused ∧ r.answer? s'.machine.finished n =
          some ⟨.error (.persistence .closed), s.machine.written⟩ := by
    rintro ⟨e, he, hshuts⟩ s' hreach
    obtain ⟨⟨-, hwritten, hadmitted, htasks⟩, more, hmore, hrefused⟩ :=
      hreach.stays (hinv.shut e he hshuts)
    refine ⟨hwritten, hadmitted, htasks, more, hmore, fun j r n hmem => ?_⟩
    obtain ⟨rfl, rfl⟩ := hrefused j r n hmem
    exact ⟨rfl, rfl⟩
  have hdrained : ∀ n k, s.ended.find? Ending.shuts = some (.call .close (.closed n) k) →
      n = s.machine.written ∧ n = successes s.machine.finished ∧
      s.machine.finished.length = s.machine.admitted := by
    intro n k hfind
    obtain ⟨hn, hdrained⟩ := hinv.drained n k hfind
    exact ⟨hn, hn.trans hdrained.written, hdrained.all⟩
  rcases hinv.phase with hbefore | hbehind
  · have hmachine := hbefore.reachable.inv
    obtain ⟨hjobs, hadmitted⟩ := hbefore.jobs
    have horder : s.machine.tickets <+: List.range s.machine.admitted := by
      rw [hmachine.inOrder]
    obtain ⟨hrange, hle⟩ := finished_eq_range horder
    obtain ⟨xs, a, hserved, hstands, hsame⟩ := hbefore.sequential
    refine ⟨⟨hjobs ▸ List.prefix_refl _, hadmitted, hrange, hle, hmachine.length_finished⟩, hfinal,
      ?_, hdrained, fun habort => ?_, ⟨xs, _, a, _, hserved, hstands, List.prefix_append _ _,
      fun hidle _ => hsame hidle⟩⟩
    · rw [hbefore.reachable.accounts.counted]
      exact Nat.le_add_right _ _
    · -- There has been no abort.
      rw [hbefore.ended, endings, List.mem_map] at habort
      obtain ⟨⟨c, r, n⟩, -, hfalse⟩ := habort
      cases hfalse
  · obtain ⟨hrange, hle⟩ := finished_eq_range hbehind.adrift.inOrder
    obtain ⟨xs, v, a, done, hserved, hstands, hdone, hwritten, hclosed⟩ := hbehind.sequential
    refine ⟨⟨hbehind.jobs, hbehind.admitted, hrange, hle, hbehind.adrift.few⟩, hfinal,
      hbehind.adrift.counted, hdrained, fun _ => hbehind.aborted, ⟨xs, v, a, done, hserved, hstands,
      (List.prefix_append _ _).trans hdone, fun _ hopen => ⟨?_, hwritten⟩⟩⟩
    rw [hclosed hopen, hbehind.adrift.shut.closed]

/-- An abort while the first job is being written: the next submit is refused, and the close behind
it counts nothing, although the job then ends well. -/
theorem session_accounted_blocked :
    ∃ s, Session.Reachable carryOut (.start ⟨1, ["root"]⟩ [.submit ⟨"c", .null⟩]
        [[.submit ⟨"b", .null⟩, .close]] blocked) s ∧
      s.ended = [.call (.submit ⟨"c", .null⟩) (.admitted 0) 0, .abort,
        .call (.submit ⟨"b", .null⟩) .refused 0, .call .close (.closed 0) 0] ∧
      s.machine.written = 0 ∧ successes s.machine.finished = 1 ∧
      s.Accounted ⟨1, ["root"]⟩ blocked := by
  have hadmitted := Relation.ReflTransGen.single (r := Session.Step carryOut)
    (.reply (s := .start ⟨1, ["root"]⟩ [.submit ⟨"c", .null⟩] [[.submit ⟨"b", .null⟩, .close]]
      blocked) (.accept rfl rfl rfl rfl) rfl rfl)
  have hrunning := hadmitted.tail (.go (.take rfl rfl) rfl)
  have haborted := (hrunning.tail (.beginAbort rfl rfl (by simp [Session.start]) rfl)).tail
    (.endAbort rfl rfl)
  have hrefused := haborted.tail (.reply (.refuse rfl rfl rfl) rfl rfl)
  have hclosed := hrefused.tail (.reply (.closedAlready rfl rfl rfl) rfl rfl)
  have hended := hclosed.tail (.go (.finish_of_run rfl carryOut_blocked_behind) rfl)
  exact ⟨_, hended, rfl, rfl, rfl, session_accounted hended⟩

end SourceDocs.Archive
