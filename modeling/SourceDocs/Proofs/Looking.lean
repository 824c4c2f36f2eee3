import SourceDocs.Extraction.File
import SourceDocs.Proofs.Acting
import SourceDocs.Walk

/-!
# Actions that only look

Much of what a run does is to look at files.  An action `Looks` if its result depends on nothing but
the files, the current directory and the limits of the system, and if it changes nothing but the
log.  An action is `Blind` if it does not see the log, whatever else it does.
-/

namespace SourceDocs

namespace World

variable {w v u : World}

/-- The same files, seen from the same directory within the same limits. -/
structure SameFiles (w v : World) : Prop where
  tree : v.tree = w.tree
  current : v.current = w.current
  stack : v.stack = w.stack
  refusal : v.refusal = w.refusal

/-- The same world, but for the log. -/
def SameButLog (w v : World) : Prop := v = { w with log := v.log }

/-- The world with more events in its log, last event first. -/
def logged (w : World) (es : List LogEvent) : World := { w with log := es ++ w.log }

theorem logged_logged (w : World) (es es' : List LogEvent) :
    (w.logged es).logged es' = w.logged (es' ++ es) := by
  rw [logged, logged, logged, List.append_assoc]

namespace SameFiles

theorem refl (w : World) : w.SameFiles w := ⟨rfl, rfl, rfl, rfl⟩

theorem symm (h : w.SameFiles v) : v.SameFiles w :=
  ⟨h.tree.symm, h.current.symm, h.stack.symm, h.refusal.symm⟩

theorem trans (h : w.SameFiles v) (h' : v.SameFiles u) : w.SameFiles u :=
  ⟨h'.tree.trans h.tree, h'.current.trans h.current, h'.stack.trans h.stack,
    h'.refusal.trans h.refusal⟩

theorem report (h : w.SameFiles v) (e : LogEvent) : w.SameFiles { v with log := e :: v.log } :=
  ⟨h.tree, h.current, h.stack, h.refusal⟩

theorem entry_eq (h : w.SameFiles v) (p : Path) : v.entry p = w.entry p := by
  simp only [World.entry, h.tree, h.current]

theorem holds_eq (h : w.SameFiles v) (test : Entry → Bool) (p : Path) :
    v.holds test p = w.holds test p := by
  simp only [World.holds, h.entry_eq]

theorem resolve_eq (h : w.SameFiles v) (p : Path) : v.resolve p = w.resolve p := by
  simp only [World.resolve, h.tree, h.current]

theorem relative_eq (h : w.SameFiles v) (p q : Path) : v.relative p q = w.relative p q := by
  simp only [World.relative, World.absolute, h.current]

end SameFiles

instance : IsPreorder World SameFiles where
  refl := SameFiles.refl
  trans _ _ _ := SameFiles.trans

namespace SameButLog

theorem of_log (w : World) (l : List LogEvent) : w.SameButLog { w with log := l } := rfl

theorem logged (w : World) (es : List LogEvent) : w.SameButLog (w.logged es) := rfl

theorem refl (w : World) : w.SameButLog w := rfl

theorem symm (h : w.SameButLog v) : v.SameButLog w := by
  unfold SameButLog at *
  rw [h]

theorem trans (h : w.SameButLog v) (h' : v.SameButLog u) : w.SameButLog u := by
  unfold SameButLog at *
  rw [h', h]

theorem sameFiles (h : w.SameButLog v) : w.SameFiles v := by
  rw [h]
  exact ⟨rfl, rfl, rfl, rfl⟩

theorem nextId_eq (h : w.SameButLog v) : v.nextId = w.nextId := by rw [h]

end SameButLog

end World

namespace Action

open World

variable {α β σ : Type}

theorem runIn_entryAt? (p : Path) (w : World) :
    (Files.entryAt? p).runIn w =
      (match w.entry p with
        | .ok e => .ok (some e)
        | .error .notFound => .ok none
        | .error f => .error (.raised (.file f)), w) := by
  rw [Files.entryAt?, runIn_bind_ok (runIn_get w)]
  split <;> simp_all

theorem runIn_entriesIn (p : Path) (w : World) :
    (Files.entriesIn p).runIn w =
      (match w.entry p with
        | .ok (.directory es) => .ok (Entry.inOrder es)
        | .ok _ => .error (.raised (.file .notDirectory))
        | .error f => .error (.raised (.file f)), w) := by
  rw [Files.entriesIn, runIn_bind_ok (runIn_get w), runIn_bind, runIn_ofFiles]
  rcases w.entry p with f | (data | es | target) <;> rfl

theorem runIn_readBytes (p : Path) (w : World) :
    (Files.readBytes p).runIn w =
      (match w.entry p with
        | .ok (.file data) => .ok data
        | .ok _ => .error (.raised (.file .isDirectory))
        | .error f => .error (.raised (.file f)), w) := by
  rw [Files.readBytes, runIn_bind_ok (runIn_get w), runIn_bind, runIn_ofFiles]
  rcases w.entry p with f | (data | es | target) <;> rfl

theorem runIn_resolve (p : Path) (w : World) :
    (Files.resolve p).runIn w = (ofLookup (w.resolve p), w) := by
  rw [Files.resolve, runIn_bind_ok (runIn_get w), runIn_ofFiles]

/-- The text of a file, if it has one. -/
theorem runIn_readText_file {p : Path} {w : World} {data : List UInt8}
    (h : w.entry p = .ok (.file data)) :
    (Files.readText p).runIn w =
      (match Utf8.decode? data with
        | some t => .ok (Lines.universal t)
        | none => .error (.raised (.codec .undecodable)), w) := by
  have hbytes : (Files.readBytes p).runIn w = (.ok data, w) := by rw [runIn_readBytes, h]
  rw [Files.readText, runIn_bind_ok hbytes]
  cases Utf8.decode? data <;> rfl

theorem runIn_readText_error {p : Path} {w : World} {f : FileFault} (h : w.entry p = .error f) :
    (Files.readText p).runIn w = (.error (.raised (.file f)), w) := by
  have hbytes : (Files.readBytes p).runIn w = (.error (.raised (.file f)), w) := by
    rw [runIn_readBytes, h]
  rw [Files.readText, runIn_bind_error hbytes]

/-- What is no file has no text. -/
theorem runIn_readText_other {p : Path} {w : World} {e : Entry} (h : w.entry p = .ok e)
    (he : ¬ e.isFile) :
    (Files.readText p).runIn w = (.error (.raised (.file .isDirectory)), w) := by
  have hbytes : (Files.readBytes p).runIn w = (.error (.raised (.file .isDirectory)), w) := by
    rw [runIn_readBytes, h]
    cases e with
    | file data => exact absurd rfl he
    | directory es => rfl
    | link target => rfl
  rw [Files.readText, runIn_bind_error hbytes]

/-- The action sees files only, and does nothing but to add to the log. -/
def Looks (x : Action α) : Prop :=
  ∀ w v, w.SameFiles v → ∃ r es, x.runIn w = (r, w.logged es) ∧ x.runIn v = (r, v.logged es)

/-- The action does not see the log. -/
abbrev Blind (x : Action α) : Prop := Acting.Related SameButLog SameButLog x x

namespace Looks

theorem pure (a : α) : Looks (Pure.pure a) := fun _ _ _ => ⟨.ok a, [], rfl, rfl⟩

theorem throw (f : Failure) : Looks (MonadExcept.throw f : Action α) :=
  fun _ _ _ => ⟨.error f, [], rfl, rfl⟩

theorem ofExcept (r : Except Failure α) : Looks (liftM r) := fun _ _ _ => ⟨r, [], rfl, rfl⟩

theorem report (e : LogEvent) : Looks (Action.report e) := fun _ _ _ => ⟨.ok (), [e], rfl, rfl⟩

theorem bind {x : Action α} {f : α → Action β} (hx : Looks x) (hf : ∀ a, Looks (f a)) :
    Looks (x >>= f) := by
  intro w v h
  obtain ⟨r, es, hw, hv⟩ := hx w v h
  cases r with
  | error e => exact ⟨.error e, es, runIn_bind_error hw, runIn_bind_error hv⟩
  | ok a =>
    obtain ⟨r', es', hw', hv'⟩ := hf a (w.logged es) (v.logged es)
      ⟨h.tree, h.current, h.stack, h.refusal⟩
    exact ⟨r', es' ++ es, by rw [runIn_bind_ok hw, hw', logged_logged],
      by rw [runIn_bind_ok hv, hv', logged_logged]⟩

theorem attempt {x : Action α} (hx : Looks x) : Looks (Action.attempt x) := by
  intro w v h
  obtain ⟨r, es, hw, hv⟩ := hx w v h
  exact ⟨.ok r, es, by rw [runIn_attempt, hw], by rw [runIn_attempt, hv]⟩

/-- A look-up of something that the files alone decide. -/
theorem lookup {f : World → Except FileFault α} (hf : ∀ w v, w.SameFiles v → f v = f w) :
    Looks (get >>= fun w => ofFiles (f w)) := by
  intro w v h
  refine ⟨ofLookup (f w), [], ?_, ?_⟩
  · rw [runIn_bind_ok (runIn_get w), runIn_ofFiles]
    rfl
  · rw [runIn_bind_ok (runIn_get v), runIn_ofFiles, hf w v h]
    rfl

theorem raise (c : Cause) : Looks (Action.raise c : Action α) := throw _

theorem entry {p : Path} {f : Entry → Action α} (hf : ∀ e, Looks (f e)) :
    Looks (get >>= fun w => ofFiles (w.entry p) >>= f) := by
  have hassoc : (get >>= fun w => ofFiles (w.entry p) >>= f : Action α) =
      (get >>= fun w => ofFiles (w.entry p)) >>= f := by rw [bind_assoc]
  rw [hassoc]
  exact (lookup fun w v h => h.entry_eq p).bind hf

/-- The number of calls that may nest does not change either. -/
theorem stack {f : Nat → Action α} (hf : ∀ room, Looks (f room)) :
    Looks (get >>= fun w => f w.stack) := by
  intro w v h
  obtain ⟨r, es, hw, hv⟩ := hf w.stack w v h
  refine ⟨r, es, (runIn_bind_ok (runIn_get w)).trans hw, (runIn_bind_ok (runIn_get v)).trans ?_⟩
  rw [h.stack]
  exact hv

theorem isFile (p : Path) : Looks (Files.isFile p) := lookup fun _ _ h => h.holds_eq _ p

theorem isDirectory (p : Path) : Looks (Files.isDirectory p) := lookup fun _ _ h => h.holds_eq _ p

theorem pathExists (p : Path) : Looks (Files.pathExists p) := lookup fun _ _ h => h.holds_eq _ p

theorem resolve (p : Path) : Looks (Files.resolve p) := lookup fun _ _ h => h.resolve_eq p

theorem readBytes (p : Path) : Looks (Files.readBytes p) := by
  refine entry fun e => ?_
  cases e with
  | file data => exact pure data
  | _ => exact raise _

theorem readText (p : Path) : Looks (Files.readText p) := by
  refine (readBytes p).bind fun data => ?_
  cases Utf8.decode? data with
  | none => exact raise _
  | some t => exact pure _

theorem readLines (p : Path) : Looks (Files.readLines p) := by
  refine (readBytes p).attempt.bind fun r => ?_
  split
  · exact pure _
  · split
    · exact pure _
    · exact raise _
  · exact throw _

theorem entryAt? (p : Path) : Looks (Files.entryAt? p) := by
  intro w v h
  exact ⟨_, [], runIn_entryAt? p w, by rw [runIn_entryAt?, h.entry_eq]; rfl⟩

theorem entriesIn (p : Path) : Looks (Files.entriesIn p) := by
  refine entry fun e => ?_
  cases e with
  | directory es => exact pure _
  | _ => exact raise _

/-! ## The looks of a walk -/

theorem readContent (room : Nat) (p : Path) : Looks (Descriptor.readContent room p) := by
  refine (readText p).attempt.bind fun r => ?_
  cases r with
  | error f => exact pure none
  | ok t => exact ofExcept _

theorem descriptorIn (room : Nat) (p : Path) : Looks (Walk.descriptorIn room p) := by
  refine (isFile _).bind fun found => ?_
  cases found with
  | false => exact pure none
  | true =>
    refine (readContent room _).bind fun content => ?_
    cases content with
    | none => exact (report _).bind fun _ => pure _
    | some content => exact (report _).bind fun _ => pure _

theorem sourceDirectory (d : Descriptor) : Looks d.sourceDirectory :=
  (ofExcept _).bind fun _ => resolve _

theorem hasSources (src : Path) : Looks (Walk.hasSources src) := by
  refine (pathExists src).bind fun found => ?_
  cases found with
  | false => exact (report _).bind fun _ => (report _).bind fun _ => pure _
  | true =>
    refine (isDirectory src).bind fun found => ?_
    cases found with
    | false => exact (report _).bind fun _ => (report _).bind fun _ => pure _
    | true => exact pure _

theorem behind (p : Path) (e : Entry) : Looks (Walk.behind p e) := by
  cases e with
  | link target => exact entryAt? p
  | _ => exact pure _

/-! ## The looks of an extraction -/

theorem parseFile (p : Path) : Looks (Extraction.parseFile p) := by
  refine (readBytes p).attempt.bind fun r => ?_
  split
  · split
    · exact throw _
    · exact raise _
  · exact throw _
  · split
    · exact pure _
    · exact throw _

theorem demanded (excerpt : Option Text) : Looks (Complaint.demanded excerpt) := by
  cases excerpt with
  | none => exact raise _
  | some t => exact pure t

theorem aboutSource (p : Path) (f : SyntaxFault) : Looks (Complaint.aboutSource p f) := by
  refine (readLines p).bind fun lines => ?_
  split
  · exact (demanded _).bind fun _ => report _
  · exact report _

theorem aboutNode (p : Path) (node : Value) : Looks (Complaint.aboutNode p node) := by
  refine (readLines p).bind fun lines => ?_
  split
  · exact (demanded _).bind fun _ => report _
  · exact report _

/-! ## What follows from looking only -/

theorem sameButLog {x : Action α} (hx : Looks x) {w w' : World} {r : Except Failure α}
    (h : x.runIn w = (r, w')) : w.SameButLog w' := by
  obtain ⟨_, es, hrun, -⟩ := hx w w (.refl w)
  rw [hrun] at h
  cases h
  exact .logged w es

theorem within {x : Action α} (hx : Looks x) : Acting.Within SameButLog x :=
  fun _ => hx.sameButLog rfl

/-- What is found by looking is found again as long as the files are the same. -/
theorem result_eq {x : Action α} (hx : Looks x) {w v : World} (h : w.SameFiles v) :
    (x.runIn v).1 = (x.runIn w).1 := by
  obtain ⟨r, es, hw, hv⟩ := hx w v h
  rw [hw, hv]

theorem blind {x : Action α} (hx : Looks x) : Blind x := by
  intro w v h _
  have hbehind := ((hx.within w).symm.trans h).trans (hx.within v)
  exact .of_result (hx.result_eq h.sameFiles).symm hbehind hbehind

end Looks

end Action

end SourceDocs
