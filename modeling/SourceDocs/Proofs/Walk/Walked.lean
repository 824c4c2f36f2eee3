import SourceDocs.Proofs.Looking
import SourceDocs.Proofs.Walk.Reachable

/-!
# Walks as derivations

`Walk.Walked` says by rules how a walk of packages goes through a link-free tree with so many calls
left: how it ends and what it finds, one rule for each thing that can happen in a directory or at an
entry of one.  The main result, `Walk.walked_of_enter`, is that the walk of a directory is such a
derivation.  Everything else about the walk is then proved by induction on derivations.
-/

namespace SourceDocs

/-! ## Actions that only look at files -/

namespace Action

variable {α β : Type} {w : World}

/-- The action has this result wherever the files are those of `w`, and leaves them alone. -/
def Reads (w : World) (x : Action α) (r : Except Failure α) : Prop :=
  ∀ v, w.SameFiles v → ∃ v', w.SameFiles v' ∧ x.runIn v = (r, v')

namespace Reads

theorem pure (a : α) : Reads w (Pure.pure a) (.ok a) :=
  fun v hv => ⟨v, hv, runIn_pure a v⟩

theorem report (e : LogEvent) : Reads w (Action.report e) (.ok ()) :=
  fun v hv => ⟨_, hv.report e, runIn_report e v⟩

theorem bind_ok {x : Action α} {f : α → Action β} {a : α} {r : Except Failure β}
    (hx : Reads w x (.ok a)) (hf : Reads w (f a) r) : Reads w (x >>= f) r := by
  intro v hv
  obtain ⟨v₁, hv₁, hrun⟩ := hx v hv
  obtain ⟨v₂, hv₂, hrun₂⟩ := hf v₁ hv₁
  exact ⟨v₂, hv₂, by rw [runIn_bind_ok hrun, hrun₂]⟩

theorem bind_error {x : Action α} {f : α → Action β} {e : Failure}
    (hx : Reads w x (.error e)) : Reads w (x >>= f) (.error e) := by
  intro v hv
  obtain ⟨v₁, hv₁, hrun⟩ := hx v hv
  exact ⟨v₁, hv₁, runIn_bind_error hrun⟩

theorem attempt {x : Action α} {r : Except Failure α} (hx : Reads w x r) :
    Reads w (Action.attempt x) (.ok r) := by
  intro v hv
  obtain ⟨v₁, hv₁, hrun⟩ := hx v hv
  exact ⟨v₁, hv₁, by rw [runIn_attempt, hrun]⟩

/-- A look-up that depends on the files only. -/
theorem lookup {f : World → Except FileFault α} {r : Except FileFault α}
    (hf : ∀ v, w.SameFiles v → f v = r) :
    Reads w (get >>= fun v => ofFiles (f v)) (ofLookup r) := by
  intro v hv
  refine ⟨v, hv, ?_⟩
  rw [runIn_bind_ok (runIn_get v), runIn_ofFiles, hf v hv]

theorem isFile (p : Path) : Reads w (Files.isFile p) (ofLookup (w.holds Entry.isFile p)) :=
  lookup fun _ hv => hv.holds_eq _ p

theorem isDirectory (p : Path) :
    Reads w (Files.isDirectory p) (ofLookup (w.holds Entry.isDirectory p)) :=
  lookup fun _ hv => hv.holds_eq _ p

theorem pathExists (p : Path) :
    Reads w (Files.pathExists p) (ofLookup (w.holds (fun _ => true) p)) :=
  lookup fun _ hv => hv.holds_eq _ p

theorem resolve (p : Path) : Reads w (Files.resolve p) (ofLookup (w.resolve p)) :=
  lookup fun _ hv => hv.resolve_eq p

end Reads

end Action

/-! ## What the walk asks about a directory -/

namespace World

/-- What an action learns about the descriptor of a directory. -/
def descriptorAt (w : World) (here : List Text) : Except Failure (Option (Option Descriptor)) :=
  (Action.ofLookup (w.holds Entry.isFile (descriptorPath here))).map fun found =>
    if found then some (w.packageAt? here) else none

/-- Whether the system refuses to look at a path does not depend on what is asked. -/
theorem holds_error_iff (w : World) (test test' : Entry → Bool) (p : Path) (f : FileFault) :
    w.holds test p = .error f ↔ w.holds test' p = .error f := by
  unfold World.holds
  cases w.entry p with
  | ok e => simp
  | error g => rfl

theorem holds_of_not_exists {w : World} {p : Path} (h : w.holds (fun _ => true) p = .ok false)
    (test : Entry → Bool) : w.holds test p = .ok false := by
  unfold World.holds at h ⊢
  cases hp : w.entry p with
  | ok e => simp [hp] at h
  | error g => simpa [hp] using h

theorem holds_of_exists {w : World} {p : Path} {b : Bool} (h : w.holds (fun _ => true) p = .ok b)
    (test : Entry → Bool) : ∃ b', w.holds test p = .ok b' := by
  cases ht : w.holds test p with
  | ok b' => exact ⟨b', rfl⟩
  | error f =>
    rw [(holds_error_iff w (fun _ => true) test p f).2 ht] at h
    cases h

/-- The system tells whether something that satisfies a test is at a path, and it is so. -/
structure Tells (w : World) (test : Entry → Bool) (p : Path) (b : Bool) : Prop where
  answer : w.holds test p = .ok b
  fact : (w.tree.get? p.names).any test = b

theorem Tells.descriptorData? {w : World} {here : List Text} {b : Bool}
    (h : w.Tells Entry.isFile (descriptorPath here) b) : (w.descriptorData? here).isSome = b := by
  rw [← h.fact, World.descriptorData?, descriptorPath]
  rcases w.tree.get? (here ++ [Descriptor.fileName]) with _ | (_ | _ | _) <;> rfl

/-- The system shows the descriptor file of a directory, and so many calls are enough to read it. -/
structure Loads (w : World) (room : Nat) (here : List Text) : Prop where
  tells : w.Tells Entry.isFile (descriptorPath here) true
  fits : w.overflowsAt room here = false

theorem Loads.descriptorData? {w : World} {room : Nat} {here : List Text} (h : w.Loads room here) :
    w.descriptorData? here ≠ none := by
  rw [← Option.isSome_iff_ne_none]
  exact h.tells.descriptorData?

theorem Tells.directory {w : World} {p : Path} (h : w.Tells Entry.isDirectory p true) :
    ∃ es, w.tree.get? p.names = some (.directory es) := by
  have hany := h.fact
  rcases hp : w.tree.get? p.names with _ | (_ | es | _)
  · simp [hp] at hany
  · simp [hp, Entry.isDirectory] at hany
  · exact ⟨es, rfl⟩
  · simp [hp, Entry.isDirectory] at hany

end World

namespace Walk

open World SourceDocs.Action

variable {w : World} {here : List Text} {es : List (Text × Entry)}

theorem reads_readText (p : Path) {data : List UInt8} (h : w.entry p = .ok (.file data)) :
    Reads w (Files.readText p)
      (match Utf8.decode? data with
        | some t => .ok (Lines.universal t)
        | none => .error (.raised (.codec .undecodable))) := by
  intro v hv
  refine ⟨v, hv, ?_⟩
  have hbytes : (Files.readBytes p).runIn v = (.ok data, v) := by
    unfold Files.readBytes
    have hentry : (ofFiles (v.entry p)).runIn v = (.ok (.file data), v) := by
      rw [runIn_ofFiles, hv.entry_eq, h, ofLookup_ok]
    rw [runIn_bind_ok (runIn_get v), runIn_bind_ok hentry]
    rfl
  unfold Files.readText
  rw [runIn_bind_ok hbytes]
  cases Utf8.decode? data <;> rfl

theorem Reads.liftExcept {α : Type} (r : Except Failure α) : Reads w (liftM r) r :=
  fun v hv => ⟨v, hv, rfl⟩

theorem reads_readContent (room : Nat) (p : Path) {data : List UInt8}
    (h : w.entry p = .ok (.file data)) :
    Reads w (Descriptor.readContent room p)
      (if Descriptor.overflows room data then .error (.raised .tooDeep)
        else .ok (Descriptor.ofBytes data)) := by
  have hread := (reads_readText p h).attempt
  unfold Descriptor.ofBytes Descriptor.overflows Descriptor.characters?
  cases hd : Utf8.decode? data with
  | none =>
    rw [hd] at hread
    exact hread.bind_ok (Reads.pure none)
  | some t =>
    rw [hd] at hread
    have hcontent : Descriptor.contentOf room (Lines.universal t) =
        if Json.overflows room ((Lines.universal t).map CodePoint.toChar) then
          .error (.raised .tooDeep)
        else .ok ((Json.read? ((Lines.universal t).map CodePoint.toChar)).bind
          Descriptor.entries?) := by
      unfold Descriptor.contentOf
      split_ifs with hdeep
      · rw [Json.overflows_iff.1 hdeep]
      · rw [Json.read_of_fits (Bool.eq_false_iff.2 hdeep)]
        cases Json.read? ((Lines.universal t).map CodePoint.toChar) <;> rfl
    rw [Option.map_some, Option.any_some, Option.bind_some, ← hcontent]
    exact hread.bind_ok (Reads.liftExcept _)

/-- A descriptor that the system refuses to look for. -/
theorem reads_descriptorIn_unanswered {room : Nat} {f : FileFault}
    (hfile : w.holds Entry.isFile (descriptorPath here) = .error f) :
    Reads w (descriptorIn room ⟨1, here⟩) (.error (.raised (.file f))) := by
  have hread := Reads.isFile (w := w) (descriptorPath here)
  rw [hfile] at hread
  rw [descriptorIn, descriptorPath_eq]
  exact hread.bind_error

/-- A descriptor file that is looked at is there to be read. -/
theorem exists_descriptorData (h : w.LinkFreeAt here es)
    (hfile : w.holds Entry.isFile (descriptorPath here) = .ok true) :
    ∃ data, w.descriptorData? here = some data ∧
      w.entry (descriptorPath here) = .ok (.file data) := by
  obtain ⟨e, hget, htest, hentry⟩ := h.entry_of_holds noDots_fileName hfile
  cases e with
  | directory ds => simp [Entry.isFile] at htest
  | link target => simp [Entry.isFile] at htest
  | file data => exact ⟨data, by rw [descriptorData?, hget], hentry⟩

/-- A descriptor that needs more calls than are left. -/
theorem reads_descriptorIn_overflows {room : Nat} (h : w.LinkFreeAt here es)
    (hfile : w.holds Entry.isFile (descriptorPath here) = .ok true)
    (hdeep : w.overflowsAt room here) :
    Reads w (descriptorIn room ⟨1, here⟩) (.error (.raised .tooDeep)) := by
  obtain ⟨data, hdata, hentry⟩ := exists_descriptorData h hfile
  have hread := Reads.isFile (w := w) (descriptorPath here)
  have hcontent := reads_readContent room (descriptorPath here) hentry
  rw [hfile] at hread
  rw [overflowsAt_eq hdata] at hdeep
  rw [if_pos hdeep] at hcontent
  rw [descriptorIn, descriptorPath_eq]
  exact hread.bind_ok hcontent.bind_error

theorem reads_descriptorIn {room : Nat} (h : w.LinkFreeAt here es)
    (hfits : w.overflowsAt room here = false) :
    Reads w (descriptorIn room ⟨1, here⟩) (w.descriptorAt here) := by
  unfold descriptorIn descriptorAt
  rw [descriptorPath_eq]
  cases hfile : w.holds Entry.isFile (descriptorPath here) with
  | error f =>
    have hread := Reads.isFile (w := w) (descriptorPath here)
    rw [hfile] at hread
    exact hread.bind_error
  | ok b =>
    have hread := Reads.isFile (w := w) (descriptorPath here)
    rw [hfile] at hread
    refine hread.bind_ok ?_
    cases b with
    | false => exact Reads.pure none
    | true =>
      obtain ⟨data, hdata, hentry⟩ := exists_descriptorData h hfile
      have hcontent := reads_readContent room (descriptorPath here) hentry
      rw [overflowsAt_eq hdata] at hfits
      rw [hfits, if_neg Bool.false_ne_true] at hcontent
      refine hcontent.bind_ok ?_
      simp only [packageAt?, hdata, Option.bind_some]
      cases Descriptor.ofBytes data with
      | none => exact (Reads.report _).bind_ok (Reads.pure _)
      | some content => exact (Reads.report _).bind_ok (Reads.pure _)

theorem reads_hasSources (src : Path) :
    Reads w (hasSources src) (ofLookup (w.holds Entry.isDirectory src)) := by
  have hexists := Reads.pathExists (w := w) src
  have hdir := Reads.isDirectory (w := w) src
  unfold hasSources
  cases h : w.holds (fun _ => true) src with
  | error f =>
    rw [h] at hexists
    rw [(holds_error_iff w Entry.isDirectory (fun _ => true) src f).2 h]
    exact hexists.bind_error
  | ok b =>
    rw [h] at hexists
    refine hexists.bind_ok ?_
    cases b with
    | false =>
      rw [holds_of_not_exists h]
      exact (Reads.report _).bind_ok ((Reads.report _).bind_ok (Reads.pure false))
    | true =>
      obtain ⟨b, hb⟩ := holds_of_exists h Entry.isDirectory
      rw [hb] at hdir ⊢
      refine hdir.bind_ok ?_
      cases b with
      | false => exact (Reads.report _).bind_ok ((Reads.report _).bind_ok (Reads.pure false))
      | true => exact Reads.pure true

theorem reads_entriesIn (h : w.entry ⟨1, here⟩ = .ok (.directory es)) :
    Reads w (Files.entriesIn ⟨1, here⟩) (.ok (Entry.inOrder es)) := by
  intro v hv
  refine ⟨v, hv, ?_⟩
  unfold Files.entriesIn
  have hentry : (ofFiles (v.entry ⟨1, here⟩)).runIn v = (.ok (.directory es), v) := by
    rw [runIn_ofFiles, hv.entry_eq, h, ofLookup_ok]
  rw [runIn_bind_ok (runIn_get v), runIn_bind_ok hentry]
  rfl

/-! ## Walks that collect what they find -/

/-- The walk ends like this and finds these events wherever the files are those of `w`. -/
def Yields {α : Type} (w : World) (x : ActionWith (List Event) α) (r : Except Failure α)
    (found : List Event) : Prop :=
  ∀ v before, w.SameFiles v →
    ∃ v', w.SameFiles v' ∧ x.runWith v before = (r, v', before ++ found)

/-- Notes an event. -/
def collect (e : Event) : ActionWith (List Event) Unit := ActionWith.update (· ++ [e])

namespace Yields

variable {α β : Type}

theorem pure (a : α) : Yields w (Pure.pure a) (.ok a) [] :=
  fun v before hv => ⟨v, hv, by simp⟩

theorem throw (f : Failure) :
    Yields w (MonadExcept.throw f : ActionWith (List Event) α) (.error f) [] :=
  fun v before hv => ⟨v, hv, by simp⟩

theorem collect (e : Event) : Yields w (Walk.collect e) (.ok ()) [e] :=
  fun v before hv => ⟨v, hv, by simp [Walk.collect]⟩

theorem of_reads {x : Action α} {r : Except Failure α} (h : Reads w x r) :
    Yields w (liftM x) r [] := by
  intro v before hv
  obtain ⟨v', hv', hrun⟩ := h v hv
  exact ⟨v', hv', by simp [hrun]⟩

theorem bind_ok {x : ActionWith (List Event) α} {f : α → ActionWith (List Event) β} {a : α}
    {r : Except Failure β} {found more : List Event} (hx : Yields w x (.ok a) found)
    (hf : Yields w (f a) r more) : Yields w (x >>= f) r (found ++ more) := by
  intro v before hv
  obtain ⟨v₁, hv₁, hrun⟩ := hx v before hv
  obtain ⟨v₂, hv₂, hrun₂⟩ := hf v₁ (before ++ found) hv₁
  exact ⟨v₂, hv₂, by rw [ActionWith.runWith_bind_ok hrun, hrun₂, List.append_assoc]⟩

theorem bind_error {x : ActionWith (List Event) α} {f : α → ActionWith (List Event) β}
    {e : Failure} {found : List Event} (hx : Yields w x (.error e) found) :
    Yields w (x >>= f) (.error e) found := by
  intro v before hv
  obtain ⟨v₁, hv₁, hrun⟩ := hx v before hv
  exact ⟨v₁, hv₁, ActionWith.runWith_bind_error hrun⟩

theorem reads_bind {x : Action α} {f : α → ActionWith (List Event) β} {a : α}
    {r : Except Failure β} {found : List Event} (hx : Reads w x (.ok a))
    (hf : Yields w (f a) r found) : Yields w (liftM x >>= f) r found :=
  (of_reads hx).bind_ok hf

end Yields

/-! ## Derivations -/

/-- A directory that is to be walked, or the entries of one that are left to visit. -/
inductive Stage where
  | directory (here : List Text) (package : Option Descriptor)
  | entries (here : List Text) (package : Option Descriptor) (left : List (Text × Entry))

/-- A regular file in a directory without a descriptor file. -/
def FileIn (w : World) (here : List Text) (n : Text) : Prop :=
  w.descriptorData? here = none ∧ ∃ data, w.tree.get? (here ++ [n]) = some (.file data)

/-- The event of a file in a directory, in a walk from `root`. -/
def fileEvent (w : World) (root here : List Text) (package : Option Descriptor) (n : Text) :
    Event :=
  .file ⟨1, here ++ [n]⟩ (w.relative ⟨1, here ++ [n]⟩ ⟨1, root⟩).toText package

/-- How a walk of packages from `root` ends with so many calls left, and what it finds. -/
inductive Walked (w : World) (root : List Text) :
    Nat → Stage → Except Failure Unit → List Event → Prop where
  /-- No call is left for a directory. -/
  | exhausted {here : List Text} {package : Option Descriptor} :
    Walked w root 0 (.directory here package) (.error (.raised .tooDeep)) []
  /-- The system refuses to look for a descriptor. -/
  | unanswered {room : Nat} {here : List Text} {package : Option Descriptor} {f : FileFault} :
    w.holds Entry.isFile (descriptorPath here) = .error f →
      Walked w root (room + 1) (.directory here package) (.error (.raised (.file f))) []
  /-- Too few calls are left to read the descriptor file. -/
  | buried {room : Nat} {here : List Text} {package : Option Descriptor} :
    w.Tells Entry.isFile (descriptorPath here) true → w.overflowsAt room here →
      Walked w root (room + 1) (.directory here package) (.error (.raised .tooDeep)) []
  /-- What is in the descriptor file describes no package. -/
  | unreadable {room : Nat} {here : List Text} {package : Option Descriptor} :
    w.Loads room here → w.packageAt? here = none →
      Walked w root (room + 1) (.directory here package) (.ok ()) []
  /-- The descriptor names its sources by something else than a text. -/
  | malformed {room : Nat} {here : List Text} {package : Option Descriptor} {d : Descriptor}
      {f : Failure} :
    w.Loads room here → w.packageAt? here = some d → d.sourceName = .error f →
      Walked w root (room + 1) (.directory here package) (.error f) []
  /-- The system refuses the path of the sources. -/
  | unresolved {room : Nat} {here : List Text} {package : Option Descriptor} {d : Descriptor}
      {s : Text} {f : FileFault} :
    w.Loads room here → w.packageAt? here = some d → d.sourceName = .ok s →
      w.resolve (d.directory.child s) = .error f →
      Walked w root (room + 1) (.directory here package) (.error (.raised (.file f))) []
  /-- The system refuses to look for the sources. -/
  | refused {room : Nat} {here : List Text} {package : Option Descriptor} {d : Descriptor}
      {src : Path} {f : FileFault} :
    w.Loads room here → w.packageAt? here = some d → w.sourcesAt? here = some src →
      w.holds Entry.isDirectory src = .error f →
      Walked w root (room + 1) (.directory here package) (.error (.raised (.file f))) [.package d]
  /-- A package has no directory of sources. -/
  | alone {room : Nat} {here : List Text} {package : Option Descriptor} {d : Descriptor}
      {src : Path} :
    w.Loads room here → w.packageAt? here = some d → w.sourcesAt? here = some src →
      w.Tells Entry.isDirectory src false →
      Walked w root (room + 1) (.directory here package) (.ok ()) [.package d]
  /-- Of a package, its sources are walked. -/
  | sources {room : Nat} {here : List Text} {package : Option Descriptor} {d : Descriptor}
      {src : Path} {r : Except Failure Unit} {found : List Event} :
    w.Loads room here → w.packageAt? here = some d → w.sourcesAt? here = some src →
      w.Tells Entry.isDirectory src true →
      Walked w root room (.directory src.names (some d)) r found →
      Walked w root (room + 1) (.directory here package) r (.package d :: found)
  /-- No call is left to list a directory without a descriptor file. -/
  | cramped {here : List Text} {package : Option Descriptor} :
    w.Tells Entry.isFile (descriptorPath here) false →
      Walked w root 1 (.directory here package) (.error (.raised .tooDeep)) []
  /-- Without a descriptor file, all entries are visited. -/
  | listing {room : Nat} {here : List Text} {package : Option Descriptor} {es : List (Text × Entry)}
      {r : Except Failure Unit} {found : List Event} :
    w.Tells Entry.isFile (descriptorPath here) false → w.LinkFreeAt here es →
      Walked w root room (.entries here package (Entry.inOrder es)) r found →
      Walked w root (room + 2) (.directory here package) r found
  | done {room : Nat} {here : List Text} {package : Option Descriptor} :
    Walked w root room (.entries here package []) (.ok ()) []
  | file {room : Nat} {here : List Text} {package : Option Descriptor} {n : Text}
      {data : List UInt8} {left : List (Text × Entry)} {r : Except Failure Unit}
      {found : List Event} :
    FileIn w here n → (∀ other ∈ left, n < other.1) →
      Walked w root room (.entries here package left) r found →
      Walked w root room (.entries here package ((n, .file data) :: left)) r
        (fileEvent w root here package n :: found)
  | enter {room : Nat} {here : List Text} {package : Option Descriptor} {n : Text}
      {cs left : List (Text × Entry)} {r : Except Failure Unit} {found more : List Event} :
    (∀ other ∈ left, n < other.1) →
      Walked w root room (.directory (here ++ [n]) package) (.ok ()) found →
      Walked w root room (.entries here package left) r more →
      Walked w root room (.entries here package ((n, .directory cs) :: left)) r (found ++ more)
  /-- A failure below ends the walk. -/
  | stopped {room : Nat} {here : List Text} {package : Option Descriptor} {n : Text}
      {cs left : List (Text × Entry)} {f : Failure} {found : List Event} :
    Walked w root room (.directory (here ++ [n]) package) (.error f) found →
      Walked w root room (.entries here package ((n, .directory cs) :: left)) (.error f) found

/-! ## The walk is a derivation -/

section Run

variable {root : List Text} {package : Option Descriptor} {room : Nat}
  (into : Path → ActionWith (List Event) Unit)

theorem yields_visit_file (n : Text) (data : List UInt8) :
    Yields w (visit ⟨1, root⟩ collect into package ⟨1, here ++ [n]⟩ (.file data)) (.ok ())
      [fileEvent w root here package n] := by
  unfold visit
  refine Yields.reads_bind (Reads.pure (some (Entry.file data))) ?_
  intro v before hv
  refine ⟨v, hv, ?_⟩
  have hworld : (liftM Action.world : ActionWith (List Event) World).runWith v before =
      (.ok v, v, before) := by simp
  rw [ActionWith.runWith_bind_ok hworld, hv.relative_eq]
  rfl

theorem yields_visit_directory (root : List Text) (package : Option Descriptor) {n : Text}
    (cs : List (Text × Entry)) {r : Except Failure Unit} {found : List Event}
    {into : Path → ActionWith (List Event) Unit} (h : Yields w (into ⟨1, here ++ [n]⟩) r found) :
    Yields w (visit ⟨1, root⟩ collect into package ⟨1, here ++ [n]⟩ (.directory cs)) r found := by
  unfold visit
  exact Yields.reads_bind (Reads.pure (some (Entry.directory cs))) h

/-- If the directories among the entries are walked by derivations, so are the entries. -/
theorem walked_of_visit {left : List (Text × Entry)} (horder : left.Pairwise fun s t => s.1 < t.1)
    (hlink : ∀ n target, (n, Entry.link target) ∉ left)
    (hfiles : ∀ n data, (n, .file data) ∈ left → FileIn w here n)
    (hinto : ∀ n cs, (n, .directory cs) ∈ left → ∃ r found,
      Yields w (into ⟨1, here ++ [n]⟩) r found ∧
        Walked w root room (.directory (here ++ [n]) package) r found) :
    ∃ r found,
      Yields w (left.forM fun (n, e) =>
        visit ⟨1, root⟩ collect into package ⟨1, here ++ [n]⟩ e) r found ∧
      Walked w root room (.entries here package left) r found := by
  induction left with
  | nil => exact ⟨.ok (), [], Yields.pure (), .done⟩
  | cons entry rest ih =>
    obtain ⟨n, e⟩ := entry
    obtain ⟨hfirst, hrest⟩ := List.pairwise_cons.1 horder
    obtain ⟨r, found, hrun, hwalked⟩ := ih hrest
      (fun m target hm => hlink m target (List.mem_cons_of_mem _ hm))
      (fun m data hm => hfiles m data (List.mem_cons_of_mem _ hm))
      (fun m cs hm => hinto m cs (List.mem_cons_of_mem _ hm))
    rw [List.forM]
    cases e with
    | link target => exact absurd List.mem_cons_self (hlink n target)
    | file data =>
      have hfile := hfiles n data List.mem_cons_self
      exact ⟨r, _, (yields_visit_file into n data).bind_ok hrun, .file hfile hfirst hwalked⟩
    | directory cs =>
      obtain ⟨r₁, found₁, hrun₁, hwalked₁⟩ := hinto n cs List.mem_cons_self
      have hvisit := yields_visit_directory root package cs hrun₁
      cases r₁ with
      | ok u => exact ⟨r, _, hvisit.bind_ok hrun, .enter hfirst hwalked₁ hwalked⟩
      | error f => exact ⟨_, _, hvisit.bind_error, .stopped hwalked₁⟩

/-- A package is walked by a derivation if its sources are. -/
theorem walked_of_package (package : Option Descriptor) {d : Descriptor}
    (hfile : w.Loads room here) (hd : w.packageAt? here = some d)
    (htells : ∀ src b, w.sourcesAt? here = some src → w.holds Entry.isDirectory src = .ok b →
      w.Tells Entry.isDirectory src b)
    (hwalk : ∀ src, w.sourcesAt? here = some src → w.Tells Entry.isDirectory src true →
      ∃ r found, Yields w (enter .root ⟨1, root⟩ collect room src (some d)) r found ∧
        Walked w root room (.directory src.names (some d)) r found) :
    ∃ r found,
      Yields w (do
        let src ← d.sourceDirectory
        collect (.package d)
        if ← hasSources src then enter .root ⟨1, root⟩ collect room src (some d)) r found ∧
      Walked w root (room + 1) (.directory here package) r found := by
  cases hname : d.sourceName with
  | error f =>
    have hread : Reads w d.sourceDirectory (.error f) := by
      unfold Descriptor.sourceDirectory
      rw [hname]
      exact fun v hv => ⟨v, hv, rfl⟩
    exact ⟨_, _, (Yields.of_reads hread).bind_error, .malformed hfile hd hname⟩
  | ok s =>
    have hread : Reads w d.sourceDirectory (ofLookup (w.resolve (d.directory.child s))) := by
      unfold Descriptor.sourceDirectory
      rw [hname]
      exact Reads.resolve (d.directory.child s)
    cases hsrc : w.resolve (d.directory.child s) with
    | error f =>
      rw [hsrc] at hread
      exact ⟨_, _, (Yields.of_reads hread).bind_error, .unresolved hfile hd hname hsrc⟩
    | ok src =>
      rw [hsrc] at hread
      have hat := sourcesAt?_eq_some hd hname hsrc
      have hhas := reads_hasSources (w := w) src
      cases hdir : w.holds Entry.isDirectory src with
      | error f =>
        rw [hdir] at hhas
        exact ⟨_, _, Yields.reads_bind hread
          ((Yields.collect _).bind_ok (Yields.of_reads hhas).bind_error),
          .refused hfile hd hat hdir⟩
      | ok b =>
        rw [hdir] at hhas
        have htell := htells src b hat hdir
        cases b with
        | false =>
          exact ⟨_, _, Yields.reads_bind hread
            ((Yields.collect _).bind_ok (Yields.reads_bind hhas (Yields.pure ()))),
            .alone hfile hd hat htell⟩
        | true =>
          obtain ⟨r, found, hrun, hwalked⟩ := hwalk src hat htell
          exact ⟨r, _, Yields.reads_bind hread
            ((Yields.collect _).bind_ok (Yields.reads_bind hhas hrun)),
            .sources hfile hd hat htell hwalked⟩

/-- A directory without a descriptor file is walked by a derivation if those in it are. -/
theorem walked_of_listing (package : Option Descriptor) (h : w.LinkFreeAt here es)
    (hfile : w.Tells Entry.isFile (descriptorPath here) false)
    (hwalk : ∀ n cs, w.tree.get? (here ++ [n]) = some (.directory cs) → ∃ r found,
      Yields w (enter .root ⟨1, root⟩ collect room ⟨1, here ++ [n]⟩ package) r found ∧
        Walked w root room (.directory (here ++ [n]) package) r found) :
    ∃ r found,
      Yields w (list ⟨1, root⟩ collect (fun p => enter .root ⟨1, root⟩ collect room p package)
        package ⟨1, here⟩) r found ∧
      Walked w root (room + 2) (.directory here package) r found := by
  have hlist := reads_entriesIn (h.entry_here isName_fileName hfile.answer)
  have hnone : w.descriptorData? here = none := by simpa using hfile.descriptorData?
  obtain ⟨r, found, hrun, hwalked⟩ := walked_of_visit
    (fun p => enter .root ⟨1, root⟩ collect room p package) (Entry.pairwise_inOrder h.nodup)
    (fun n target hn => h.not_link_of_mem (Entry.mem_inOrder.1 hn))
    (fun n data hn => ⟨hnone, data, h.mem_inOrder_iff.1 hn⟩)
    (fun n cs hn => hwalk n cs (h.mem_inOrder_iff.1 hn))
  exact ⟨r, found, Yields.reads_bind hlist hrun, .listing hfile h hwalked⟩

/-- Walking a directory is a derivation. -/
theorem walked_of_enter (room : Nat) (h : Grounded w here) :
    ∃ r found, Yields w (enter .root ⟨1, root⟩ collect room ⟨1, here⟩ package) r found ∧
      Walked w root room (.directory here package) r found := by
  induction room using Nat.strong_induction_on generalizing here package with
  | _ room ih =>
    cases room with
    | zero => exact ⟨_, _, Yields.throw _, .exhausted⟩
    | succ room =>
      obtain ⟨es, hfree⟩ := h.linkFree here .refl
      rw [enter]
      rcases hfile : w.holds Entry.isFile (descriptorPath here) with f | b
      · exact ⟨_, _, (Yields.of_reads (reads_descriptorIn_unanswered hfile)).bind_error,
          .unanswered hfile⟩
      have htell : w.Tells Entry.isFile (descriptorPath here) b :=
        ⟨hfile, hfree.holds_eq_ok noDots_fileName hfile⟩
      cases b with
      | false =>
        have hnone : w.descriptorData? here = none := by simpa using htell.descriptorData?
        have hread := reads_descriptorIn hfree (overflowsAt_eq_false hnone room)
        simp only [descriptorAt, hfile, ofLookup_ok, Except.map, Bool.false_eq_true,
          if_false] at hread
        cases room with
        | zero => exact ⟨_, _, Yields.reads_bind hread (Yields.throw _), .cramped htell⟩
        | succ room =>
          obtain ⟨r, found, hrun, hwalked⟩ := walked_of_listing package hfree htell
            (fun n cs hn => ih room (by omega) (h.of_enters (.child hnone hn)))
          refine ⟨r, found, Yields.reads_bind hread ?_, hwalked⟩
          rwa [enterPlain]
      | true =>
        cases hdeep : w.overflowsAt room here with
        | true =>
          have hread := reads_descriptorIn_overflows hfree hfile hdeep
          exact ⟨_, _, (Yields.of_reads hread).bind_error, .buried htell hdeep⟩
        | false =>
          have hread := reads_descriptorIn hfree hdeep
          simp only [descriptorAt, hfile, ofLookup_ok, Except.map, if_true] at hread
          cases hd : w.packageAt? here with
          | none =>
            rw [hd] at hread
            exact ⟨_, _, Yields.reads_bind hread (Yields.pure ()), .unreadable ⟨htell, hdeep⟩ hd⟩
          | some d =>
            rw [hd] at hread
            obtain ⟨r, found, hrun, hwalked⟩ := walked_of_package package ⟨htell, hdeep⟩ hd
              (fun src b hat hb => ⟨hb, h.sources here src b .refl hat hb⟩)
              (fun src hat hdir => by
                obtain ⟨cs, hcs⟩ := hdir.directory
                rw [← sourcesAt?_path hat]
                exact ih room (Nat.lt_succ_self room) (h.of_enters (.sources hat hcs)))
            exact ⟨r, found, Yields.reads_bind hread hrun, hwalked⟩

end Run

end Walk

end SourceDocs
