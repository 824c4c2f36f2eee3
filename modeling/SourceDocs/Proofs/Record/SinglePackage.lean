import SourceDocs.Proofs.Files.LinkFree
import SourceDocs.Proofs.Looking
import SourceDocs.Proofs.Run.Sample

/-!
# The descriptor of a single source tree

The descriptor is read twice: before the files are collected, for the name and the main file of the
package (`packageAt`), and after that, for its record (`singlePackageRecord`).  The first reading
ignores whatever goes wrong.  The second one makes an empty record of what the system itself refuses
(`World.Refuses`), but lets through what goes wrong in any other way (`World.Unforeseen`).
`descriptor_recorded` is the whole statement.
-/

namespace SourceDocs

open SourceDocs.Action

namespace World

/-- A path leads to a file with this text, and this is its real path. -/
structure Reads (w : World) (p : Path) (t : Text) (real : Path) : Prop where
  text : ∃ data s, w.entry p = .ok (.file data) ∧ Utf8.decode? data = some s ∧ t = Lines.universal s
  real : w.resolve p = .ok real

/-- The system refuses to read a file at a path: nothing is found there, or no file is. -/
def Refuses (w : World) (p : Path) : Prop :=
  match w.entry p with
  | .ok e => ¬ e.isFile
  | .error f => f.isSystem

/-- No text can be read at a path, for whatever reason. -/
def Unreadable (w : World) (p : Path) : Prop :=
  ∀ data, w.entry p = .ok (.file data) → Utf8.decode? data = none

/-- What goes wrong at a path without being a refusal of the system. -/
inductive Unforeseen (w : World) (p : Path) : Failure → Prop where
  /-- The file has bytes that are no UTF-8. -/
  | undecodable {data : List UInt8} :
    w.entry p = .ok (.file data) → Utf8.decode? data = none →
      Unforeseen w p (.raised (.codec .undecodable))
  /-- The system cannot be handed the path. -/
  | unspeakable {f : FileFault} :
    w.entry p = .error f → f = .nulCharacter ∨ f = .unencodable →
      Unforeseen w p (.raised (.file f))
  /-- The text has been read, but the path cannot be resolved. -/
  | unresolvable {data : List UInt8} {t : Text} :
    w.entry p = .ok (.file data) → Utf8.decode? data = some t →
      w.resolve p = .error .unresolvable → Unforeseen w p (.raised (.file .unresolvable))

variable {w : World} {p : Path}

/-- A look-up fails by a refusal of the system, unless the system cannot be handed the path. -/
theorem entry_error_cases {f : FileFault} (h : w.entry p = .error f) :
    f.isSystem ∨ f = .nulCharacter ∨ f = .unencodable := by
  rcases entry_error h with habsent | rfl
  · cases f <;> simp_all [isAbsence, FileFault.isSystem]
  · exact .inl rfl

/-- A path that leads to something fails to be resolved only in one way. -/
theorem resolve_error_of_entry {e : Entry} {f : FileFault} (he : w.entry p = .ok e)
    (h : w.resolve p = .error f) : f = .unresolvable := by
  have hcheck : Files.checkPath p = .ok () := by
    cases hc : Files.checkPath p with
    | ok u => rfl
    | error g =>
      simp [World.entry, Files.entry, Files.follow, Files.checkLookup, hc, bind, Except.bind] at he
  unfold World.resolve Files.realPath at h
  simp only [hcheck, bind, Except.bind] at h
  split at h
  · exact (Except.error.inj h).symm
  · cases h

theorem Refuses.readText (h : w.Refuses p) :
    ∃ f : FileFault, f.isSystem ∧
      (Files.readText p).runIn w = (.error (.raised (.file f)), w) := by
  unfold Refuses at h
  split at h
  · rename_i e he
    exact ⟨.isDirectory, rfl, runIn_readText_other he h⟩
  · rename_i f hf
    exact ⟨f, h, runIn_readText_error hf⟩

/-- A descriptor is read, or the system refuses to read it, or something else goes wrong. -/
theorem reading_cases (w : World) (p : Path) :
    (∃ t real, w.Reads p t real) ∨ w.Refuses p ∨ ∃ f, w.Unforeseen p f := by
  cases he : w.entry p with
  | error f =>
    rcases entry_error_cases he with hsystem | hother
    · exact .inr (.inl (by simpa only [Refuses, he] using hsystem))
    · exact .inr (.inr ⟨_, .unspeakable he hother⟩)
  | ok e =>
    cases e with
    | file data =>
      cases ht : Utf8.decode? data with
      | none => exact .inr (.inr ⟨_, .undecodable he ht⟩)
      | some t =>
        cases hreal : w.resolve p with
        | ok real => exact .inl ⟨_, real, ⟨data, t, he, ht, rfl⟩, hreal⟩
        | error f =>
          obtain rfl := resolve_error_of_entry he hreal
          exact .inr (.inr ⟨_, .unresolvable he ht hreal⟩)
    | directory es => exact .inr (.inl (by simp [Refuses, he, Entry.isFile]))
    | link target => exact .inr (.inl (by simp [Refuses, he, Entry.isFile]))

end World

namespace Synthetic

open World

/-- The record of the descriptor at a path. -/
def descriptorRecord (w : World) (p : Path) (content longname : Text) : DocRecord where
  docId := w.nextId
  kind := "legacy-package"
  name := p.name
  longname := longname
  static := true
  payload := [("package", .null), ("content", .text content)]

variable {w : World} {p : Path}

theorem runIn_textAndPath {t : Text} (h : (Files.readText p).runIn w = (.ok t, w)) :
    (textAndPath p).runIn w = ((ofLookup (w.resolve p)).map fun real => (t, real), w) := by
  rw [textAndPath, runIn_bind_ok h, runIn_bind, runIn_resolve]
  cases ofLookup (w.resolve p) <;> rfl

theorem singlePackageRecord_of_reads {t : Text} {real : Path} (h : w.Reads p t real) :
    (singlePackageRecord p).runIn w =
      (.ok (descriptorRecord w p t real.toText), { w with nextId := w.nextId + 1 }) := by
  obtain ⟨⟨data, s, hentry, hs, rfl⟩, hreal⟩ := h
  have hread : (Files.readText p).runIn w = (.ok (Lines.universal s), w) := by
    rw [runIn_readText_file hentry, hs]
  rw [singlePackageRecord, runIn_attempt_bind, runIn_textAndPath hread, hreal]
  rfl

theorem singlePackageRecord_of_refuses (h : w.Refuses p) :
    (singlePackageRecord p).runIn w =
      (.ok (descriptorRecord w p [] []),
        { w with nextId := w.nextId + 1, log := .unreadPackage p :: w.log }) := by
  obtain ⟨f, hsystem, hread⟩ := h.readText
  have hboth : (textAndPath p).runIn w = (.error (.raised (.file f)), w) := by
    rw [textAndPath, runIn_bind_error hread]
  rw [singlePackageRecord, runIn_attempt_bind, hboth]
  simp only [if_pos hsystem]
  rfl

theorem singlePackageRecord_of_unforeseen {f : Failure} (h : w.Unforeseen p f) :
    (singlePackageRecord p).runIn w = (.error f, w) := by
  have hboth : (textAndPath p).runIn w = (.error f, w) := by
    cases h with
    | undecodable hentry hdata =>
      have hread := runIn_readText_file hentry
      rw [hdata] at hread
      rw [textAndPath, runIn_bind_error hread]
    | unspeakable hentry _ => rw [textAndPath, runIn_bind_error (runIn_readText_error hentry)]
    | unresolvable hentry ht hreal =>
      have hread := runIn_readText_file hentry
      rw [ht] at hread
      rw [runIn_textAndPath hread, hreal]
      rfl
  rw [singlePackageRecord, runIn_attempt_bind, hboth]
  rcases h with _ | ⟨-, rfl | rfl⟩ | _ <;> rfl

/-- Only what is unforeseen makes the record of a descriptor fail. -/
theorem singlePackageRecord_error_iff {f : Failure} :
    ((singlePackageRecord p).runIn w).1 = .error f ↔ w.Unforeseen p f := by
  refine ⟨fun hfails => ?_, fun h => by rw [singlePackageRecord_of_unforeseen h]⟩
  rcases reading_cases w p with ⟨t, real, h⟩ | h | ⟨g, h⟩
  · rw [singlePackageRecord_of_reads h] at hfails
    cases hfails
  · rw [singlePackageRecord_of_refuses h] at hfails
    cases hfails
  · rw [singlePackageRecord_of_unforeseen h] at hfails
    obtain rfl := Except.error.inj hfails
    exact h

end Synthetic

namespace Run

open World Synthetic

variable {w : World} {p : Path}

/-- A descriptor without a text describes no package. -/
theorem packageAt_of_unreadable (h : w.Unreadable p) :
    (packageAt (some p)).runIn w = (.ok {}, w) := by
  have hread : ∃ f, (Files.readText p).runIn w = (.error f, w) := by
    cases he : w.entry p with
    | error f => exact ⟨_, runIn_readText_error he⟩
    | ok e =>
      cases e with
      | file data =>
        refine ⟨.raised (.codec .undecodable), ?_⟩
        rw [runIn_readText_file he, h data he]
      | directory es => exact ⟨_, runIn_readText_other he Bool.false_ne_true⟩
      | link target => exact ⟨_, runIn_readText_other he Bool.false_ne_true⟩
  obtain ⟨f, hread⟩ := hread
  have hcontent : (Descriptor.readContent w.stack p).runIn w = (.ok none, w) := by
    rw [Descriptor.readContent, runIn_attempt_bind, hread]
    rfl
  rw [packageAt, runIn_bind_ok (runIn_get w), runIn_bind_ok hcontent]
  rfl

/-- In the run over a single source tree, the record of the descriptor is all that the descriptor
adds. -/
theorem runIn_packageRecords {s : Settings} {source : Path} (hsource : s.source = some source)
    (hpackage : s.package = some p) (w : World) :
    (packageRecords s).runIn w =
      (((singlePackageRecord p).runIn w).1.map fun r => [r],
        ((singlePackageRecord p).runIn w).2) := by
  rw [packageRecords, hsource, hpackage]
  simp only [runIn_bind]
  rcases (singlePackageRecord p).runIn w with ⟨f | r, w'⟩ <;> rfl

/-- The record of a descriptor has its text and its real path; it is empty if the system refuses to
read the file.  The record, and with it the run over a single source tree, fails if and only if
something unforeseen goes wrong, although a descriptor without a text has been ignored before. -/
theorem descriptor_recorded (w : World) (p : Path) :
    (∀ t real, w.Reads p t real →
      (singlePackageRecord p).runIn w =
        (.ok (descriptorRecord w p t real.toText), { w with nextId := w.nextId + 1 })) ∧
    (w.Refuses p →
      (singlePackageRecord p).runIn w =
        (.ok (descriptorRecord w p [] []),
          { w with nextId := w.nextId + 1, log := .unreadPackage p :: w.log })) ∧
    (∀ f, ((singlePackageRecord p).runIn w).1 = .error f ↔ w.Unforeseen p f) ∧
    (∀ (s : Settings) (source : Path), s.source = some source → s.package = some p →
      ∀ f, ((packageRecords s).runIn w).1 = .error f ↔ w.Unforeseen p f) ∧
    (w.Unreadable p → (packageAt (some p)).runIn w = (.ok {}, w)) := by
  refine ⟨fun t real => singlePackageRecord_of_reads, singlePackageRecord_of_refuses,
    fun f => singlePackageRecord_error_iff, fun s source hsource hpackage f => ?_,
    packageAt_of_unreadable⟩
  rw [← singlePackageRecord_error_iff, runIn_packageRecords hsource hpackage]
  cases ((singlePackageRecord p).runIn w).1 <;> simp [Except.map]

/-- A descriptor with a text, and a missing one. -/
theorem descriptor_recorded_sample :
    (singlePackageRecord ⟨1, ["r", "p", "package.json"]⟩).runIn Sample.world =
      (.ok (descriptorRecord Sample.world ⟨1, ["r", "p", "package.json"]⟩ "\x7b\x7d"
        "/r/p/package.json"), { Sample.world with nextId := 2 }) ∧
    (singlePackageRecord ⟨1, ["package.json"]⟩).runIn Sample.world =
      (.ok (descriptorRecord Sample.world ⟨1, ["package.json"]⟩ [] []),
        { Sample.world with nextId := 2, log := [.unreadPackage ⟨1, ["package.json"]⟩] }) ∧
    (packageAt (some ⟨1, ["package.json"]⟩)).runIn Sample.world = (.ok {}, Sample.world) := by
  have hreads : Sample.world.Reads ⟨1, ["r", "p", "package.json"]⟩ "\x7b\x7d"
      ⟨1, ["r", "p", "package.json"]⟩ :=
    ⟨⟨[0x7B, 0x7D], "\x7b\x7d", by rfl, by decide +kernel, by decide +kernel⟩, by rfl⟩
  have hmissing : Sample.world.entry ⟨1, ["package.json"]⟩ = .error .notFound := by rfl
  obtain ⟨htext, -⟩ := descriptor_recorded Sample.world ⟨1, ["r", "p", "package.json"]⟩
  obtain ⟨-, hempty, -, -, hignored⟩ := descriptor_recorded Sample.world ⟨1, ["package.json"]⟩
  refine ⟨?_, hempty (by rw [Refuses, hmissing]; rfl), hignored fun data h => ?_⟩
  · exact (htext _ _ hreads).trans (by rfl)
  · rw [hmissing] at h
    cases h

/-- A single source tree with a descriptor that is no UTF-8. -/
def undecodable : World where
  tree := .directory
    [("package.json", .file [0xFF]),
     ("r", .directory [("p", .directory [("src", .directory [("a.py", .file [])])])])]
  current := []
  home := ⟨1, []⟩

/-- Whether an action has failed because bytes are no UTF-8. -/
def cannotDecode {α : Type} : Except Failure α × World → Bool
  | (.error (.raised (.codec .undecodable)), _) => true
  | _ => false

theorem exists_of_cannotDecode {α : Type} {r : Except Failure α × World}
    (h : cannotDecode r = true) : r = (.error (.raised (.codec .undecodable)), r.2) := by
  unfold cannotDecode at h
  split at h
  · rfl
  · cases h

/-- A descriptor that is no UTF-8 is ignored at first, but has no record, and the run fails in the
end. -/
theorem descriptor_not_recorded :
    (packageAt (some ⟨1, ["package.json"]⟩)).runIn undecodable = (.ok {}, undecodable) ∧
    (∃ w', (singlePackageRecord ⟨1, ["package.json"]⟩).runIn undecodable =
      (.error (.raised (.codec .undecodable)), w')) ∧
    ∃ w', (generate {} Sample.sourceSettings).runIn undecodable =
      (.error (.raised (.codec .undecodable)), w') := by
  refine ⟨packageAt_of_unreadable fun data h => ?_, ⟨_, exists_of_cannotDecode ?_⟩,
    ⟨_, exists_of_cannotDecode ?_⟩⟩
  · have hfile : undecodable.entry ⟨1, ["package.json"]⟩ = .ok (.file [0xFF]) := by rfl
    rw [hfile] at h
    cases h
    decide +kernel
  · decide +kernel
  · decide +kernel

end Run

end SourceDocs
