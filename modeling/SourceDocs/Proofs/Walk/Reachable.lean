import SourceDocs.Walk
import SourceDocs.Proofs.Action
import SourceDocs.Proofs.Files.LinkFree
import SourceDocs.Proofs.Json.Nesting

/-!
# The directories that a walk reaches

A walk of packages reads a tree as follows.  A directory may hold a descriptor file
(`World.descriptorData?`), which may describe a package (`World.packageAt?`), which has sources
(`World.sourcesAt?`).  From a directory without a descriptor file the walk goes to the directories
in it, from a package to its sources (`Walk.Enters`), and it reaches what it can go to
(`Walk.Reachable`).  A step to sources takes one of the calls that may nest, a step to a directory
in a directory two (`Walk.EntersWith`), and a walk has room if no directory that it reaches finds
too few of them left (`Walk.HasRoom`).
-/

namespace SourceDocs

namespace Descriptor

/-- The characters of a descriptor file with these bytes; `none` if it is no text. -/
def characters? (data : List UInt8) : Option (List Char) :=
  (Utf8.decode? data).map fun t => (Lines.universal t).map CodePoint.toChar

/-- The content of a descriptor file with these bytes; `none` if it is no text or no JSON object. -/
def ofBytes (data : List UInt8) : Option (List (Value × Value)) :=
  (characters? data).bind fun cs => (Json.read? cs).bind entries?

/-- Whether so many calls are too few to read a descriptor file with these bytes. -/
def overflows (room : Nat) (data : List UInt8) : Bool :=
  (characters? data).any (Json.overflows room)

theorem fits_of_le {room more : Nat} {data : List UInt8} (h : overflows room data = false)
    (hroom : room ≤ more) : overflows more data = false := by
  rw [← Bool.not_eq_true] at h ⊢
  intro hdeep
  obtain ⟨cs, hcs, hdeep⟩ := (Option.any_eq_true _ _).1 hdeep
  refine h ?_
  rw [overflows, hcs]
  exact Json.overflows_of_le hdeep hroom

/-- Some number of calls is enough for every descriptor file. -/
theorem exists_fits (data : List UInt8) : ∃ room, overflows room data = false := by
  cases hcs : characters? data with
  | none => exact ⟨0, by rw [overflows, hcs, Option.any_none]⟩
  | some cs =>
    refine ⟨Json.fuelFor cs, ?_⟩
    rw [overflows, hcs, Option.any_some, Json.overflows_eq_false (Nat.le_refl _)]

end Descriptor

namespace World

/-- The path of the descriptor file of a directory. -/
def descriptorPath (here : List Text) : Path := ⟨1, here ++ [Descriptor.fileName]⟩

/-- The bytes of the descriptor file of a directory, if there is a regular file of that name. -/
def descriptorData? (w : World) (here : List Text) : Option (List UInt8) :=
  match w.tree.get? (here ++ [Descriptor.fileName]) with
  | some (.file data) => some data
  | _ => none

/-- The package that the descriptor file of a directory describes. -/
def packageAt? (w : World) (here : List Text) : Option Descriptor :=
  ((w.descriptorData? here).bind Descriptor.ofBytes).map fun content =>
    ⟨descriptorPath here, content⟩

/-- Whether so many calls are too few to read the descriptor file of a directory. -/
def overflowsAt (w : World) (room : Nat) (here : List Text) : Bool :=
  (w.descriptorData? here).any (Descriptor.overflows room)

/-- The real path of the sources of the package in a directory. -/
def sourcesAt? (w : World) (here : List Text) : Option Path := do
  let d ← w.packageAt? here
  let name ← d.sourceName.toOption
  (w.resolve (d.directory.child name)).toOption

end World

namespace Walk

/-- From which directory a walk of packages goes to which. -/
inductive Enters (w : World) : List Text → List Text → Prop where
  /-- From a directory without a descriptor file to those in it. -/
  | child {here : List Text} {n : Text} {es : List (Text × Entry)} :
    w.descriptorData? here = none → w.tree.get? (here ++ [n]) = some (.directory es) →
      Enters w here (here ++ [n])
  /-- From the directory of a package to its sources. -/
  | sources {here : List Text} {src : Path} {es : List (Text × Entry)} :
    w.sourcesAt? here = some src → w.tree.get? src.names = some (.directory es) →
      Enters w here src.names

/-- The directories that a walk from a directory reaches. -/
def Reachable (w : World) : List Text → List Text → Prop := Relation.ReflTransGen (Enters w)

theorem reachable_iff {w : World} {here there : List Text} :
    Reachable w here there ↔
      there = here ∨ ∃ next, Enters w here next ∧ Reachable w next there := by
  unfold Reachable
  rw [Relation.ReflTransGen.cases_head_iff]
  exact or_congr_left eq_comm

/-- All packages that a walk reaches have their sources strictly below them. -/
def SourcesBelow (w : World) (root : List Text) : Prop :=
  ∀ here, Reachable w root here → ∀ src, w.sourcesAt? here = some src →
    ∃ rest, rest ≠ [] ∧ src.names = here ++ rest

/-- No way of a walk leads back to where it was. -/
def Forward (w : World) (root : List Text) : Prop :=
  ∀ here next, Reachable w root here → Enters w here next → ¬ Reachable w next here

/-- No way of a walk leads back to where it was, and ways that part do not meet again. -/
structure OneWay (w : World) (root : List Text) : Prop where
  forward : Forward w root
  apart : ∀ here next next' there, Reachable w root here → Enters w here next →
    Enters w here next' → Reachable w next there → Reachable w next' there → next = next'

/-- From which directory a walk of packages goes to which, with how many calls left. -/
inductive EntersWith (w : World) : Nat × List Text → Nat × List Text → Prop where
  /-- A directory is listed by a call of its own. -/
  | child {room : Nat} {here : List Text} {n : Text} {es : List (Text × Entry)} :
    w.descriptorData? here = none → w.tree.get? (here ++ [n]) = some (.directory es) →
      EntersWith w (room + 2, here) (room, here ++ [n])
  | sources {room : Nat} {here : List Text} {src : Path} {es : List (Text × Entry)} :
    w.sourcesAt? here = some src → w.tree.get? src.names = some (.directory es) →
      EntersWith w (room + 1, here) (room, src.names)

/-- The directories that a walk reaches from a directory, with how many calls left. -/
def ReachesWith (w : World) : Nat × List Text → Nat × List Text → Prop :=
  Relation.ReflTransGen (EntersWith w)

/-- So many calls are enough to look for a descriptor in a directory, to read it if there is one,
and else to list the directory. -/
structure Suffices (w : World) (room : Nat) (here : List Text) : Prop where
  look : 0 < room
  listing : w.descriptorData? here = none → 1 < room
  reading : w.overflowsAt (room - 1) here = false

/-- A walk from a directory has enough calls left wherever it comes. -/
def HasRoom (w : World) (room : Nat) (root : List Text) : Prop :=
  ∀ left here, ReachesWith w (room, root) (left, here) → Suffices w left here

end Walk

namespace World

theorem descriptorPath_eq (here : List Text) :
    Path.child ⟨1, here⟩ Descriptor.fileName = descriptorPath here := by
  have hname : Path.ofText Descriptor.fileName = ⟨0, [Descriptor.fileName]⟩ := by decide +kernel
  simp [Path.child, hname, Path.join, Path.isAbsolute, descriptorPath]

theorem isName_fileName : Files.isName Descriptor.fileName := by decide +kernel

theorem noDots_fileName : Path.NoDots [Descriptor.fileName] := by
  intro n hn
  obtain rfl := List.mem_singleton.1 hn
  exact Files.not_dots_of_isName isName_fileName

theorem packageAt?_eq_some {w : World} {here : List Text} {d : Descriptor}
    (h : w.packageAt? here = some d) :
    ∃ data, w.descriptorData? here = some data ∧ Descriptor.ofBytes data = some d.content ∧
      d.path = descriptorPath here := by
  obtain ⟨content, hcontent, rfl⟩ := Option.map_eq_some_iff.1 h
  obtain ⟨data, hdata, hbytes⟩ := Option.bind_eq_some_iff.1 hcontent
  exact ⟨data, hdata, hbytes, rfl⟩

theorem overflowsAt_eq {w : World} {here : List Text} {data : List UInt8}
    (h : w.descriptorData? here = some data) (room : Nat) :
    w.overflowsAt room here = Descriptor.overflows room data := by
  rw [overflowsAt, h, Option.any_some]

theorem mem_paths_descriptor {w : World} {here : List Text} {data : List UInt8}
    (h : w.descriptorData? here = some data) : here ++ [Descriptor.fileName] ∈ w.tree.paths := by
  unfold descriptorData? at h
  cases hget : w.tree.get? (here ++ [Descriptor.fileName]) with
  | none => simp [hget] at h
  | some e => exact Entry.mem_paths hget

/-- Some number of calls is enough for all descriptor files of a tree. -/
theorem exists_fits (w : World) : ∃ room, ∀ here data, w.descriptorData? here = some data →
    Descriptor.overflows room data = false := by
  have hbound (paths : List (List Text)) : ∃ room, ∀ names ∈ paths, ∀ data,
      w.descriptorData? names.dropLast = some data → Descriptor.overflows room data = false := by
    induction paths with
    | nil => exact ⟨0, fun _ hmem => absurd hmem List.not_mem_nil⟩
    | cons first rest ih =>
      obtain ⟨room, hroom⟩ := ih
      cases hfirst : w.descriptorData? first.dropLast with
      | none =>
        refine ⟨room, List.forall_mem_cons.2 ⟨fun data hdata => ?_, hroom⟩⟩
        rw [hfirst] at hdata
        cases hdata
      | some found =>
        obtain ⟨more, hmore⟩ := Descriptor.exists_fits found
        refine ⟨room + more, List.forall_mem_cons.2 ⟨fun data hdata => ?_,
          fun names hnames data hdata =>
            Descriptor.fits_of_le (hroom names hnames data hdata) (Nat.le_add_right _ _)⟩⟩
        rw [hfirst] at hdata
        cases hdata
        exact Descriptor.fits_of_le hmore (Nat.le_add_left _ _)
  obtain ⟨room, hroom⟩ := hbound w.tree.paths
  exact ⟨room, fun here data hdata => hroom _ (mem_paths_descriptor hdata) data
    (by rwa [List.dropLast_concat])⟩

theorem overflowsAt_eq_false {w : World} {here : List Text} (h : w.descriptorData? here = none)
    (room : Nat) : w.overflowsAt room here = false := by
  rw [overflowsAt, h, Option.any_none]

theorem directory_packageAt? {w : World} {here : List Text} {d : Descriptor}
    (h : w.packageAt? here = some d) : d.directory = ⟨1, here⟩ := by
  obtain ⟨-, -, -, hpath⟩ := packageAt?_eq_some h
  simp [Descriptor.directory, hpath, descriptorPath, Path.parent]

theorem sourcesAt?_eq_some {w : World} {here : List Text} {d : Descriptor} {s : Text} {src : Path}
    (hd : w.packageAt? here = some d) (hs : d.sourceName = .ok s)
    (hsrc : w.resolve (d.directory.child s) = .ok src) : w.sourcesAt? here = some src := by
  simp [sourcesAt?, hd, hs, hsrc, Except.toOption]

theorem exists_of_sourcesAt? {w : World} {here : List Text} {src : Path}
    (h : w.sourcesAt? here = some src) : ∃ d s, w.packageAt? here = some d ∧
      d.sourceName = .ok s ∧ w.resolve (d.directory.child s) = .ok src := by
  unfold sourcesAt? at h
  simp only [bind, Option.bind_eq_some_iff, toOption_eq_some_iff] at h
  obtain ⟨d, hd, s, hname, hsrc⟩ := h
  exact ⟨d, s, hd, hname, hsrc⟩

theorem sourcesAt?_shape {w : World} {here : List Text} {src : Path}
    (h : w.sourcesAt? here = some src) : src.root = 1 ∧ Path.NoDots src.names := by
  obtain ⟨_, _, -, -, hsrc⟩ := exists_of_sourcesAt? h
  exact resolve_shape hsrc

theorem sourcesAt?_path {w : World} {here : List Text} {src : Path}
    (h : w.sourcesAt? here = some src) : ⟨1, src.names⟩ = src := by
  rw [← (sourcesAt?_shape h).1]

theorem descriptorData?_of_sourcesAt? {w : World} {here : List Text} {src : Path}
    (h : w.sourcesAt? here = some src) : w.descriptorData? here ≠ none := by
  intro hnone
  simp [sourcesAt?, packageAt?, hnone] at h

end World

namespace Walk

open World

variable {w : World} {root here next : List Text}

theorem Enters.isDirectory (h : Enters w here next) :
    ∃ es, w.tree.get? next = some (.directory es) := by
  cases h with
  | child _ hget => exact ⟨_, hget⟩
  | sources _ hget => exact ⟨_, hget⟩

/-- The names of a directory and what can be seen of it agree wherever a walk goes. -/
structure Grounded (w : World) (root : List Text) : Prop where
  linkFree : ∀ here, Reachable w root here → ∃ es, w.LinkFreeAt here es
  sources : ∀ here src b, Reachable w root here → w.sourcesAt? here = some src →
    w.holds Entry.isDirectory src = .ok b → (w.tree.get? src.names).any Entry.isDirectory = b

theorem Grounded.of_enters (h : Grounded w root) (henters : Enters w root here) :
    Grounded w here :=
  ⟨fun there hthere => h.linkFree there (.head henters hthere),
    fun there src b hthere => h.sources there src b (.head henters hthere)⟩

/-- The whole of a tree without links, in which there is a directory. -/
theorem linkFreeAt_top {names : List Text} {es : List (Text × Entry)} (named : w.tree.isWellNamed)
    (free : w.tree.isLinkFree) (h : w.tree.get? names = some (.directory es)) :
    ∃ ts, w.LinkFreeAt [] ts := by
  cases ht : w.tree with
  | directory ts => exact ⟨ts, by rw [Entry.get?_nil, ht], named, ht ▸ free⟩
  | file data => cases names <;> simp [ht, Entry.get?_cons, Entry.entries] at h
  | link target => cases names <;> simp [ht, Entry.get?_cons, Entry.entries] at h

/-- In a tree without links, a walk may go anywhere. -/
theorem grounded_of_isLinkFree {es : List (Text × Entry)} (named : w.tree.isWellNamed)
    (free : w.tree.isLinkFree) (hroot : w.tree.get? root = some (.directory es)) :
    Grounded w root := by
  have hdir : ∀ here, Reachable w root here → ∃ cs, w.tree.get? here = some (.directory cs) := by
    intro here hreach
    induction hreach with
    | refl => exact ⟨es, hroot⟩
    | tail _ henters _ => exact henters.isDirectory
  have hfree {there : List Text} {cs : List (Text × Entry)}
      (hcs : w.tree.get? there = some (.directory cs)) : w.LinkFreeAt there cs :=
    ⟨hcs, named, Entry.isLinkFree_get? free hcs⟩
  refine ⟨fun here hreach => ?_, fun here src b hreach hat hb => ?_⟩
  · obtain ⟨cs, hcs⟩ := hdir here hreach
    exact ⟨cs, hfree hcs⟩
  · obtain ⟨hone, hdots⟩ := sourcesAt?_shape hat
    obtain ⟨ts, htop⟩ := linkFreeAt_top named free hroot
    have hpath : src = ⟨1, [] ++ src.names⟩ := by rw [← hone, List.nil_append]
    rw [hpath] at hb
    exact htop.holds_eq_ok hdots hb

/-! ## Sources below their packages -/

theorem SourcesBelow.enters (h : SourcesBelow w root) (hreach : Reachable w root here)
    (henters : Enters w here next) : ∃ rest, rest ≠ [] ∧ next = here ++ rest := by
  cases henters with
  | child _ _ => exact ⟨_, by simp, rfl⟩
  | sources hat _ => exact h here hreach _ hat

theorem SourcesBelow.of_reachable (h : SourcesBelow w root) (hreach : Reachable w root here) :
    SourcesBelow w here :=
  fun there hthere => h there (hreach.trans hthere)

theorem SourcesBelow.root_above (h : SourcesBelow w root) (hreach : Reachable w root here) :
    root <+: here := by
  induction hreach with
  | refl => exact List.prefix_rfl
  | tail hmid henters ih =>
    obtain ⟨rest, -, rfl⟩ := h.enters hmid henters
    exact ih.trans (List.prefix_append _ _)

/-- From a directory a walk goes on to at most one that is above a given one. -/
theorem Enters.eq_of_above {next' there : List Text} (h : Enters w here next)
    (h' : Enters w here next') (hpre : next <+: there) (hpre' : next' <+: there) :
    next = next' := by
  cases h with
  | child hnone hget =>
    cases h' with
    | child _ _ =>
      exact (List.prefix_of_prefix_length_le hpre hpre' (by simp)).eq_of_length (by simp)
    | sources hat _ => exact absurd hnone (descriptorData?_of_sourcesAt? hat)
  | sources hat hget =>
    cases h' with
    | child hnone _ => exact absurd hnone (descriptorData?_of_sourcesAt? hat)
    | sources hat' _ => rw [Option.some.inj (hat.symm.trans hat')]

theorem SourcesBelow.oneWay (h : SourcesBelow w root) : OneWay w root := by
  refine ⟨fun here next hreach henters hback => ?_,
    fun here next next' there hreach henters henters' hthere hthere' => ?_⟩
  · obtain ⟨rest, hne, rfl⟩ := h.enters hreach henters
    have hlength := ((h.of_reachable (hreach.tail henters)).root_above hback).length_le
    have := List.length_pos_of_ne_nil hne
    rw [List.length_append] at hlength
    omega
  · exact henters.eq_of_above henters' ((h.of_reachable (hreach.tail henters)).root_above hthere)
      ((h.of_reachable (hreach.tail henters')).root_above hthere')

/-- A walk that comes to two directories, one above the other, comes to the lower one through the
upper one. -/
theorem SourcesBelow.reachable_of_prefix {there : List Text} (h : SourcesBelow w root)
    (hhere : Reachable w root here) (hthere : Reachable w root there) (hpre : here <+: there) :
    Reachable w here there := by
  induction hhere using Relation.ReflTransGen.head_induction_on with
  | refl => exact hthere
  | head henters hmid ih =>
    have hnext := h.of_reachable (.single henters)
    have habove := (hnext.root_above hmid).trans hpre
    rcases reachable_iff.1 hthere with rfl | ⟨next', henters', hthere'⟩
    · obtain ⟨rest, hne, rfl⟩ := h.enters .refl henters
      have hlength := habove.length_le
      have := List.length_pos_of_ne_nil hne
      rw [List.length_append] at hlength
      omega
    · have habove' := (h.of_reachable (.single henters')).root_above hthere'
      obtain rfl := henters.eq_of_above henters' habove habove'
      exact ih hnext hthere'

/-- Below a link-free directory, with all sources below their packages, a walk stays there. -/
theorem SourcesBelow.grounded {es : List (Text × Entry)} (h : SourcesBelow w root)
    (hroot : w.LinkFreeAt root es) : Grounded w root := by
  have hfree : ∀ here, Reachable w root here → ∃ cs, w.LinkFreeAt here cs := by
    intro here hreach
    obtain ⟨rest, rfl⟩ := h.root_above hreach
    cases hreach.cases_tail with
    | inl heq =>
      rw [heq]
      exact ⟨es, hroot⟩
    | inr hmid =>
      obtain ⟨_, _, henters⟩ := hmid
      obtain ⟨cs, hcs⟩ := henters.isDirectory
      exact ⟨cs, hroot.below hcs⟩
  refine ⟨hfree, fun here src b hreach hat hb => ?_⟩
  obtain ⟨cs, hcs⟩ := hfree here hreach
  obtain ⟨rest, -, hnames⟩ := h here hreach src hat
  obtain ⟨hone, hdots⟩ := sourcesAt?_shape hat
  have hpath : src = ⟨1, here ++ rest⟩ := by rw [← hone, ← hnames]
  rw [hnames] at hdots
  rw [hpath] at hb
  rw [hnames]
  exact hcs.holds_eq_ok (fun n hn => hdots n (List.mem_append_right _ hn)) hb

/-! ## Room -/

theorem EntersWith.enters {p q : Nat × List Text} (h : EntersWith w p q) : Enters w p.2 q.2 := by
  cases h with
  | child hnone hget => exact .child hnone hget
  | sources hat hget => exact .sources hat hget

theorem ReachesWith.reachable {p q : Nat × List Text} (h : ReachesWith w p q) :
    Reachable w p.2 q.2 := by
  induction h with
  | refl => exact .refl
  | tail _ henters ih => exact ih.tail henters.enters

theorem hasRoom_iff {room : Nat} : HasRoom w room here ↔ Suffices w room here ∧
    ∀ left next, EntersWith w (room, here) (left, next) → HasRoom w left next := by
  constructor
  · exact fun h => ⟨h room here .refl, fun left next henters there k hreach =>
      h there k (.head henters hreach)⟩
  · rintro ⟨hfits, hnext⟩ left there hreach
    rcases Relation.ReflTransGen.cases_head_iff.1 hreach with heq | ⟨⟨k, next⟩, henters, hrest⟩
    · cases heq
      exact hfits
    · exact hnext k next henters left there hrest

theorem not_hasRoom_zero : ¬ HasRoom w 0 here := fun h =>
  absurd (hasRoom_iff.1 h).1.look (Nat.lt_irrefl 0)

theorem not_hasRoom_one (hnone : w.descriptorData? here = none) : ¬ HasRoom w 1 here := fun h =>
  absurd ((hasRoom_iff.1 h).1.listing hnone) (Nat.lt_irrefl 1)

theorem not_hasRoom_of_overflows {room : Nat} (h : w.overflowsAt room here) :
    ¬ HasRoom w (room + 1) here := fun hroom => by
  have hreading := (hasRoom_iff.1 hroom).1.reading
  rw [Nat.add_sub_cancel, h] at hreading
  cases hreading

/-- A walk goes on from a package with one call less. -/
theorem hasRoom_sources {room : Nat} {src : Path} {es : List (Text × Entry)}
    (hfits : w.overflowsAt room here = false) (hat : w.sourcesAt? here = some src)
    (hget : w.tree.get? src.names = some (.directory es)) :
    HasRoom w (room + 1) here ↔ HasRoom w room src.names := by
  have hdata := descriptorData?_of_sourcesAt? hat
  constructor
  · exact fun h => (hasRoom_iff.1 h).2 room src.names (.sources hat hget)
  · refine fun h => hasRoom_iff.2 ⟨⟨Nat.succ_pos room, fun hnone => absurd hnone hdata, hfits⟩,
      fun left next henters => ?_⟩
    cases henters with
    | child hnone _ => exact absurd hnone hdata
    | sources hat' _ => rwa [← Option.some.inj (hat.symm.trans hat')]

/-- A walk goes on from a directory without a descriptor file with two calls less. -/
theorem hasRoom_listing {room : Nat} (hnone : w.descriptorData? here = none) :
    HasRoom w (room + 2) here ↔ ∀ n cs, w.tree.get? (here ++ [n]) = some (.directory cs) →
      HasRoom w room (here ++ [n]) := by
  constructor
  · exact fun h n cs hget => (hasRoom_iff.1 h).2 room _ (.child hnone hget)
  · refine fun h => hasRoom_iff.2 ⟨⟨Nat.succ_pos _, fun _ => Nat.succ_lt_succ (Nat.succ_pos room),
      overflowsAt_eq_false hnone _⟩, fun left next henters => ?_⟩
    cases henters with
    | child _ hget => exact h _ _ hget
    | sources hat _ => exact absurd hnone (descriptorData?_of_sourcesAt? hat)

/-- A directory with a descriptor file that leads nowhere takes one call. -/
theorem hasRoom_end {room : Nat} (hdata : w.descriptorData? here ≠ none)
    (hfits : w.overflowsAt room here = false) (hend : ∀ next, ¬ Enters w here next) :
    HasRoom w (room + 1) here :=
  hasRoom_iff.2 ⟨⟨Nat.succ_pos room, fun hnone => absurd hnone hdata, hfits⟩,
    fun _ next henters => absurd henters.enters (hend next)⟩

/-! ## The length of a way -/

theorem reachable_of_isChain {way : List (List Text)} (h : (here :: way).IsChain (Enters w)) :
    ∀ there ∈ here :: way, Reachable w here there := by
  induction way generalizing here with
  | nil => exact List.forall_mem_singleton.2 .refl
  | cons next rest ih =>
    obtain ⟨henters, hrest⟩ := List.isChain_cons_cons.1 h
    intro there hthere
    rcases List.mem_cons.1 hthere with rfl | hthere
    · exact .refl
    · exact .head henters (ih hrest there hthere)

theorem Forward.nodup_of_isChain (h : Forward w root) {way : List (List Text)}
    (hreach : Reachable w root here) (hway : (here :: way).IsChain (Enters w)) :
    (here :: way).Nodup := by
  induction way generalizing here with
  | nil => exact List.nodup_singleton here
  | cons next rest ih =>
    obtain ⟨henters, hrest⟩ := List.isChain_cons_cons.1 hway
    refine List.nodup_cons.2 ⟨fun hmem => ?_, ih (hreach.tail henters) hrest⟩
    exact h here next hreach henters (reachable_of_isChain hrest here hmem)

/-- A way that does not lead back is no longer than the tree is large. -/
theorem Forward.length_le (h : Forward w root) {es : List (Text × Entry)}
    (hroot : w.tree.get? root = some (.directory es)) {way : List (List Text)}
    (hway : (root :: way).IsChain (Enters w)) : way.length < w.tree.size := by
  have hpaths : root :: way ⊆ w.tree.paths := by
    intro there hthere
    cases (reachable_of_isChain hway there hthere).cases_tail with
    | inl heq =>
      rw [heq]
      exact Entry.mem_paths hroot
    | inr hmid =>
      obtain ⟨_, _, henters⟩ := hmid
      obtain ⟨cs, hcs⟩ := henters.isDirectory
      exact Entry.mem_paths hcs
  have hlength := (List.subperm_of_subset (h.nodup_of_isChain .refl hway) hpaths).length_le
  rwa [Entry.length_paths, List.length_cons] at hlength

/-- A walk takes at most two calls for each step. -/
theorem ReachesWith.exists_way {room left : Nat} {there : List Text}
    (h : ReachesWith w (room, here) (left, there)) :
    ∃ way, (here :: way).IsChain (Enters w) ∧ room ≤ left + 2 * way.length := by
  generalize hp : (room, here) = p at h
  induction h using Relation.ReflTransGen.head_induction_on generalizing room here with
  | refl =>
    cases hp
    exact ⟨[], .singleton _, Nat.le_refl _⟩
  | @head p' q henters _ ih =>
    subst hp
    obtain ⟨k, next⟩ := q
    obtain ⟨way, hway, hle⟩ := ih rfl
    have hstep : room ≤ k + 2 := by cases henters <;> omega
    exact ⟨next :: way, List.isChain_cons_cons.2 ⟨henters.enters, hway⟩, by
      rw [List.length_cons]
      omega⟩

/-- If no way leads back, enough calls are enough. -/
theorem Forward.hasRoom (h : Forward w root) {es : List (Text × Entry)}
    (hroot : w.tree.get? root = some (.directory es)) {most room : Nat}
    (hmost : ∀ here data, Reachable w root here → w.descriptorData? here = some data →
      Descriptor.overflows most data = false)
    (hroom : most + 2 * w.tree.size < room) : HasRoom w room root := by
  intro left here hreach
  obtain ⟨way, hway, hle⟩ := hreach.exists_way
  have hlength := h.length_le hroot hway
  refine ⟨by omega, fun _ => by omega, ?_⟩
  cases hdata : w.descriptorData? here with
  | none => exact overflowsAt_eq_false hdata _
  | some data =>
    rw [overflowsAt_eq hdata]
    exact Descriptor.fits_of_le (hmost here data hreach.reachable hdata) (by omega)

end Walk

end SourceDocs
