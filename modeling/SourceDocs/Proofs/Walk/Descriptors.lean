import SourceDocs.Proofs.Text.Utf8
import SourceDocs.Proofs.Walk.Coming
import SourceDocs.Proofs.Walk.Exact

/-!
# Descriptors that cannot be used

A descriptor file may be no JSON object, or name its sources by something else than a text.  The
first kind only hides its directory: a walk goes as if that were empty.  The second kind ends the
walk: up to there it finds what it would find if the descriptor named its sources by a text.  The
main result, `Walk.events_with_failing_descriptors`, compares the walks of two trees; they differ
in what is below a directory, or in a single file.
-/

namespace SourceDocs

namespace Descriptor

/-- What a descriptor says about its sources. -/
def namedSources? (d : Descriptor) : Option Value :=
  match Value.lookupText d.content "directories" with
  | some (.mapping directories) => Value.lookupText directories "src"
  | _ => none

/-- Sources that are named by something else than a text are an error. -/
theorem sourceName_of_named {d : Descriptor} {v : Value} (h : d.namedSources? = some v)
    (hnull : v ≠ .null) (htext : ∀ t, v ≠ .text t) :
    d.sourceName = .error (.descriptor d.path v.typeName) := by
  unfold namedSources? at h
  unfold sourceName
  cases hvalue : Value.lookupText d.content "directories" with
  | none =>
    rw [hvalue] at h
    cases h
  | some value =>
    rw [hvalue] at h
    cases value with
    | mapping directories =>
      simp only at h
      simp only [h]
    | _ => cases h

/-- A descriptor that names its sources by a plain path, one that the system can be handed. -/
structure NamesSources (d : Descriptor) : Prop where
  plain : d.hasPlainSource
  sound : ∀ t, d.sourceName = .ok t → Files.checkPath (Path.ofText t) = .ok ()

end Descriptor

namespace Files

theorem checkPath_eq_ok {k : Nat} {names : List Text} : checkPath ⟨k, names⟩ = .ok () ↔
    (names.any fun n => n.any fun c => c.isSurrogate && !isByte c) = false ∧
      (names.any fun n => n.any fun c => decide (c = (0 : CodePoint))) = false := by
  unfold checkPath
  simp only
  split_ifs with hbad hzero
  · rw [hbad]
    exact iff_of_false (fun h => by cases h) fun h => Bool.noConfusion h.1
  · rw [hzero]
    exact iff_of_false (fun h => by cases h) fun h => Bool.noConfusion h.2
  · exact iff_of_true rfl ⟨Bool.eq_false_iff.2 hbad, Bool.eq_false_iff.2 hzero⟩

theorem checkPath_append {j k : Nat} {names rest : List Text} (hnames : ∀ n ∈ names, isName n)
    (hrest : checkPath ⟨k, rest⟩ = .ok ()) : checkPath ⟨j, names ++ rest⟩ = .ok () := by
  obtain ⟨hbad, hzero⟩ := checkPath_eq_ok.1 (checkPath_of_isName (k := k) hnames)
  obtain ⟨hbad', hzero'⟩ := checkPath_eq_ok.1 hrest
  rw [checkPath_eq_ok, List.any_append, List.any_append, hbad, hbad', hzero, hzero']
  exact ⟨rfl, rfl⟩

end Files

namespace Walk

open World

variable {w w' : World} {root here there rest place : List Text} {es cs : List (Text × Entry)}
  {package : Option Descriptor} {room last : Nat} {s : Stage} {r : Except Failure Unit}
  {found before : List Event}

/-! ## Trees with plain texts -/

/-- All descriptors below a directory that name their sources by a text do so by a plain path. -/
def PlainTexts (w : World) (root : List Text) : Prop :=
  ∀ rest d t, w.packageAt? (root ++ rest) = some d → d.sourceName = .ok t → d.hasPlainSource

namespace PlainTexts

theorem sourcesBelow (h : PlainTexts w root) (hfree : w.LinkFreeAt root es) :
    SourcesBelow w root := by
  refine sourcesBelow_of_texts hfree fun there d t _ hpre hd hname => ?_
  obtain ⟨rest, rfl⟩ := hpre
  exact h rest d t hd hname

theorem sources (h : PlainTexts w root) (hfree : w.LinkFreeAt (root ++ rest) cs) {src : Path}
    (hat : w.sourcesAt? (root ++ rest) = some src) :
    ∃ more, src = ⟨1, root ++ rest ++ more⟩ ∧ Path.NoDots more := by
  cases hd : w.packageAt? (root ++ rest) with
  | none => simp [sourcesAt?, hd] at hat
  | some d =>
    obtain ⟨t, hname, -⟩ := sourceName_of_sourcesAt? hd hat
    obtain ⟨more, -, rfl⟩ := plain_sources hfree hd (h rest d t hd hname) hat
    exact ⟨more, rfl, fun n hn => (sourcesAt?_shape hat).2 n (List.mem_append_right _ hn)⟩

theorem clear (h : PlainTexts w root) (hfree : w.LinkFreeAt (root ++ rest) cs) :
    Clear w (root ++ rest) := by
  refine ⟨⟨cs, hfree⟩, fun src b hat hb => ?_⟩
  obtain ⟨more, rfl, hdots⟩ := h.sources hfree hat
  exact hfree.holds_eq_ok hdots hb

/-- What a walk comes to is link free. -/
theorem linkFreeAt (h : PlainTexts w root) (hfree : w.LinkFreeAt root es)
    (hreach : Reachable w root here) : ∃ rest cs, here = root ++ rest ∧ w.LinkFreeAt here cs := by
  obtain ⟨rest, rfl⟩ := (h.sourcesBelow hfree).root_above hreach
  obtain ⟨cs, hcs⟩ := ((h.sourcesBelow hfree).grounded hfree).linkFree _ hreach
  exact ⟨rest, cs, rfl, hcs⟩

end PlainTexts

/-! ## Worlds that look the same -/

theorem packageAt?_congr (h : w'.descriptorData? here = w.descriptorData? here) :
    w'.packageAt? here = w.packageAt? here := by
  rw [packageAt?, packageAt?, h]

theorem overflowsAt_congr (h : w'.descriptorData? here = w.descriptorData? here) :
    w'.overflowsAt room here = w.overflowsAt room here := by
  unfold overflowsAt
  rw [h]

/-- A walk does in a directory what it does in another world if the system answers the same. -/
theorem turn_congr
    (hfile : w'.holds Entry.isFile (descriptorPath here) =
      w.holds Entry.isFile (descriptorPath here))
    (hdata : w'.descriptorData? here = w.descriptorData? here)
    (hresolve : ∀ d t, w.packageAt? here = some d → d.sourceName = .ok t →
      w'.resolve (d.directory.child t) = w.resolve (d.directory.child t))
    (hdir : ∀ src, w.sourcesAt? here = some src →
      w'.holds Entry.isDirectory src = w.holds Entry.isDirectory src) (room : Nat) :
    w'.turn here room = w.turn here room := by
  cases room with
  | zero => rfl
  | succ room =>
    rw [turn, turn, hfile, packageAt?_congr hdata, overflowsAt_congr hdata]
    cases hd : w.packageAt? here with
    | none => rfl
    | some d =>
      cases hname : d.sourceName with
      | error f => simp only [hname]
      | ok t =>
        simp only [hname, hresolve d t hd hname]
        cases hsrc : w.resolve (d.directory.child t) with
        | error f => rfl
        | ok src => simp only [hdir src (sourcesAt?_eq_some hd hname hsrc)]

/-- Two worlds agree on a directory if they look alike along all paths that a walk asks about
there. -/
theorem agrees_of_kinds (seen : List Text → Prop)
    (hkinds : ∀ names, seen names → w'.tree.kind? names = w.tree.kind? names)
    (hseen : ∀ names names', names <+: names' → seen names' → seen names)
    (hplain : PlainTexts w root) (hplain' : PlainTexts w' root)
    (hfree : w.LinkFreeAt (root ++ rest) es) (hfree' : w'.LinkFreeAt (root ++ rest) cs)
    (hdata : w'.descriptorData? (root ++ rest) = w.descriptorData? (root ++ rest))
    (hchild : ∀ n, seen (root ++ rest ++ [n]))
    (hsources : ∀ src, w.sourcesAt? (root ++ rest) = some src → seen src.names) :
    Agrees w w' (root ++ rest) := by
  have hway {more : List Text} (hmore : seen (root ++ rest ++ more)) (there : List Text)
      (hthere : there <+: more) :
      w'.tree.kind? (root ++ rest ++ there) = w.tree.kind? (root ++ rest ++ there) :=
    hkinds _ (hseen _ _ ((List.prefix_append_right_inj _).2 hthere) hmore)
  refine ⟨hplain'.clear hfree', turn_congr ?_ hdata ?_ ?_, fun n => hkinds _ (hchild n)⟩
  · exact hfree.holds_congr hfree' noDots_fileName (hway (hchild _)) fun _ _ => Entry.isFile_congr
  · intro d t hd hname
    obtain ⟨hpath, -, hdots⟩ := child_of_plain hd hname (hplain rest d t hd hname)
    rw [hpath]
    exact hfree.resolve_congr hfree' hdots
  · intro src hat
    obtain ⟨more, rfl, hdots⟩ := hplain.sources hfree hat
    exact hfree.holds_congr hfree' hdots (hway (hsources _ hat)) fun _ _ => Entry.isDirectory_congr

/-- If two worlds agree on everything that a walk comes to but for a directory with a descriptor
file, they agree on the files that it comes to. -/
theorem agreesBut_of_directories (hdata : w.descriptorData? place ≠ none)
    (h : ∀ here, Reachable w root here → here ≠ place → Agrees w w' here) :
    (Stage.directory root package).AgreesBut w w' place := by
  refine ⟨h, fun here n hoffers => ?_⟩
  obtain ⟨hreach, hfile⟩ := hoffers
  refine (h here hreach ?_).fileIn hfile
  rintro rfl
  exact hdata hfile.1

/-! ## A directory hidden by its descriptor -/

theorem get?_descriptor {data : List UInt8} (h : w.descriptorData? here = some data) :
    w.tree.get? (here ++ [Descriptor.fileName]) = some (.file data) := by
  rw [descriptorData?] at h
  split at h
  · rename_i hget
    rw [hget, Option.some.inj h]
  · cases h

theorem descriptorData?_eq_data? : w.descriptorData? here =
    w.tree.data? (here ++ [Descriptor.fileName]) := by
  rw [descriptorData?, Entry.data?]
  rcases w.tree.get? (here ++ [Descriptor.fileName]) with _ | (_ | _ | _) <;> rfl

section Hidden

variable {ds : List (Text × Entry)}

/-- Emptying a directory takes descriptors away, and adds none. -/
theorem descriptorData?_put_empty (hplace : w.tree.get? place = some (.directory ds))
    {data : List UInt8} (h : (w.put place .empty).descriptorData? here = some data) :
    w.descriptorData? here = some data := by
  rw [descriptorData?_eq_data?] at h ⊢
  have hset : (w.put place .empty).tree.data? (here ++ [Descriptor.fileName]) =
      w.tree.data? (here ++ [Descriptor.fileName]) := by
    refine Entry.data?_set_old hplace fun hpre => ?_
    obtain ⟨rest, hrest⟩ := hpre
    have hget : (w.put place .empty).tree.get? (place ++ rest) = Entry.empty.get? rest := by
      rw [Entry.get?_append, World.put, Entry.get?_set_old hplace, Option.bind_some]
    rw [← hrest, Entry.data?, hget] at h
    cases rest with
    | nil => cases h
    | cons n more => cases h
  rwa [hset] at h

theorem plainTexts_put_empty (hplain : PlainTexts w root)
    (hplace : w.tree.get? place = some (.directory ds)) :
    PlainTexts (w.put place .empty) root := by
  intro rest d t hd hname
  obtain ⟨data, hdata, -⟩ := packageAt?_eq_some hd
  have hsame := (descriptorData?_put_empty hplace hdata).trans hdata.symm
  exact hplain rest d t ((packageAt?_congr hsame.symm).symm.trans hd) hname

/-- A directory whose descriptor describes no package leads nowhere. -/
theorem not_enters_of_unreadable {data : List UInt8}
    (hdata : w.descriptorData? place = some data) (hbytes : Descriptor.ofBytes data = none)
    (next : List Text) : ¬ Enters w place next :=
  Stage.not_enters_unreadable (by simp [hdata])
    (by rw [packageAt?, hdata, Option.bind_some, hbytes]; rfl) next

/-- Emptying a directory that leads nowhere is not seen from any other one. -/
theorem agrees_put_empty (hplain : PlainTexts w root) (hfree : w.LinkFreeAt root es)
    (hfree' : (w.put place .empty).LinkFreeAt root cs)
    (hplace : w.tree.get? place = some (.directory ds)) (hreach : Reachable w root place)
    (hend : ∀ next, ¬ Enters w place next) (hhere : Reachable w root here) (hne : here ≠ place) :
    Agrees w (w.put place .empty) here := by
  have hbelow := hplain.sourcesBelow hfree
  have hseen {names : List Text} (hnames : place <+: names → names = place) :
      (w.put place .empty).tree.kind? names = w.tree.kind? names :=
    Entry.kind?_set_old hplace rfl hnames
  have hbeside : ¬ place <+: here := fun hpre =>
    hne ((reachable_of_no_enters hend).1 (hbelow.reachable_of_prefix hreach hhere hpre))
  have hchild (n : Text) (hpre : place <+: here ++ [n]) : here ++ [n] = place :=
    ((List.prefix_concat_iff.1 hpre).resolve_right hbeside).symm
  obtain ⟨rest, us, rfl, hus⟩ := hplain.linkFreeAt hfree hhere
  have hthere : (w.put place .empty).tree.kind? (root ++ rest) = some .directory := by
    rw [hseen fun hpre => absurd hpre hbeside, Entry.kind?, hus.found]
    rfl
  obtain ⟨us', hus'⟩ := Entry.kind?_eq_directory.1 hthere
  refine agrees_of_kinds (fun names => place <+: names → names = place) (fun _ => hseen)
    (fun names names' hpre hnames' hplace' => ?_) hplain (plainTexts_put_empty hplain hplace) hus
    (hfree'.below hus') ?_ hchild fun src hat hpre => ?_
  · obtain rfl := hnames' (hplace'.trans hpre)
    exact hpre.eq_of_length_le hplace'.length_le
  · rw [descriptorData?_eq_data?, descriptorData?_eq_data?]
    exact Entry.data?_set_old hplace fun hpre => ⟨hchild _ hpre, rfl⟩
  · -- A way to the directory leads over the sources, so these are not below it.
    obtain ⟨more, rfl, -⟩ := hplain.sources hus hat
    have habove : root ++ rest <+: place :=
      (List.prefix_or_prefix_of_prefix hpre (List.prefix_append _ _)).resolve_left hbeside
    rcases reachable_iff.1 (hbelow.reachable_of_prefix hhere hreach habove) with
      heq | ⟨next, henters, hnext⟩
    · exact absurd heq.symm hne
    · have hdata := descriptorData?_of_sourcesAt? hat
      obtain ⟨src, hat', rfl, -⟩ := (enters_iff_sources hdata).1 henters
      obtain rfl := Option.some.inj (hat.symm.trans hat')
      have hpre' := (hbelow.of_reachable (hhere.tail henters)).root_above hnext
      exact (hpre'.eq_of_length_le hpre.length_le)

/-- A directory whose descriptor describes no package is walked like an empty one, if enough calls
are left to read the descriptor, and to list the directory. -/
theorem Walked.put_empty (hplace : w.LinkFreeAt place ds)
    (hfree' : (w.put place .empty).LinkFreeAt place []) {data : List UInt8}
    (hdata : w.descriptorData? place = some data) (hbytes : Descriptor.ofBytes data = none)
    (hlist : 1 < room) (hread : Descriptor.overflows (room - 1) data = false)
    (h : Walked w root room (.directory place package) r found) :
    Walked (w.put place .empty) root room (.directory place package) r found := by
  obtain ⟨room, rfl⟩ : ∃ k, room = k + 2 := ⟨room - 2, by omega⟩
  have hanswer := hplace.holds_name isName_fileName Entry.isFile
  have hanswer' := hfree'.holds_name isName_fileName Entry.isFile
  split_ifs at hanswer hanswer' with hlong
  · obtain ⟨rfl, rfl⟩ := h.of_ends (turn_unanswered hanswer)
    exact .unanswered hanswer'
  · have hd : w.packageAt? place = none := by rw [packageAt?, hdata, Option.bind_some, hbytes]; rfl
    have hfile : (w.tree.get? (place ++ [Descriptor.fileName])).any Entry.isFile = true := by
      rw [get?_descriptor hdata]
      rfl
    have hnone : ((w.put place .empty).tree.get? (place ++ [Descriptor.fileName])).any
        Entry.isFile = false := by
      rw [Entry.get?_child hfree'.found]
      rfl
    rw [hfile] at hanswer
    rw [hnone] at hanswer'
    have hload : w.Loads (room + 1) place := ⟨⟨hanswer, hfile⟩, by rwa [overflowsAt_eq hdata]⟩
    obtain ⟨rfl, rfl⟩ := h.of_ends (turn_unreadable hload hd)
    exact .listing ⟨hanswer', hnone⟩ hfree' .done

end Hidden

/-! ## A descriptor that is exchanged -/

section Exchanged

variable {data data' : List UInt8} {d : Descriptor}

/-- A descriptor file can be exchanged for another one. -/
theorem fits_descriptor (hplace : w.tree.get? place = some (.directory es))
    (hdata : w.descriptorData? place = some data) (data' : List UInt8) :
    Entry.Fits w.tree (place ++ [Descriptor.fileName]) (.file data') := by
  refine ⟨⟨⟨place, _, es, rfl, hplace⟩, fun c hc => ?_⟩, rfl,
    fun _ => Entry.noConfusion, fun c hc => rfl⟩
  obtain rfl := Option.some.inj (hc.symm.trans (get?_descriptor hdata))
  rfl

theorem kind?_put_descriptor (hplace : w.tree.get? place = some (.directory es))
    (hdata : w.descriptorData? place = some data) (data' : List UInt8) (names : List Text) :
    (w.put (place ++ [Descriptor.fileName]) (.file data')).tree.kind? names =
      w.tree.kind? names := by
  have hfits := fits_descriptor hplace hdata data'
  rw [World.put, hfits.kind?_set]
  split
  · rename_i hnames
    rw [hnames, Entry.kind?_of_data? (descriptorData?_eq_data?.symm.trans hdata)]
    rfl
  · rfl

theorem descriptorData?_put_descriptor (hplace : w.tree.get? place = some (.directory es))
    (hdata : w.descriptorData? place = some data) (data' : List UInt8) (here : List Text) :
    (w.put (place ++ [Descriptor.fileName]) (.file data')).descriptorData? here =
      if here = place then some data' else w.descriptorData? here := by
  have hfits := fits_descriptor hplace hdata data'
  rw [descriptorData?_eq_data?, World.put, hfits.data?_set, descriptorData?_eq_data?]
  simp only [List.append_cancel_right_eq]
  rfl

theorem packageAt?_put_descriptor (hplace : w.tree.get? place = some (.directory es))
    (hdata : w.descriptorData? place = some data) {content : List (Value × Value)}
    (hbytes : Descriptor.ofBytes data' = some content) :
    (w.put (place ++ [Descriptor.fileName]) (.file data')).packageAt? place =
      some ⟨descriptorPath place, content⟩ := by
  rw [packageAt?, descriptorData?_put_descriptor hplace hdata, if_pos rfl, Option.bind_some,
    hbytes, Option.map_some]

theorem plainTexts_put_descriptor (hplain : PlainTexts w root)
    (hplace : w.tree.get? place = some (.directory es))
    (hdata : w.descriptorData? place = some data) {content : List (Value × Value)}
    (hbytes : Descriptor.ofBytes data' = some content)
    (hnames : (⟨descriptorPath place, content⟩ : Descriptor).hasPlainSource) :
    PlainTexts (w.put (place ++ [Descriptor.fileName]) (.file data')) root := by
  intro rest d t hd hname
  by_cases hhere : root ++ rest = place
  · rw [hhere, packageAt?_put_descriptor hplace hdata hbytes] at hd
    exact Option.some.inj hd ▸ hnames
  · have hsame := descriptorData?_put_descriptor hplace hdata data' (root ++ rest)
    rw [if_neg hhere] at hsame
    exact hplain rest d t ((packageAt?_congr hsame).symm.trans hd) hname

/-- Sources that the system can be handed have a real path. -/
theorem sourcesAt?_of_namesSources (hfree : w.LinkFreeAt here es) (hd : w.packageAt? here = some d)
    (hnames : d.NamesSources) : ∃ src, w.sourcesAt? here = some src := by
  cases hname : d.sourceName with
  | error f =>
    have hplain := hnames.plain
    simp [Descriptor.hasPlainSource, hname] at hplain
  | ok t =>
    obtain ⟨hpath, -, hdots⟩ := child_of_plain hd hname hnames.plain
    have hsrc := hfree.resolve_straight hdots
    have hcheck : Files.checkPath ⟨1, here ++ (Path.ofText t).names⟩ = .ok () :=
      Files.checkPath_append hfree.isName_here (hnames.sound t hname)
    rw [hcheck, ← hpath] at hsrc
    exact ⟨_, sourcesAt?_eq_some hd hname hsrc⟩

/-- Exchanging a descriptor is not seen from any other directory. -/
theorem agrees_put_descriptor (hplain : PlainTexts w root)
    (hplain' : PlainTexts (w.put (place ++ [Descriptor.fileName]) (.file data')) root)
    (hfree : w.LinkFreeAt root es)
    (hfree' : (w.put (place ++ [Descriptor.fileName]) (.file data')).LinkFreeAt root cs)
    {ds : List (Text × Entry)} (hplace : w.tree.get? place = some (.directory ds))
    (hdata : w.descriptorData? place = some data) (hhere : Reachable w root here)
    (hne : here ≠ place) :
    Agrees w (w.put (place ++ [Descriptor.fileName]) (.file data')) here := by
  have hkinds := kind?_put_descriptor hplace hdata data'
  obtain ⟨rest, us, rfl, hus⟩ := hplain.linkFreeAt hfree hhere
  have hthere : (w.put (place ++ [Descriptor.fileName]) (.file data')).tree.kind? (root ++ rest) =
      some .directory := by
    rw [hkinds, Entry.kind?, hus.found]
    rfl
  obtain ⟨us', hus'⟩ := Entry.kind?_eq_directory.1 hthere
  refine agrees_of_kinds (fun _ => True) (fun names _ => hkinds names)
    (fun _ _ _ _ => trivial) hplain hplain' hus (hfree'.below hus') ?_ (fun _ => trivial)
    fun _ _ => trivial
  rw [descriptorData?_put_descriptor hplace hdata, if_neg hne]

theorem linkFreeAt_put_descriptor (hfree : w.LinkFreeAt root es)
    (hdata : w.descriptorData? (root ++ rest) = some data) (data' : List UInt8) :
    ∃ es', (w.put (root ++ rest ++ [Descriptor.fileName]) (.file data')).LinkFreeAt root es' := by
  have hget := get?_descriptor hdata
  rw [List.append_assoc] at hget ⊢
  exact hfree.put_old hget rfl rfl rfl

/-- An exchanged descriptor is read if the one that was there is, and not too many calls are needed
for it. -/
theorem loads_put_descriptor (hfree : w.LinkFreeAt here es)
    (hfree' : (w.put (here ++ [Descriptor.fileName]) (.file data')).LinkFreeAt here cs)
    (hdata : w.descriptorData? here = some data) (hload : w.Loads room here)
    (hfits : Descriptor.overflows room data' = false) :
    (w.put (here ++ [Descriptor.fileName]) (.file data')).Loads room here := by
  have hkinds := kind?_put_descriptor hfree.found hdata data'
  have hsame : (w.put (here ++ [Descriptor.fileName]) (.file data')).holds Entry.isFile
      (descriptorPath here) = w.holds Entry.isFile (descriptorPath here) :=
    hfree.holds_congr hfree' noDots_fileName (fun _ _ => hkinds _) fun _ _ => Entry.isFile_congr
  have hanswer := hsame.trans hload.tells.answer
  have hdata' := descriptorData?_put_descriptor hfree.found hdata data' here
  rw [if_pos rfl] at hdata'
  exact ⟨⟨hanswer, hfree'.holds_eq_ok noDots_fileName hanswer⟩, by rwa [overflowsAt_eq hdata']⟩

end Exchanged

/-! ### Coming to a descriptor -/

theorem ComesTo.reaches (h : ComesTo w root place last room s before) : s.Reaches w place := by
  induction h with
  | here _ => exact .refl
  | sources _ _ hat hdir _ ih => exact (Stage.within_sources _ _ hat hdir).reaches _ ih
  | listing htell hfree _ ih => exact (Stage.within_listing _ htell hfree).reaches _ ih
  | file hfile _ ih => exact (Stage.within_cons_file hfile).reaches _ ih
  | enter _ ih => exact Stage.within_first.reaches _ ih
  | past _ _ ih => exact Stage.within_rest.reaches _ ih

theorem ComesTo.loads (h : ComesTo w root place last room s before) : w.Loads last place := by
  induction h with
  | here hload => exact hload
  | sources _ _ _ _ _ ih | listing _ _ _ ih | file _ _ ih | enter _ ih | past _ _ ih => exact ih

/-- A package whose sources have a path is found whatever becomes of its sources. -/
theorem Walked.of_package {d : Descriptor} {src : Path}
    (h : Walked w root (room + 1) (.directory here package) r found) (hload : w.Loads room here)
    (hd : w.packageAt? here = some d) (hat : w.sourcesAt? here = some src) :
    ∃ more, found = .package d :: more := by
  have hturn := turn_package hload hd hat
  cases hdir : w.holds Entry.isDirectory src with
  | error f =>
    rw [hdir] at hturn
    obtain ⟨-, rfl⟩ := h.of_ends hturn
    exact ⟨[], rfl⟩
  | ok b =>
    rw [hdir] at hturn
    cases b with
    | false =>
      obtain ⟨-, rfl⟩ := h.of_ends hturn
      exact ⟨[], rfl⟩
    | true =>
      obtain ⟨more, rfl, -⟩ := h.of_goes hturn
      exact ⟨more, rfl⟩

/-- A walk that comes to a malformed descriptor ends there. -/
theorem Walked.of_malformed {d : Descriptor} {f : Failure} (h : Walked w root room s r found)
    (hcomes : ComesTo w root place last room s before) (hd : w.packageAt? place = some d)
    (hname : d.sourceName = .error f) : r = .error f ∧ found = before := by
  obtain ⟨package, r₁, found₁, more, hthere, rfl, hend⟩ := h.of_comesTo hcomes
  obtain ⟨rfl, rfl⟩ := hthere.of_ends (turn_malformed hcomes.loads hd hname)
  obtain ⟨rfl, rfl⟩ := hend.resolve_left fun h => by cases h
  rw [List.append_nil, List.append_nil]
  exact ⟨rfl, rfl⟩

/-- A walk that comes to a package whose sources have a path finds it next. -/
theorem Walked.of_comesTo_package {d : Descriptor} {src : Path} (h : Walked w root room s r found)
    (hcomes : ComesTo w root place last room s before) (hd : w.packageAt? place = some d)
    (hat : w.sourcesAt? place = some src) : ∃ more, found = before ++ .package d :: more := by
  obtain ⟨package, r₁, found₁, more, hthere, rfl, -⟩ := h.of_comesTo hcomes
  obtain ⟨rest, rfl⟩ := hthere.of_package hcomes.loads hd hat
  rw [List.append_assoc, List.cons_append]
  exact ⟨_, rfl⟩

/-! ## Walks of two trees -/

section Runs

variable {start start' root : Path}

/-- The walk of a tree with plain sources is a derivation. -/
theorem PlainTexts.events (hplain : PlainTexts w root.names) (hroot : w.resolve start = .ok root)
    (hfree : w.LinkFreeAt root.names es) :
    ∃ r found v, (events .root start).runIn w = (.ok (r, found), v) ∧
      Walked w root.names w.stack (.directory root.names none) r found :=
  events_walked hroot ((hplain.sourcesBelow hfree).grounded hfree)

/-- A directory whose descriptor describes no package is walked like an empty one, if enough calls
are left there. -/
theorem events_put_empty (hplain : PlainTexts w root.names) (hfree : w.LinkFreeAt root.names es)
    (hroot : w.resolve start = .ok root) {data : List UInt8}
    (hreach : Reachable w root.names place) (hdata : w.descriptorData? place = some data)
    (hbytes : Descriptor.ofBytes data = none)
    (hleft : LeftAt w place (fun room => 1 < room ∧ Descriptor.overflows (room - 1) data = false)
      w.stack root.names)
    (hroot' : (w.put place .empty).resolve start' = .ok root) :
    ∃ r found v v', (events .root start).runIn w = (.ok (r, found), v) ∧
      (events .root start').runIn (w.put place .empty) = (.ok (r, found), v') := by
  obtain ⟨rest, ds, rfl, hds⟩ := hplain.linkFreeAt hfree hreach
  obtain ⟨es', hfree'⟩ := hfree.put_old hds.found rfl (e := .empty) rfl rfl
  have hds' : (w.put (root.names ++ rest) .empty).LinkFreeAt (root.names ++ rest) [] :=
    hfree'.below (Entry.get?_set_old hds.found _)
  have hagree : (Stage.directory root.names none).AgreesBut w
      (w.put (root.names ++ rest) .empty) (root.names ++ rest) :=
    agreesBut_of_directories (by simp [hdata]) fun here hhere hne =>
      agrees_put_empty hplain hfree hfree' hds.found hreach
        (not_enters_of_unreadable hdata hbytes) hhere hne
  obtain ⟨r, found, v, hrun, hwalked⟩ := hplain.events hroot hfree
  obtain ⟨r', found', v', hrun', hwalked'⟩ :=
    (plainTexts_put_empty hplain hds.found).events hroot' hfree'
  have hcarried : Walked (w.put (root.names ++ rest) .empty) root.names w.stack
      (.directory root.names none) r found :=
    hwalked.carry (P := fun _ => True) hagree hleft (fun _ _ => rfl) trivial trivial
      fun _ _ _ _ ⟨hlist, hread⟩ _ h => h.put_empty hds hds' hdata hbytes hlist hread
  obtain ⟨rfl, rfl⟩ := hcarried.unique hwalked'
  exact ⟨_, _, v, v', hrun, hrun'⟩

/-- A walk that comes to a malformed descriptor ends there, with the events that come before those
of the package if the descriptor is exchanged for one with valid sources. -/
theorem events_put_descriptor (hplain : PlainTexts w root.names)
    (hfree : w.LinkFreeAt root.names es) (hroot : w.resolve start = .ok root) {d : Descriptor}
    {f : Failure} {data' : List UInt8} {content : List (Value × Value)}
    (hcomes : ComesTo w root.names place last w.stack (.directory root.names none) before)
    (hd : w.packageAt? place = some d) (hname : d.sourceName = .error f)
    (hbytes : Descriptor.ofBytes data' = some content)
    (hfits : Descriptor.overflows last data' = false)
    (hnames : (⟨descriptorPath place, content⟩ : Descriptor).NamesSources)
    (hroot' : (w.put (place ++ [Descriptor.fileName]) (.file data')).resolve start' = .ok root) :
    ∃ r more v v', (events .root start).runIn w = (.ok (.error f, before), v) ∧
      (events .root start').runIn (w.put (place ++ [Descriptor.fileName]) (.file data')) =
        (.ok (r, before ++ .package ⟨descriptorPath place, content⟩ :: more), v') ∧
      descriptorPath place ∉ before.map Event.path := by
  obtain ⟨data, hdata, -⟩ := packageAt?_eq_some hd
  obtain ⟨rest, ds, rfl, hds⟩ := hplain.linkFreeAt hfree hcomes.reaches
  obtain ⟨es', hfree'⟩ := linkFreeAt_put_descriptor hfree hdata data'
  have hplain' := plainTexts_put_descriptor hplain hds.found hdata hbytes hnames.plain
  -- The exchanged descriptor is there, and so is a path to its sources.
  have hd' := packageAt?_put_descriptor hds.found hdata hbytes
  obtain ⟨us, hus⟩ := Entry.kind?_eq_directory.1
    ((kind?_put_descriptor hds.found hdata data' _).trans
      (Entry.kind?_eq_directory.2 ⟨ds, hds.found⟩))
  have hus' := hfree'.below hus
  have hload' := loads_put_descriptor hds hus' hdata hcomes.loads hfits
  obtain ⟨src, hat'⟩ := sourcesAt?_of_namesSources hus' hd' hnames
  -- Both walks come to the descriptor with the same events.
  have hagree : (Stage.directory root.names none).AgreesBut w
      (w.put (root.names ++ rest ++ [Descriptor.fileName]) (.file data')) (root.names ++ rest) :=
    agreesBut_of_directories (by simp [hdata]) fun here hhere hne =>
      agrees_put_descriptor hplain hplain' hfree hfree' hds.found hdata hhere hne
  have hcomes' := hcomes.carry hagree (fun _ _ => rfl) hd hname hload'
  obtain ⟨r, found, v, hrun, hwalked⟩ := hplain.events hroot hfree
  obtain ⟨r', found', v', hrun', hwalked'⟩ := hplain'.events hroot' hfree'
  obtain ⟨rfl, rfl⟩ := hwalked.of_malformed hcomes hd hname
  obtain ⟨more, rfl⟩ := hwalked'.of_comesTo_package hcomes' hd' hat'
  refine ⟨r', more, v, v', hrun, hrun', fun hmem => ?_⟩
  have hnodup := hwalked'.nodup_path (s := .directory root.names none)
    (hplain'.sourcesBelow hfree').oneWay
  rw [List.map_append, List.map_cons] at hnodup
  exact (List.nodup_append.1 hnodup).2.2 _ hmem _ List.mem_cons_self rfl

/-- Descriptors that cannot be used, in trees whose packages name their sources by plain paths if by
a text at all.  A directory whose descriptor describes no package is walked like an empty one,
provided that the walk has enough calls left there.  A walk that comes to read a descriptor that
names its sources by something else than a text ends there with an error, without the event of the
package; it has found just what comes before that event if the descriptor is exchanged for one with
valid sources that can be read as well. -/
theorem events_with_failing_descriptors (named : w.tree.isWellNamed)
    (hroot : w.resolve start = .ok root) (hdir : w.tree.get? root.names = some (.directory es))
    (free : (Entry.directory es).isLinkFree) (hplain : PlainTexts w root.names) :
    (∀ place data, Reachable w root.names place → w.descriptorData? place = some data →
      Descriptor.ofBytes data = none →
      LeftAt w place (fun room => 1 < room ∧ Descriptor.overflows (room - 1) data = false)
        w.stack root.names →
      ∀ start', (w.put place .empty).resolve start' = .ok root →
        ∃ r found v v', (events .root start).runIn w = (.ok (r, found), v) ∧
          (events .root start').runIn (w.put place .empty) = (.ok (r, found), v')) ∧
    (∀ place last before d value,
      ComesTo w root.names place last w.stack (.directory root.names none) before →
      w.packageAt? place = some d → d.namedSources? = some value → value ≠ .null →
      (∀ t, value ≠ .text t) →
      ∀ data' content, Descriptor.ofBytes data' = some content →
      Descriptor.overflows last data' = false →
      (⟨descriptorPath place, content⟩ : Descriptor).NamesSources →
      ∀ start',
      (w.put (place ++ [Descriptor.fileName]) (.file data')).resolve start' = .ok root →
        ∃ r more v v',
          (events .root start).runIn w =
            (.ok (.error (.descriptor (descriptorPath place) value.typeName), before), v) ∧
          (events .root start').runIn (w.put (place ++ [Descriptor.fileName]) (.file data')) =
            (.ok (r, before ++ .package ⟨descriptorPath place, content⟩ :: more), v') ∧
          descriptorPath place ∉ before.map Event.path) := by
  have hfree : w.LinkFreeAt root.names es := ⟨hdir, named, free⟩
  constructor
  · intro place data hreach hdata hbytes hleft start' hroot'
    exact events_put_empty hplain hfree hroot hreach hdata hbytes hleft hroot'
  · intro place last before d value hcomes hd hvalue hnull htext data' content hbytes hfits hnames
      start' hroot'
    have hname := Descriptor.sourceName_of_named hvalue hnull htext
    rw [path_packageAt? hd] at hname
    exact events_put_descriptor hplain hfree hroot hcomes hd hname hbytes hfits hnames hroot'

/-- The entries of a tree with a package that cannot be read, one that names its sources by no text,
and files around them. -/
def failing : List (Text × Entry) :=
  [("a.py", .file []),
   ("bad", .directory
    [descriptorFile (ascii "\x7bnot json"), ("src", .directory [("hidden.py", .file [])])]),
   ("pkg", .directory
    [descriptorFile (ascii "\x7b\"directories\": \x7b\"src\": true\x7d\x7d"),
     ("lib", .directory [("core.py", .file [])])]),
   ("z.py", .file [])]

theorem linkFreeAt_failing : (rooted failing).LinkFreeAt ["root"] failing :=
  ⟨get?_rooted failing, by decide +kernel, by decide +kernel⟩

theorem plainTexts_failing : PlainTexts (rooted failing) ["root"] := by
  intro rest d t hd hname
  have htest : (rooted failing).tree.paths.all fun names =>
      ((rooted failing).packageAt? names.dropLast).all fun d =>
        d.sourceName.toOption.isNone || d.hasPlainSource := by decide +kernel
  have hplain := test_of_paths htest hd
  rwa [hname] at hplain

theorem comesTo_failing : ComesTo (rooted failing) ["root"] ["root", "pkg"] 977 980
    (.directory ["root"] none) [fileEvent (rooted failing) ["root"] ["root"] none "a.py"] := by
  have hsorted : Entry.inOrder failing = failing := by cbv
  refine .listing ⟨by decide +kernel, by decide +kernel⟩ linkFreeAt_failing ?_
  rw [hsorted]
  refine .file ⟨by decide +kernel, [], rfl⟩
    (.past (.unreadable ⟨?_, by decide +kernel⟩ (by decide +kernel))
      (.enter (.here ⟨?_, by decide +kernel⟩)))
  · exact ⟨by decide +kernel, by decide +kernel⟩
  · exact ⟨by decide +kernel, by decide +kernel⟩

/-- The bytes of the descriptor that is put in place of the malformed one. -/
def mended : List UInt8 := ascii "\x7b\"directories\": \x7b\"src\": \"lib\"\x7d\x7d"

theorem ofBytes_mended : (Descriptor.ofBytes mended).map (fun content =>
    ((⟨descriptorPath ["root", "pkg"], content⟩ : Descriptor).hasPlainSource,
      (⟨descriptorPath ["root", "pkg"], content⟩ : Descriptor).sourceName.toOption)) =
    some (true, some (Text.ofString "lib")) := by decide +kernel

/-- Whether a descriptor says of its sources that they are true. -/
def namesTrue (d : Descriptor) : Bool :=
  match d.namedSources? with
  | some (.bool b) => b
  | _ => false

theorem namedSources?_of_namesTrue {d : Descriptor} (h : namesTrue d) :
    d.namedSources? = some (.bool true) := by
  unfold namesTrue at h
  split at h
  · rename_i heq
    rw [heq, h]
  · cases h

theorem packageAt?_failing :
    ((rooted failing).packageAt? ["root", "pkg"]).any namesTrue := by decide +kernel

theorem events_with_failing_descriptors_failing :
    (∃ r found v v', (events .root ⟨1, ["root"]⟩).runIn (rooted failing) = (.ok (r, found), v) ∧
      (events .root ⟨1, ["root"]⟩).runIn ((rooted failing).put ["root", "bad"] .empty) =
        (.ok (r, found), v')) ∧
    ∃ d, d.path = descriptorPath ["root", "pkg"] ∧ ∃ r more v v',
      (events .root ⟨1, ["root"]⟩).runIn (rooted failing) =
        (.ok (.error (.descriptor d.path "bool"),
          [fileEvent (rooted failing) ["root"] ["root"] none "a.py"]), v) ∧
      (events .root ⟨1, ["root"]⟩).runIn
          ((rooted failing).put ["root", "pkg", "package.json"] (.file mended)) =
        (.ok (r, fileEvent (rooted failing) ["root"] ["root"] none "a.py" :: .package d :: more),
          v') := by
  have hresolve : (rooted failing).resolve ⟨1, ["root"]⟩ = .ok ⟨1, ["root"]⟩ := by decide +kernel
  obtain ⟨hhidden, hmalformed⟩ := events_with_failing_descriptors linkFreeAt_failing.named hresolve
    linkFreeAt_failing.found linkFreeAt_failing.free plainTexts_failing
  constructor
  · have hnone : (rooted failing).descriptorData? ["root"] = none := by decide +kernel
    have hsize : (rooted failing).tree.size ≤ 100 := by decide +kernel
    have hfits : Descriptor.overflows 700 (ascii "\x7bnot json") = false := by decide +kernel
    have hforward := (plainTexts_failing.sourcesBelow linkFreeAt_failing).oneWay.forward
    refine hhidden ["root", "bad"] (ascii "\x7bnot json") (.single (.child hnone (n := "bad") rfl))
      (by decide +kernel) (by decide +kernel) (fun left hreach => ?_) _ (by decide +kernel)
    have hleft : 980 ≤ left + 2 * (rooted failing).tree.size :=
      Forward.leftAt hforward linkFreeAt_failing.found ["root", "bad"] 980 left hreach
    exact ⟨by omega, Descriptor.fits_of_le hfits (by omega)⟩
  · obtain ⟨d, hd, htrue⟩ := (Option.any_eq_true _ _).1 packageAt?_failing
    have hnamed := namedSources?_of_namesTrue htrue
    obtain ⟨content, hcontent, hvalues⟩ := Option.map_eq_some_iff.1 ofBytes_mended
    obtain ⟨hplain, hname⟩ := Prod.mk.inj hvalues
    have hnames : (⟨descriptorPath ["root", "pkg"], content⟩ : Descriptor).NamesSources := by
      refine ⟨hplain, fun t ht => ?_⟩
      rw [ht] at hname
      obtain rfl := Option.some.inj hname
      decide +kernel
    obtain ⟨r, more, v, v', hrun, hrun', -⟩ := hmalformed ["root", "pkg"] 977 _ d (.bool true)
      comesTo_failing hd hnamed Value.noConfusion (fun _ => Value.noConfusion) mended content
      hcontent (by decide +kernel) hnames ⟨1, ["root"]⟩ (by decide +kernel)
    exact ⟨_, rfl, r, more, v, v', hrun, hrun'⟩

/-! ### A descriptor that nests too deep -/

/-- The bytes of so many opening brackets. -/
def brackets (n : Nat) : List UInt8 := List.replicate n 0x5B

theorem encode?_brackets (n : Nat) :
    Utf8.encode? (List.replicate n (CodePoint.ofChar '[')) = some (brackets n) := by
  have hformed : Text.isWellFormed (List.replicate n (CodePoint.ofChar '[')) :=
    List.all_eq_true.2 fun c hc => by rw [List.eq_of_mem_replicate hc]; decide
  have hpoint : Utf8.encodePoint (CodePoint.ofChar '[') = [0x5B] := by decide
  have hbytes :
      (List.replicate n (CodePoint.ofChar '[')).flatMap Utf8.encodePoint = brackets n := by
    induction n with
    | zero => rfl
    | succ n ih =>
      rw [List.replicate_succ, List.flatMap_cons, ih (List.all_eq_true.2 fun c hc => by
        rw [List.eq_of_mem_replicate hc]; decide), hpoint]
      rfl
  rw [Utf8.encode?, if_pos hformed, hbytes]

theorem universal_brackets (n : Nat) : Lines.universal (List.replicate n (CodePoint.ofChar '[')) =
    List.replicate n (CodePoint.ofChar '[') := by
  induction n with
  | zero => rfl
  | succ n ih =>
    have hne : CodePoint.ofChar '[' ≠ CodePoint.ofChar '\r' := by decide
    rw [List.replicate_succ, Lines.universal.eq_def]
    dsimp only
    rw [if_neg hne, ih]

theorem characters?_brackets (n : Nat) :
    Descriptor.characters? (brackets n) = some (List.replicate n '[') := by
  rw [Descriptor.characters?, Utf8.decode?_of_encode? (encode?_brackets n), Option.map_some,
    universal_brackets, List.map_replicate]
  rfl

theorem ofBytes_brackets (n : Nat) : Descriptor.ofBytes (brackets n) = none := by
  rw [Descriptor.ofBytes, characters?_brackets, Option.bind_some, Json.read?_unclosed]
  rfl

theorem overflows_brackets {n room : Nat} (h : room < n) :
    Descriptor.overflows room (brackets n) := by
  rw [Descriptor.overflows, characters?_brackets, Option.any_some]
  exact Json.overflows_brackets h

/-- The entries of a tree with a descriptor of so many opening brackets, and a file beside it. -/
def bracketed (n : Nat) : List (Text × Entry) :=
  [("a", .directory [descriptorFile (brackets n)]), ("b", .directory [("f.py", .file [])])]

theorem inOrder_bracketed (n : Nat) : Entry.inOrder (bracketed n) = bracketed n := by cbv

theorem linkFreeAt_bracketed :
    (rooted (bracketed 100000)).LinkFreeAt ["root"] (bracketed 100000) :=
  ⟨get?_rooted _, by decide +kernel, by decide +kernel⟩

theorem descriptorData?_bracketed :
    (rooted (bracketed 100000)).descriptorData? ["root", "a"] = some (brackets 100000) := rfl

/-- There is no package in the tree. -/
theorem packageAt?_bracketed (here : List Text) :
    (rooted (bracketed 100000)).packageAt? here = none := by
  cases hdata : (rooted (bracketed 100000)).descriptorData? here with
  | none => rw [packageAt?, hdata]; rfl
  | some data =>
    have hall : ∀ names ∈ (rooted (bracketed 100000)).tree.paths,
        names.getLast? = some Descriptor.fileName → names.dropLast = ["root", "a"] := by
      decide +kernel
    have hnames := hall _ (mem_paths_descriptor hdata) (by rw [List.getLast?_concat])
    obtain rfl : here = ["root", "a"] := by rwa [List.dropLast_concat] at hnames
    obtain rfl := Option.some.inj (hdata.symm.trans descriptorData?_bracketed)
    rw [packageAt?, hdata, Option.bind_some, ofBytes_brackets]
    rfl

/-- A descriptor that is no JSON object, but nests deeper than calls are left, ends the walk: files
beside it are not found, although they are if its directory is empty. -/
theorem events_bracketed :
    (rooted (bracketed 100000)).tree.isWellNamed ∧ (rooted (bracketed 100000)).tree.isLinkFree ∧
    PlainTexts (rooted (bracketed 100000)) ["root"] ∧
    Reachable (rooted (bracketed 100000)) ["root"] ["root", "a"] ∧
    (rooted (bracketed 100000)).descriptorData? ["root", "a"] = some (brackets 100000) ∧
    Descriptor.ofBytes (brackets 100000) = none ∧
    ∃ found v v', (events .root ⟨1, ["root"]⟩).runIn (rooted (bracketed 100000)) =
        (.ok (.error (.raised .tooDeep), []), v) ∧
      (events .root ⟨1, ["root"]⟩).runIn ((rooted (bracketed 100000)).put ["root", "a"] .empty) =
        (.ok (.ok (), found), v') ∧
      found.map Event.path = [⟨1, ["root", "b", "f.py"]⟩] := by
  have hnone : (rooted (bracketed 100000)).descriptorData? ["root"] = none := by decide +kernel
  have hdata := descriptorData?_bracketed
  have hplain : PlainTexts (rooted (bracketed 100000)) ["root"] := fun rest d t hd _ => by
    rw [packageAt?_bracketed] at hd
    cases hd
  have hdeep : (rooted (bracketed 100000)).overflowsAt 977 ["root", "a"] := by
    rw [overflowsAt_eq hdata]
    exact overflows_brackets (by omega)
  have hwalked : Walked (rooted (bracketed 100000)) ["root"] 980 (.directory ["root"] none)
      (.error (.raised .tooDeep)) [] := by
    refine .listing ⟨by decide +kernel, by decide +kernel⟩ linkFreeAt_bracketed ?_
    rw [inOrder_bracketed]
    exact .stopped (.buried ⟨by decide +kernel, by decide +kernel⟩ hdeep)
  obtain ⟨r, found, v, hrun, hwalked'⟩ := hplain.events
    (show (rooted (bracketed 100000)).resolve ⟨1, ["root"]⟩ = .ok ⟨1, ["root"]⟩ by decide +kernel)
    linkFreeAt_bracketed
  obtain ⟨rfl, rfl⟩ := hwalked.unique hwalked'
  have hout : outcome ((rooted (bracketed 100000)).put ["root", "a"] .empty) =
      .ok (.ok (), [⟨1, ["root", "b", "f.py"]⟩]) := eq_of_ending? none (by decide +kernel)
  obtain ⟨found', v', hrun', hpaths⟩ := runIn_of_outcome hout
  exact ⟨linkFreeAt_bracketed.named, by decide +kernel, hplain,
    .single (.child hnone (n := "a") rfl), hdata, ofBytes_brackets 100000,
    found', v, v', hrun, hrun', hpaths⟩

end Runs

end Walk

end SourceDocs
