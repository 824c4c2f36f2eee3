import SourceDocs.Proofs.Walk.Events

/-!
# Walks of packages are exact

The walk of a link-free tree of packages ends, if no way leads in a circle and enough calls may nest
not for want of them, and it finds nothing twice if no directory can be reached in two ways
(`Walk.events_end`).  If packages name their sources by plain paths, it finds the packages and files
that it reaches, each once, in order and with the nearest package; it finds them all if and only if
the system answers whatever it asks about a path, and enough calls are left (`Walk.events_exact`).
-/

namespace SourceDocs

/-- Whether a package names its sources by a plain path: a relative one, without double dots. -/
def Descriptor.hasPlainSource (d : Descriptor) : Bool :=
  match d.sourceName with
  | .ok t =>
    let p := Path.ofText t
    !p.isAbsolute && !p.names.isEmpty && p.names.all fun n => !n.isString ".."
  | .error _ => false

namespace Walk

open World

variable {w : World} {start root : Path} {es : List (Text × Entry)}

/-! ## The whole walk -/

theorem yields_walk {mode : Mode} {r : Except Failure Unit} {found : List Event}
    (hroot : w.resolve start = .ok root)
    (h : Yields w (enter mode root collect w.stack root none) r found) :
    Yields w (walk mode start collect) r found := by
  have hresolve : Action.Reads w (Files.resolve start) (.ok root) := by
    have hread := Action.Reads.resolve (w := w) start
    rwa [hroot] at hread
  refine Yields.reads_bind hresolve ?_
  intro v before hv
  have hworld : (liftM Action.world : ActionWith (List Event) World).runWith v before =
      (.ok v, v, before) := by simp
  rw [ActionWith.runWith_bind_ok hworld, hv.stack]
  exact h v before hv

/-- The events of a walk are what its directories yield. -/
theorem runIn_events {mode : Mode} {r : Except Failure Unit} {found : List Event}
    (hroot : w.resolve start = .ok root)
    (h : Yields w (enter mode root collect w.stack root none) r found) :
    ∃ v, (events mode start).runIn w = (.ok (r, found), v) := by
  obtain ⟨v, -, hwalk⟩ := yields_walk hroot h w [] (.refl w)
  have hcollect : (fun e => ActionWith.update (· ++ [e])) = collect := rfl
  refine ⟨v, ?_⟩
  rw [events, ActionWith.runIn_keeping, hcollect, hwalk, List.nil_append]

/-- The walk of a tree is a derivation. -/
theorem events_walked (hroot : w.resolve start = .ok root) (hground : Grounded w root.names) :
    ∃ r found v, (events .root start).runIn w = (.ok (r, found), v) ∧
      Walked w root.names w.stack (.directory root.names none) r found := by
  have hpath : ⟨1, root.names⟩ = root := by rw [← (resolve_shape hroot).1]
  obtain ⟨r, found, hrun, hwalked⟩ := walked_of_enter w.stack hground
  rw [hpath] at hrun
  obtain ⟨v, hevents⟩ := runIn_events hroot hrun
  exact ⟨r, found, v, hevents, hwalked⟩

/-! ## Plain sources -/

/-- The path of plain sources before links are resolved. -/
theorem child_of_plain {here : List Text} {d : Descriptor} {t : Text}
    (hd : w.packageAt? here = some d) (hname : d.sourceName = .ok t) (hplain : d.hasPlainSource) :
    d.directory.child t = ⟨1, here ++ (Path.ofText t).names⟩ ∧ (Path.ofText t).names ≠ [] ∧
      Path.NoDots (Path.ofText t).names := by
  simp only [Descriptor.hasPlainSource, hname, Bool.and_eq_true, Bool.not_eq_true',
    List.isEmpty_eq_false_iff, List.all_eq_true] at hplain
  obtain ⟨⟨hrelative, hne⟩, hdots⟩ := hplain
  refine ⟨?_, hne, hdots⟩
  rw [directory_packageAt? hd, Path.child, Path.join, hrelative]
  rfl

theorem plain_sources {here : List Text} {d : Descriptor} {src : Path}
    (h : w.LinkFreeAt here es) (hd : w.packageAt? here = some d) (hplain : d.hasPlainSource)
    (hat : w.sourcesAt? here = some src) : ∃ rest, rest ≠ [] ∧ src = ⟨1, here ++ rest⟩ := by
  obtain ⟨t, hname, hsrc⟩ := sourceName_of_sourcesAt? hd hat
  obtain ⟨hchild, hne, hdots⟩ := child_of_plain hd hname hplain
  rw [hchild] at hsrc
  exact ⟨_, hne, h.resolve_eq hdots hsrc⟩

/-- Sources that are named by plain paths are below their packages. -/
theorem sourcesBelow_of_texts {here : List Text} (h : w.LinkFreeAt here es)
    (hplain : ∀ there d t, Reachable w here there → here <+: there → w.packageAt? there = some d →
      d.sourceName = .ok t → d.hasPlainSource) : SourcesBelow w here := by
  have hsources {there cs d src} (hreach : Reachable w here there) (hpre : here <+: there)
      (hcs : w.LinkFreeAt there cs) (hd : w.packageAt? there = some d)
      (hat : w.sourcesAt? there = some src) : ∃ rest, rest ≠ [] ∧ src = ⟨1, there ++ rest⟩ := by
    obtain ⟨t, hname, -⟩ := sourceName_of_sourcesAt? hd hat
    exact plain_sources hcs hd (hplain there d t hreach hpre hd hname) hat
  have hpackage {there src} (hat : w.sourcesAt? there = some src) :
      ∃ d, w.packageAt? there = some d := by
    cases hd : w.packageAt? there with
    | none => simp [sourcesAt?, hd] at hat
    | some d => exact ⟨d, rfl⟩
  have hreached : ∀ there, Reachable w here there →
      here <+: there ∧ ∃ cs, w.LinkFreeAt there cs := by
    intro there hreach
    induction hreach with
    | refl => exact ⟨List.prefix_rfl, es, h⟩
    | @tail mid next hmid henters ih =>
      obtain ⟨hpre, cs, hcs⟩ := ih
      cases henters with
      | child _ hget => exact ⟨hpre.trans (List.prefix_append _ _), _, hcs.below hget⟩
      | sources hat hget =>
        obtain ⟨d, hd⟩ := hpackage hat
        obtain ⟨rest, -, rfl⟩ := hsources hmid hpre hcs hd hat
        exact ⟨hpre.trans (List.prefix_append _ _), _, hcs.below hget⟩
  intro there hreach src hat
  obtain ⟨hpre, cs, hcs⟩ := hreached there hreach
  obtain ⟨d, hd⟩ := hpackage hat
  obtain ⟨rest, hne, rfl⟩ := hsources hreach hpre hcs hd hat
  exact ⟨rest, hne, rfl⟩

/-- Plain sources are below their packages. -/
theorem sourcesBelow_of_plain {here : List Text} (h : w.LinkFreeAt here es)
    (hplain : ∀ there d, Reachable w here there → w.packageAt? there = some d → d.hasPlainSource) :
    SourcesBelow w here :=
  sourcesBelow_of_texts h fun there d _ hreach _ hd _ => hplain there d hreach hd

/-! ## Small trees -/

/-- A world with a directory `/root` of these entries. -/
def rooted (es : List (Text × Entry)) : World where
  tree := .directory [("root", .directory es)]
  current := []
  home := ⟨1, []⟩

/-- The bytes of a text in ASCII. -/
def ascii (s : String) : List UInt8 := s.toList.map fun c => UInt8.ofNat c.toNat

/-- A descriptor file with these bytes. -/
def descriptorFile (data : List UInt8) : Text × Entry := (Descriptor.fileName, .file data)

/-- Whether all packages of a tree have plain sources. -/
def allPlain (w : World) : Bool :=
  w.tree.paths.all fun names => (w.packageAt? names.dropLast).all Descriptor.hasPlainSource

/-- How the walk from `/root` ends, and the paths of its events. -/
def outcome (w : World) : Except Failure (Except Failure Unit × List Path) :=
  ((events .root ⟨1, ["root"]⟩).runIn w).1.map fun (r, found) => (r, found.map Event.path)

/-- The failure of the system that such a walk ended with, if any, and the paths. -/
def ending? :
    Except Failure (Except Failure Unit × List Path) → Option (Option FileFault × List Path)
  | .ok (.ok (), paths) => some (none, paths)
  | .ok (.error (.raised (.file f)), paths) => some (some f, paths)
  | _ => none

/-- How a walk ended can be decided, other than whether two failures are equal. -/
theorem eq_of_ending? {x : Except Failure (Except Failure Unit × List Path)} {paths : List Path}
    (fault : Option FileFault) (h : ending? x = some (fault, paths)) :
    x = .ok (fault.elim (.ok ()) fun f => .error (.raised (.file f)), paths) := by
  unfold ending? at h
  split at h <;> cases h <;> rfl

/-- A test of all packages of a tree. -/
theorem test_of_paths {test : Descriptor → Bool}
    (h : w.tree.paths.all fun names => (w.packageAt? names.dropLast).all test)
    {here : List Text} {d : Descriptor} (hd : w.packageAt? here = some d) : test d := by
  obtain ⟨data, hdata, -⟩ := packageAt?_eq_some hd
  have hall := List.all_eq_true.1 h _ (mem_paths_descriptor hdata)
  rwa [List.dropLast_concat, hd] at hall

theorem hasPlainSource_of_allPlain (h : allPlain w) (here : List Text) (d : Descriptor)
    (hd : w.packageAt? here = some d) : d.hasPlainSource :=
  test_of_paths h hd

theorem runIn_of_outcome {r : Except Failure Unit} {paths : List Path}
    (h : outcome w = .ok (r, paths)) :
    ∃ found v, (events .root ⟨1, ["root"]⟩).runIn w = (.ok (r, found), v) ∧
      found.map Event.path = paths := by
  unfold outcome at h
  rcases hrun : (events .root ⟨1, ["root"]⟩).runIn w with ⟨f | ⟨r', found⟩, v⟩
  · rw [hrun] at h
    cases h
  · rw [hrun] at h
    obtain ⟨rfl, rfl⟩ := Prod.mk.inj (Except.ok.inj h)
    exact ⟨found, v, rfl, rfl⟩

theorem get?_rooted (es : List (Text × Entry)) :
    (rooted es).tree.get? ["root"] = some (.directory es) := by
  simp [rooted, Entry.get?_cons, Entry.entries]

/-- The entries of a tree with a package in the sources of another one, and a file outside. -/
def nested : List (Text × Entry) :=
  [("pkg", .directory
    [descriptorFile (ascii "\x7b\"directories\": \x7b\"src\": \"lib\"\x7d\x7d"),
     ("lib", .directory
      [("a.py", .file []),
       ("sub", .directory
        [descriptorFile (ascii "\x7b\x7d"), ("src", .directory [("b.py", .file [])])])])]),
   ("z.py", .file [])]

theorem isWellNamed_nested : (rooted nested).tree.isWellNamed := by decide +kernel

theorem isLinkFree_nested : (rooted nested).tree.isLinkFree := by decide +kernel

theorem resolve_nested : (rooted nested).resolve ⟨1, ["root"]⟩ = .ok ⟨1, ["root"]⟩ := by
  decide +kernel

theorem allPlain_nested : allPlain (rooted nested) := by decide +kernel

theorem outcome_nested : outcome (rooted nested) = .ok (.ok (),
    [⟨1, ["root", "pkg", "package.json"]⟩, ⟨1, ["root", "pkg", "lib", "a.py"]⟩,
     ⟨1, ["root", "pkg", "lib", "sub", "package.json"]⟩,
     ⟨1, ["root", "pkg", "lib", "sub", "src", "b.py"]⟩, ⟨1, ["root", "z.py"]⟩]) :=
  eq_of_ending? none (by decide +kernel)

theorem linkFreeAt_nested : (rooted nested).LinkFreeAt ["root"] nested :=
  ⟨get?_rooted nested, isWellNamed_nested,
    Entry.isLinkFree_get? isLinkFree_nested (get?_rooted nested)⟩

theorem sourcesBelow_nested : SourcesBelow (rooted nested) ["root"] :=
  sourcesBelow_of_plain linkFreeAt_nested fun here d _ hd =>
    hasPlainSource_of_allPlain allPlain_nested here d hd

/-! ## The end of a walk -/

/-- How a walk ends: well, at a malformed descriptor, at a path that the system refuses, or where
too few calls are left. -/
inductive Ends : Except Failure Unit → Prop where
  | well : Ends (.ok ())
  | malformed (p : Path) (typeName : String) : Ends (.error (.descriptor p typeName))
  | refused {f : FileFault} : f ∈ [.nameTooLong, .unencodable, .nulCharacter] →
      Ends (.error (.raised (.file f)))
  | tooDeep : Ends (.error (.raised .tooDeep))

/-- A walk through a tree without links comes to an end.  It does not run out of calls if it has
enough of them wherever it comes, and some number is enough if no way leads back.  If moreover no
directory can be reached in two ways, it finds nothing twice. -/
theorem events_end (named : w.tree.isWellNamed) (free : w.tree.isLinkFree)
    (hroot : w.resolve start = .ok root) (hdir : w.tree.get? root.names = some (.directory es)) :
    ∃ r found v, (events .root start).runIn w = (.ok (r, found), v) ∧ Ends r ∧
      (HasRoom w w.stack root.names → r ≠ .error (.raised .tooDeep)) ∧
      (Forward w root.names → ∃ enough, ∀ room, enough ≤ room → HasRoom w room root.names) ∧
      (OneWay w root.names → (found.map Event.path).Nodup) := by
  obtain ⟨r, found, v, hrun, hwalked⟩ :=
    events_walked hroot (grounded_of_isLinkFree named free hdir)
  refine ⟨r, found, v, hrun, ?_, fun hroom => ?_, fun hforward => ?_,
    fun hone => hwalked.nodup_path hone⟩
  · cases r with
    | ok u => exact .well
    | error f =>
      cases hwalked.failure rfl with
      | @malformed _ d typeName => exact .malformed d.path typeName
      | refused hg =>
        rcases hg with rfl | ⟨p, hp⟩
        · exact .refused (by simp)
        · obtain ⟨ts, htop⟩ := linkFreeAt_top named free hdir
          rcases resolve_error htop hp with rfl | rfl
          · exact .refused (by simp)
          · exact .refused (by simp)
      | tooDeep => exact .tooDeep
  · rintro rfl
    cases hwalked.failure rfl with
    | tooDeep hdeep => exact hdeep hroom
  · obtain ⟨most, hmost⟩ := exists_fits w
    exact ⟨most + 2 * w.tree.size + 1, fun room hle =>
      hforward.hasRoom hdir (fun here data _ => hmost here data) (by omega)⟩

theorem events_end_nested : ∃ r found v,
    (events .root ⟨1, ["root"]⟩).runIn (rooted nested) = (.ok (r, found), v) ∧ Ends r ∧
      (∃ enough, ∀ room, enough ≤ room → HasRoom (rooted nested) room ["root"]) ∧
      (found.map Event.path).Nodup := by
  obtain ⟨r, found, v, hrun, hends, -, henough, hnodup⟩ :=
    events_end isWellNamed_nested isLinkFree_nested resolve_nested (get?_rooted nested)
  have hone := sourcesBelow_nested.oneWay
  exact ⟨r, found, v, hrun, hends, henough hone.forward, hnodup hone⟩

/-- The entries of a tree where a package has its sources beside itself. -/
def shared : List (Text × Entry) :=
  [("a", .directory [descriptorFile (ascii "\x7b\"directories\": \x7b\"src\": \"../b\"\x7d\x7d")]),
   ("b", .directory [("f.py", .file [])])]

theorem outcome_shared : outcome (rooted shared) = .ok (.ok (),
    [⟨1, ["root", "a", "package.json"]⟩, ⟨1, ["root", "b", "f.py"]⟩,
     ⟨1, ["root", "b", "f.py"]⟩]) := eq_of_ending? none (by decide +kernel)

/-- A package that is its own source directory is found until too few calls are left. -/
theorem yields_enter_circular {here : List Text} {d : Descriptor} {s : Text}
    (h : w.LinkFreeAt here es) (hfile : w.holds Entry.isFile (descriptorPath here) = .ok true)
    (hd : w.packageAt? here = some d) (hname : d.sourceName = .ok s)
    (hsrc : w.resolve (d.directory.child s) = .ok ⟨1, here⟩)
    (hdir : w.holds Entry.isDirectory ⟨1, here⟩ = .ok true) (room : Nat)
    (package : Option Descriptor) :
    ∃ found, Yields w (enter .root root collect room ⟨1, here⟩ package)
      (.error (.raised .tooDeep)) found := by
  have hsource : Action.Reads w d.sourceDirectory (.ok ⟨1, here⟩) := by
    have hread := Action.Reads.resolve (w := w) (d.directory.child s)
    rw [hsrc] at hread
    unfold Descriptor.sourceDirectory
    rw [hname]
    exact hread
  have hthere : Action.Reads w (hasSources ⟨1, here⟩) (.ok true) := by
    have hread := reads_hasSources (w := w) ⟨1, here⟩
    rwa [hdir] at hread
  induction room generalizing package with
  | zero => exact ⟨_, Yields.throw _⟩
  | succ room ih =>
    rw [enter]
    cases hdeep : w.overflowsAt room here with
    | true =>
      exact ⟨_, (Yields.of_reads (reads_descriptorIn_overflows h hfile hdeep)).bind_error⟩
    | false =>
      have hfound : Action.Reads w (descriptorIn room ⟨1, here⟩) (.ok (some (some d))) := by
        have hread := reads_descriptorIn h hdeep
        rwa [descriptorAt, hfile, Action.ofLookup_ok, Except.map, if_pos rfl, hd] at hread
      obtain ⟨found, hyields⟩ := ih (some d)
      exact ⟨_, Yields.reads_bind hfound (Yields.reads_bind hsource
        ((Yields.collect _).bind_ok (Yields.reads_bind hthere hyields)))⟩

/-- The entries of a package that is its own source directory. -/
def circular : List (Text × Entry) :=
  [descriptorFile (ascii "\x7b\"directories\": \x7b\"src\": \".\"\x7d\x7d")]

theorem isWellNamed_circular : (rooted circular).tree.isWellNamed := by decide +kernel

theorem isLinkFree_circular : (rooted circular).tree.isLinkFree := by decide +kernel

theorem sourcesAt?_circular : (rooted circular).sourcesAt? ["root"] = some ⟨1, ["root"]⟩ := by
  decide +kernel

/-- Sources that are also reached without their package are walked twice, and a walk that comes back
to where it has been does not end well. -/
theorem events_shared_or_circular :
    ((rooted shared).tree.isWellNamed ∧ (rooted shared).tree.isLinkFree ∧ ∃ found v,
      (events .root ⟨1, ["root"]⟩).runIn (rooted shared) = (.ok (.ok (), found), v) ∧
        ¬ (found.map Event.path).Nodup) ∧
    ((rooted circular).tree.isWellNamed ∧ (rooted circular).tree.isLinkFree ∧ ∃ found v,
      (events .root ⟨1, ["root"]⟩).runIn (rooted circular) =
        (.ok (.error (.raised .tooDeep), found), v)) := by
  constructor
  · obtain ⟨found, v, hrun, hpaths⟩ := runIn_of_outcome outcome_shared
    refine ⟨by decide +kernel, by decide +kernel, found, v, hrun, ?_⟩
    rw [hpaths]
    decide +kernel
  · obtain ⟨d, s, hd, hname, hsrc⟩ := exists_of_sourcesAt? sourcesAt?_circular
    have hfree : (rooted circular).LinkFreeAt ["root"] circular :=
      ⟨get?_rooted circular, isWellNamed_circular,
        Entry.isLinkFree_get? isLinkFree_circular (get?_rooted circular)⟩
    have hroot : (rooted circular).resolve ⟨1, ["root"]⟩ = .ok ⟨1, ["root"]⟩ := by decide +kernel
    obtain ⟨found, hyields⟩ :=
      yields_enter_circular hfree (by decide +kernel) hd hname hsrc (by decide +kernel) _ _
    obtain ⟨v, hevents⟩ := runIn_events hroot hyields
    exact ⟨isWellNamed_circular, isLinkFree_circular, _, v, hevents⟩

/-! ## Exactness -/

/-- The names of the path of a file from a directory on. -/
def Event.below? (root : List Text) (e : Event) : Option (List Text) :=
  e.file?.map (·.drop root.length)

/-- Everything found is a package or a file that the walk from `root` reaches, is found once and in
order, and files have the right relative path and package. -/
structure Sound (w : World) (root : List Text) (found : List Event) : Prop where
  distinct : (found.map Event.path).Nodup
  ordered : (found.filterMap (Event.below? root)).Pairwise (· < ·)
  package : ∀ d, .package d ∈ found →
    ∃ here, Reachable w root here ∧ w.packageAt? here = some d
  file : ∀ p t q, .file p t q ∈ found → ∃ rest n,
    Reachable w root (root ++ rest) ∧ FileIn w (root ++ rest) n ∧ p = ⟨1, root ++ rest ++ [n]⟩ ∧
      t = Text.join "/" (rest ++ [n]) ∧ Nearest found none (root ++ rest) q

/-- All packages and files that the walk from `root` reaches are found. -/
structure Exhaustive (w : World) (root : List Text) (found : List Event) : Prop where
  package : ∀ here d, Reachable w root here → w.packageAt? here = some d → .package d ∈ found
  file : ∀ here n, Reachable w root here → FileIn w here n →
    ∃ t q, .file ⟨1, here ++ [n]⟩ t q ∈ found

section Derivation

variable {names : List Text} {r : Except Failure Unit} {found : List Event} {room : Nat}

/-- Files below a directory whose names are in order are so from that directory on. -/
theorem pairwise_below (hbelow : ∀ e ∈ found, ∃ rest, e.path.names = names ++ rest)
    (hfiles : (found.filterMap Event.file?).Pairwise (· < ·)) :
    (found.filterMap (Event.below? names)).Pairwise (· < ·) := by
  rw [List.pairwise_filterMap] at hfiles ⊢
  refine hfiles.imp_of_mem fun {e e'} he he' hlt a ha b hb => ?_
  obtain ⟨full, hfull, rfl⟩ := Option.map_eq_some_iff.1 ha
  obtain ⟨full', hfull', rfl⟩ := Option.map_eq_some_iff.1 hb
  have hless := hlt full hfull full' hfull'
  obtain ⟨rest, hrest⟩ := hbelow e he
  obtain ⟨rest', hrest'⟩ := hbelow e' he'
  rw [path_of_file? hfull] at hrest
  rw [path_of_file? hfull'] at hrest'
  rw [hrest, hrest'] at hless ⊢
  rw [List.drop_left, List.drop_left]
  rcases lt_trichotomy rest rest' with hlt | rfl | hgt
  · exact hlt
  · exact absurd hless (lt_irrefl _)
  · exact absurd hless (lt_asymm (List.append_left_lt hgt))

theorem Walked.ordered (h : Walked w names room (.directory names none) r found)
    (hsrc : SourcesBelow w names) : (found.filterMap (Event.below? names)).Pairwise (· < ·) := by
  refine pairwise_below (fun e he => ?_) (h.pairwise_files (s := .directory names none) hsrc)
  obtain ⟨rest, -, hrest⟩ := (h.expects e he).below hsrc
  exact ⟨rest, hrest⟩

/-- The relative path of a file is the way from the root of the walk. -/
theorem toText_relative_file {rest : List Text} {data : List UInt8} (h : w.LinkFreeAt names es)
    (hdata : w.tree.get? (names ++ rest) = some (.file data)) :
    (w.relative ⟨1, names ++ rest⟩ ⟨1, names⟩).toText = Text.join "/" rest := by
  have hdots : Path.NoDots (names ++ rest) := fun m hm =>
    Files.not_dots_of_isName ((Entry.isWellNamed_get? h.named hdata).2 m hm)
  have hne : rest ≠ [] := by
    rintro rfl
    rw [List.append_nil, h.found] at hdata
    cases hdata
  rw [w.relative_append hdots, Path.toText_relative hne]

theorem relative_fileEvent {rest : List Text} {n : Text} {q : Option Descriptor}
    (h : w.LinkFreeAt names es) (hfile : FileIn w (names ++ rest) n) :
    fileEvent w names (names ++ rest) q n =
      .file ⟨1, names ++ rest ++ [n]⟩ (Text.join "/" (rest ++ [n])) q := by
  obtain ⟨-, data, hdata⟩ := hfile
  rw [List.append_assoc] at hdata
  rw [fileEvent, List.append_assoc, toText_relative_file h hdata]

/-- What a derivation finds below a link-free directory is sound. -/
theorem Walked.sound (h : Walked w names room (.directory names none) r found)
    (hfree : w.LinkFreeAt names es) (hsrc : SourcesBelow w names) : Sound w names found := by
  refine ⟨h.nodup_path (s := .directory names none) hsrc.oneWay, h.ordered hsrc,
    fun d hd => h.expects _ hd, fun p t q hmem => ?_⟩
  obtain ⟨here, n, ⟨hreach, hfile⟩, heq⟩ := h.expects _ hmem
  obtain ⟨rest, rfl⟩ := hsrc.root_above hreach
  rw [relative_fileEvent hfree hfile] at heq
  obtain ⟨rfl, rfl, -⟩ := Event.file.inj heq
  exact ⟨rest, n, hreach, hfile, rfl, rfl, h.nearest hsrc hmem⟩

theorem Walked.exhaustive (h : Walked w names room (.directory names none) r found)
    (hr : r = .ok ()) : Exhaustive w names found := by
  obtain ⟨hpackages, hfiles⟩ := h.complete hr
  refine ⟨hpackages, fun here n hreach hfile => ?_⟩
  obtain ⟨q, hmem⟩ := hfiles here n ⟨hreach, hfile⟩
  exact ⟨_, q, hmem⟩

end Derivation

/-- With plain sources, a walk finds nothing but what it reaches, each once, in order and with the
right package.  It ends well, and then has found everything, if and only if the system answers what
it asks in all directories that it reaches, and it has enough calls left there. -/
theorem events_exact (named : w.tree.isWellNamed) (hroot : w.resolve start = .ok root)
    (hdir : w.tree.get? root.names = some (.directory es)) (free : (Entry.directory es).isLinkFree)
    (hplain : ∀ here d, Reachable w root.names here → w.packageAt? here = some d →
      d.hasPlainSource) :
    ∃ r found v, (events .root start).runIn w = (.ok (r, found), v) ∧
      Sound w root.names found ∧
      (r = .ok () ↔ (∀ here, Reachable w root.names here → Answered w here) ∧
        HasRoom w w.stack root.names) ∧
      (r = .ok () → Exhaustive w root.names found) := by
  have hfree : w.LinkFreeAt root.names es := ⟨hdir, named, free⟩
  have hsrc := sourcesBelow_of_plain hfree hplain
  obtain ⟨r, found, v, hrun, hwalked⟩ :=
    events_walked hroot (hsrc.grounded hfree)
  exact ⟨r, found, v, hrun, hwalked.sound hfree hsrc, hwalked.ok_iff, hwalked.exhaustive⟩

theorem events_exact_nested : ∃ found v,
    (events .root ⟨1, ["root"]⟩).runIn (rooted nested) = (.ok (.ok (), found), v) ∧
      Sound (rooted nested) ["root"] found ∧ Exhaustive (rooted nested) ["root"] found := by
  obtain ⟨found, v, hrun, -⟩ := runIn_of_outcome outcome_nested
  obtain ⟨r, found', v', hrun', hsound, -, hall⟩ :=
    events_exact isWellNamed_nested resolve_nested (get?_rooted nested) linkFreeAt_nested.free
      fun here d _ hd => hasPlainSource_of_allPlain allPlain_nested here d hd
  obtain ⟨hresult, rfl⟩ := Prod.mk.inj (hrun'.symm.trans hrun)
  obtain ⟨rfl, rfl⟩ := Prod.mk.inj (Except.ok.inj hresult)
  exact ⟨found', v', hrun, hsound, hall rfl⟩

/-- The entries of a tree with a package whose sources have a name of 256 bytes. -/
def overlong : List (Text × Entry) :=
  [("a", .directory [descriptorFile
      (ascii "\x7b\"directories\":\x7b\"src\":\"" ++ List.replicate 256 120 ++
        ascii "\"\x7d\x7d")]),
   ("b", .directory [("f.py", .file [])])]

theorem outcome_overlong : (allPlain (rooted overlong), outcome (rooted overlong)) = (true,
    .ok (.error (.raised (.file .nameTooLong)), [⟨1, ["root", "a", "package.json"]⟩])) :=
  congrArg₂ Prod.mk (by decide +kernel) (eq_of_ending? (some .nameTooLong) (by decide +kernel))

/-- If the system refuses to look for the sources of a package, files beside it are not found. -/
theorem events_overlong :
    (rooted overlong).tree.isWellNamed ∧ (rooted overlong).tree.isLinkFree ∧
    (∀ here d, (rooted overlong).packageAt? here = some d → d.hasPlainSource) ∧
    Reachable (rooted overlong) ["root"] ["root", "b"] ∧
    FileIn (rooted overlong) ["root", "b"] "f.py" ∧
    ∃ f found v, (events .root ⟨1, ["root"]⟩).runIn (rooted overlong) = (.ok (.error f, found), v) ∧
      ⟨1, ["root", "b", "f.py"]⟩ ∉ found.map Event.path := by
  obtain ⟨hplain, hout⟩ := Prod.mk.inj outcome_overlong
  obtain ⟨found, v, hrun, hpaths⟩ := runIn_of_outcome hout
  have hnone : (rooted overlong).descriptorData? ["root"] = none := by decide +kernel
  have hb : (rooted overlong).tree.get? (["root"] ++ ["b"]) =
      some (.directory [("f.py", .file [])]) := rfl
  have hfile : FileIn (rooted overlong) ["root", "b"] "f.py" := ⟨by decide +kernel, [], rfl⟩
  refine ⟨by decide +kernel, by decide +kernel, hasPlainSource_of_allPlain hplain,
    .single (.child hnone hb), hfile, _, found, v, hrun, ?_⟩
  rw [hpaths]
  decide +kernel

end Walk

end SourceDocs
