import SourceDocs.Proofs.Archive.Outside
import SourceDocs.Proofs.Run.Handling
import SourceDocs.Proofs.Run.Quiet
import SourceDocs.Proofs.Run.Sample
import SourceDocs.Proofs.Walk.Distinct

/-!
# The archive of a whole run

A run walks while its archive writes, counts in one place what it has handled in another, and learns
of a failed job only later.  `generate_archives` says what comes of it if a run over sources
succeeds: the archive holds the trees of exactly the files that were found, chosen and read, and the
counters are the numbers of files that they should be.
-/

namespace SourceDocs

open World Acting SourceDocs.Action Files

/-- Whether a file was found. -/
def Walk.Event.isFile : Walk.Event → Bool
  | .file _ _ _ => true
  | .package _ => false

namespace Run

/-! ## What is expected -/

variable {x : Context} {w v : World} {c : Collected} {root : List Text} {es : List Walk.Event}
  {files : FileMap}

/-- The names of the file for a tree below the archive. -/
def fileNames (t : Text) : List Text :=
  (Path.ofText (Text.ofString "source/" ++ t ++ Text.ofString ".json")).names

/-- The tree of a file that was found, if the file is chosen and can be read into a tree, with the
names of the file for it. -/
def tree? (x : Context) (w : World) : Walk.Event → Option (List Text × Value)
  | .file path t _ =>
    match x.matcher.accepts t with
    | .ok true =>
      ((Extraction.parseFile path).runIn w).1.toOption.map fun tree => (fileNames t, tree)
    | _ => none
  | .package _ => none

/-- All trees of what was found, with the names of the files for them. -/
def trees (x : Context) (w : World) (es : List Walk.Event) : List (List Text × Value) :=
  es.filterMap (tree? x w)

/-- The files of the archive are those for the trees of what was found. -/
structure AreTrees (x : Context) (w : World) (es : List Walk.Event) (files : FileMap) :
    Prop where
  written : ∀ names tree, (names, tree) ∈ trees x w es → ∃ data, Archive.treeData tree = some data
  files_iff : ∀ names data, files (Archive.directoryName :: names) = some data ↔
    ∃ tree, (names, tree) ∈ trees x w es ∧ Archive.treeData tree = some data

/-- A file below the root of a walk over sources. -/
def IsBelow (root : List Text) (e : Walk.Event) : Prop :=
  ∃ rest, rest ≠ [] ∧ (∀ n ∈ rest, isName n) ∧
    e = .file ⟨1, root ++ rest⟩ (Text.join "/" rest) none

/-- What has become of a run and of a walk that only collects what it finds. -/
structure Aside (x : Context) (w : World) (root : List Text) (s : World × Collected)
    (t : World × List Walk.Event) : Prop where
  static : w.SameFiles t.1
  archived : Archive.Archived x.destination w s.1
  notClosed : s.2.archive.closed = false
  archiveRoot : s.2.archive.root = (Archive.below x.destination).root
  below : ∀ e ∈ t.2, IsBelow root e
  /-- Unless the last job has failed. -/
  holds : s.2.archive.failing? = none →
    s.2.archive.settled.written = s.2.stats.filesParsed ∧
      ∃ files, Holds x.destination w s.1 files ∧ AreTrees x w t.2 files
  seen : s.2.stats.filesSeen = t.2.length
  matched : s.2.stats.filesMatched = s.2.stats.filesParsed + s.2.stats.filesSkipped
  parsed : s.2.stats.filesParsed = (trees x w t.2).length

theorem Aside.start (x : Context) (w : World) (root : List Text) :
    Aside x w root (walkStart x w, emptyCollected x) (w, []) where
  static := .refl w
  archived := .single (.other ⟨rfl, rfl, rfl, rfl⟩)
  notClosed := rfl
  archiveRoot := rfl
  below _ he := absurd he List.not_mem_nil
  holds _ := by
    refine ⟨rfl, fun _ => none, (Holds.refl _ w).of_sameFiles ⟨rfl, rfl, rfl, rfl⟩,
      fun _ _ hmem => absurd hmem List.not_mem_nil, fun names data => ?_⟩
    constructor
    · intro h
      cases h
    · rintro ⟨_, hmem, -⟩
      exact absurd hmem List.not_mem_nil
  seen := rfl
  matched := rfl
  parsed := rfl

theorem trees_concat_none {e : Walk.Event} (h : tree? x w e = none) :
    trees x w (es ++ [e]) = trees x w es := by
  rw [trees, List.filterMap_append, List.filterMap_cons_none h, List.filterMap_nil,
    List.append_nil, trees]

theorem trees_concat_some {e : Walk.Event} {y : List Text × Value} (h : tree? x w e = some y) :
    trees x w (es ++ [e]) = trees x w es ++ [y] := by
  rw [trees, List.filterMap_append, List.filterMap_cons_some h, List.filterMap_nil, trees]

/-- A file that is not archived changes the counters only. -/
theorem Aside.pass {s s' : World × Collected} {t : World × List Walk.Event} {e : Walk.Event}
    (h : Aside x w root s t) (he : IsBelow root e) (hnone : tree? x w e = none)
    (hsame : s.1.SameFiles s'.1) (harchive : s'.2.archive = s.2.archive)
    (hseen : s'.2.stats.filesSeen = s.2.stats.filesSeen + 1)
    (hparsed : s'.2.stats.filesParsed = s.2.stats.filesParsed)
    (hmatched : s'.2.stats.filesMatched + s.2.stats.filesSkipped =
      s.2.stats.filesMatched + s'.2.stats.filesSkipped) :
    Aside x w root s' (t.1, t.2 ++ [e]) where
  static := h.static
  archived := h.archived.tail (.other hsame)
  notClosed := by rw [harchive, h.notClosed]
  archiveRoot := by rw [harchive, h.archiveRoot]
  below e' he' := by
    rcases List.mem_append.1 he' with he' | he'
    · exact h.below e' he'
    · exact List.mem_singleton.1 he' ▸ he
  holds hfailing := by
    rw [harchive] at hfailing ⊢
    obtain ⟨hwritten, files, hholds, htrees⟩ := h.holds hfailing
    refine ⟨hwritten.trans hparsed.symm, files, hholds.of_sameFiles hsame, ?_⟩
    exact ⟨by rw [trees_concat_none hnone]; exact htrees.written, by
      rw [trees_concat_none hnone]; exact htrees.files_iff⟩
  seen := by rw [hseen, h.seen, List.length_append, List.length_singleton]
  matched := by
    have := h.matched
    omega
  parsed := by rw [hparsed, h.parsed, trees_concat_none hnone]

/-- Reading a file into a tree depends on what is at its path only. -/
theorem parseFile_congr {p : Path} (h : v.entry p = w.entry p) :
    ((Extraction.parseFile p).runIn v).1 = ((Extraction.parseFile p).runIn w).1 := by
  rw [Extraction.parseFile, runIn_attempt_bind, runIn_attempt_bind, runIn_readBytes,
    runIn_readBytes, h]
  rcases w.entry p with f | (data | es | target)
  · cases hsystem : f.isSystem <;> simp only [hsystem] <;> rfl
  · cases hparsed : Source.parseModule data <;> simp only [hparsed] <;> rfl
  · rfl
  · rfl

theorem fileNames_join {rest : List Text} (hrest : rest ≠ []) (hnames : ∀ n ∈ rest, isName n) :
    fileNames (Text.join "/" rest) = Archive.treeNames rest :=
  congrArg Path.names (Archive.inside_of_isName hnames hrest .null).path

theorem fst_of_tree? {rest : List Text} {y : List Text × Value} (hrest : rest ≠ [])
    (hnames : ∀ n ∈ rest, isName n) {path : Path} {d : Option Descriptor}
    (h : tree? x w (.file path (Text.join "/" rest) d) = some y) :
    y.1 = Archive.treeNames rest := by
  rw [tree?] at h
  split at h
  · obtain ⟨tree, -, rfl⟩ := Option.map_eq_some_iff.1 h
    exact fileNames_join hrest hnames
  · cases h

/-- The trees of files below the root have different files. -/
theorem eq_of_tree? {e e' : Walk.Event} {y y' : List Text × Value} (he : IsBelow root e)
    (he' : IsBelow root e') (h : tree? x w e = some y) (h' : tree? x w e' = some y')
    (hy : y.1 = y'.1) : e = e' := by
  obtain ⟨rest, hrest, hnames, rfl⟩ := he
  obtain ⟨rest', hrest', hnames', rfl⟩ := he'
  rw [fst_of_tree? hrest hnames h, fst_of_tree? hrest' hnames' h'] at hy
  rw [Archive.treeNames_inj hrest hrest' hy]

theorem nodup_trees (hbelow : ∀ e ∈ es, IsBelow root e) (hnodup : (es.map Walk.Event.path).Nodup) :
    ((trees x w es).map Prod.fst).Nodup := by
  rw [List.Nodup, List.pairwise_map, trees, List.pairwise_filterMap]
  refine (List.pairwise_map.1 hnodup).imp_of_mem fun he he' hne y hy y' hy' heq => hne ?_
  rw [eq_of_tree? (hbelow _ he) (hbelow _ he') hy hy' heq]

/-- The trees of what was found together with one more, which has a file of its own. -/
theorem AreTrees.concat {e : Walk.Event} {names : List Text} {tree : Value} {data : List UInt8}
    (h : AreTrees x w es files) (hbelow : ∀ e ∈ es, IsBelow root e) (he : IsBelow root e)
    (htree : tree? x w e = some (names, tree)) (hdata : Archive.treeData tree = some data) :
    AreTrees x w (es ++ [e])
      (Function.update files (Archive.directoryName :: names) (some data)) := by
  have hone {names' : List Text} {tree' : Value} (hmem : (names', tree') ∈ trees x w (es ++ [e])) :
      (names', tree') ∈ trees x w es ∨ names' = names ∧ tree' = tree := by
    rw [trees_concat_some htree] at hmem
    rcases List.mem_append.1 hmem with hmem | hmem
    · exact .inl hmem
    · cases List.mem_singleton.1 hmem
      exact .inr ⟨rfl, rfl⟩
  constructor
  · intro names' tree' hmem
    rcases hone hmem with hmem | ⟨-, rfl⟩
    · exact h.written names' tree' hmem
    · exact ⟨data, hdata⟩
  · intro names' data'
    by_cases hsame : names' = names
    · subst hsame
      rw [Function.update_self]
      constructor
      · intro heq
        cases heq
        refine ⟨tree, ?_, hdata⟩
        rw [trees_concat_some htree]
        exact List.mem_append_right _ (List.mem_singleton_self _)
      · rintro ⟨tree', hmem, hdata'⟩
        -- The same names are those of the same file.
        have heq : tree' = tree := by
          rcases hone hmem with hmem | ⟨-, rfl⟩
          · obtain ⟨e', he', htree'⟩ := List.mem_filterMap.1 hmem
            rw [eq_of_tree? (hbelow e' he') he htree' htree rfl, htree] at htree'
            cases htree'
            rfl
          · rfl
        rw [← hdata, ← heq, hdata']
    · have hne : Archive.directoryName :: names' ≠ Archive.directoryName :: names :=
        fun heq => hsame (List.cons.inj heq).2
      rw [Function.update_of_ne hne, h.files_iff]
      constructor
      · rintro ⟨tree', hmem, hdata'⟩
        refine ⟨tree', ?_, hdata'⟩
        rw [trees_concat_some htree]
        exact List.mem_append_left _ hmem
      · rintro ⟨tree', hmem, hdata'⟩
        exact ⟨tree', (hone hmem).resolve_right fun heq => hsame heq.1, hdata'⟩

/-- A tree that is archived is there once its job has succeeded. -/
theorem Aside.archive {s s' : World × Collected} {t : World × List Walk.Event} {rest : List Text}
    {tree : Value} {w₁ : World} {c₁ : Collected} (h : Aside x w root s t) (hrest : rest ≠ [])
    (hnames : ∀ n ∈ rest, isName n)
    (htree : tree? x w (.file ⟨1, root ++ rest⟩ (Text.join "/" rest) none) =
      some (Archive.treeNames rest, tree))
    (hsame : s.1.SameFiles w₁) (harchive : c₁.archive = s.2.archive)
    (hseen : c₁.stats.filesSeen = s.2.stats.filesSeen + 1)
    (hparsed : c₁.stats.filesParsed = s.2.stats.filesParsed + 1)
    (hmatched : c₁.stats.filesMatched + s.2.stats.filesSkipped =
      s.2.stats.filesMatched + 1 + c₁.stats.filesSkipped)
    (hrun : (Run.archive (jobOf (Text.join "/" rest) tree)).runWith w₁ c₁ = (.ok (), s')) :
    Aside x w root s'
      (t.1, t.2 ++ [.file ⟨1, root ++ rest⟩ (Text.join "/" rest) none]) := by
  have hclosed : c₁.archive.closed = false := harchive ▸ h.notClosed
  have hroot : c₁.archive.root = (Archive.below x.destination).root := harchive ▸ h.archiveRoot
  have hbelow : IsBelow root (.file ⟨1, root ++ rest⟩ (Text.join "/" rest) none) :=
    ⟨rest, hrest, hnames, rfl⟩
  have hj := Archive.inside_of_isName hnames hrest tree
  have hjob : jobOf (Text.join "/" rest) tree =
      ⟨Text.ofString "source/" ++ Text.join "/" rest, tree⟩ := rfl
  obtain ⟨-, -, hstats⟩ := archive_keeps hrun
  rw [runWith_archive, Archive.submit] at hrun
  cases hfailing : c₁.archive.failing? with
  | some f =>
    rw [Archive.runWith_submitBy_failing _ hclosed hfailing] at hrun
    cases hrun
  | none =>
    have hholds := h.holds (harchive ▸ hfailing)
    rw [Archive.runWith_submitBy _ hclosed hfailing, hroot, hjob] at hrun
    have harchived := Archive.carryOut_archived hj x.destination w₁
    rcases hcarry : (Archive.carryOut (Archive.below x.destination).root
        ⟨Text.ofString "source/" ++ Text.join "/" rest, tree⟩).runIn w₁ with ⟨r, w₂⟩
    rw [hcarry] at hrun harchived
    cases hrun
    refine ⟨h.static, (h.archived.tail (.other hsame)).trans harchived, ?_, ?_, ?_, ?_, ?_, ?_, ?_⟩
    · exact (Archive.settled_closed _).trans hclosed
    · exact (Archive.settled_root _).trans hroot
    · intro e he
      rcases List.mem_append.1 he with he | he
      · exact h.below e he
      · exact List.mem_singleton.1 he ▸ hbelow
    · intro hok
      cases r with
      | error f => cases hok
      | ok path =>
        obtain ⟨hwritten, files, hfiles, htrees⟩ := hholds
        obtain ⟨data, hdata, hfiles'⟩ := (hfiles.of_sameFiles hsame).carryOut hj hcarry
        refine ⟨?_, _, hfiles', htrees.concat h.below hbelow htree hdata⟩
        rw [Archive.settled_written_of_ok rfl, hparsed, harchive, hwritten]
    · rw [hseen, h.seen, List.length_append, List.length_singleton]
    · have := h.matched
      simp only
      omega
    · rw [hparsed, h.parsed, trees_concat_some htree, List.length_append, List.length_singleton]

/-- What a run does with a file that it has found. -/
theorem Aside.handle (houtside : Archive.Outside x.destination root w) {e : Walk.Event}
    (he : IsBelow root e) {s s' : World × Collected} {t : World × List Walk.Event}
    (h : Aside x w root s t) (hrun : outcome (Run.handle x e) s = (.ok (), s')) :
    Aside x w root s' (t.1, t.2 ++ [e]) := by
  have hbelow := he
  obtain ⟨rest, hrest, hnames, rfl⟩ := he
  have hparse := parseFile_congr (houtside.same s.1 rest h.archived hnames)
  rw [outcome_actionWith, Run.handle, runWith_handleFile] at hrun
  have htree : tree? x w (.file ⟨1, root ++ rest⟩ (Text.join "/" rest) none) =
      match x.matcher.accepts (Text.join "/" rest) with
      | .ok true => ((Extraction.parseFile ⟨1, root ++ rest⟩).runIn s.1).1.toOption.map
          fun tree => (Archive.treeNames rest, tree)
      | _ => none := by
    rw [hparse, ← fileNames_join hrest hnames]
    rfl
  split at hrun
  case h_1 => cases hrun
  case h_2 hrefused =>
    cases hrun
    rw [hrefused] at htree
    exact h.pass hbelow htree ⟨rfl, rfl, rfl, rfl⟩ rfl rfl rfl rfl
  case h_3 hchosen =>
    rw [hchosen] at htree
    have hpackage : (packageOf x.package none).runIn s.1 = (.ok x.package, s.1) := rfl
    rw [hpackage] at hrun
    simp only at hrun
    split at hrun
    case h_1 => cases hrun
    case h_2 w₁ hextract =>
      cases hrun
      rcases extract_ok hextract with ⟨-, hsame, f, hfault⟩ | ⟨tree, drafts, hr, -⟩
      · have hfault' : ((Extraction.parseFile ⟨1, root ++ rest⟩).runIn s.1).1 =
            .error (.source f) := hfault
        rw [hfault'] at htree
        refine h.pass hbelow htree hsame.sameFiles rfl rfl rfl ?_
        simp only [Collected.saw, Collected.chose, Collected.skipped]
        omega
      · cases hr
    case h_3 records tree w₁ hextract =>
      rcases extract_ok hextract with ⟨hr, -⟩ | ⟨tree', drafts, hr, hparsed, hw₁⟩
      · cases hr
      · cases hr
        have hparsed' : ((Extraction.parseFile ⟨1, root ++ rest⟩).runIn s.1).1 = .ok tree :=
          hparsed
        rw [hparsed'] at htree
        have hsame : s.1.SameFiles w₁ := by
          rw [hw₁]
          exact ⟨rfl, rfl, rfl, rfl⟩
        refine h.archive hrest hnames htree hsame ?_ ?_ ?_ ?_ hrun
        · rfl
        · rfl
        · rfl
        · simp only [Collected.saw, Collected.chose, Collected.parsed]

theorem archived_current {destination : Path} (h : Archive.Archived destination w v) :
    v.current = w.current := by
  induction h with
  | refl => rfl
  | tail _ hstep ih =>
    cases hstep with
    | directory => exact ih
    | file => exact ih
    | other hsame => exact hsame.current.trans ih

/-- The run and the walk that collects see the same below the root. -/
theorem sight_aside (named : w.tree.isWellNamed) (houtside : Archive.Outside x.destination root w)
    (hroot : Path.NoDots root) :
    Walk.Sight .source ⟨1, root⟩ (fun p => ∃ rest, p = ⟨1, root ++ rest⟩ ∧ ∀ n ∈ rest, isName n)
      (IsBelow root) (Aside x w root) where
  current h := h.static.current.trans (archived_current h.archived).symm
  entry h hp := by
    obtain ⟨rest, rfl, hrest⟩ := hp
    rw [houtside.same _ rest h.archived hrest, h.static.entry_eq]
  inside h hp hentry hmem := by
    obtain ⟨rest, rfl, hrest⟩ := hp
    rw [houtside.same _ rest h.archived hrest] at hentry
    obtain ⟨-, place, hleads⟩ := entry_eq_ok.1 hentry
    have hnamed := (Entry.isWellNamed_get? named (Leads.get? hleads)).1
    rw [Entry.isWellNamed, Bool.and_eq_true] at hnamed
    refine ⟨rest ++ [_], by rw [List.append_assoc], fun n hn => ?_⟩
    rcases List.mem_append.1 hn with hn | hn
    · exact hrest n hn
    · rw [List.mem_singleton.1 hn]
      exact (Entry.mem_of_areWellNamed hnamed.2 hmem).1
  logged es h := { h with
    archived := h.archived.tail (.other ⟨rfl, rfl, rfl, rfl⟩)
    static := h.static.trans ⟨rfl, rfl, rfl, rfl⟩
    holds := fun hfailing => by
      obtain ⟨hwritten, files, hholds, htrees⟩ := h.holds hfailing
      exact ⟨hwritten, files, hholds.of_sameFiles ⟨rfl, rfl, rfl, rfl⟩, htrees⟩ }
  file h hp hchild hpackage := by
    obtain ⟨rest₀, rfl, -⟩ := hp
    obtain ⟨rest, hpath, hrest⟩ := hchild
    rw [Path.mk.injEq, List.append_assoc, List.append_cancel_left_eq] at hpath
    obtain ⟨-, rfl⟩ := hpath
    have hdots : Path.NoDots (root ++ (rest₀ ++ [_])) :=
      hroot.append fun n hn => not_dots_of_isName (hrest n hn)
    refine ⟨_, by simp, hrest, ?_⟩
    rw [hpackage rfl, List.append_assoc, World.relative_append _ hdots,
      Path.toText_relative (by simp)]
  packages hfalse := by cases hfalse

/-! ## The index -/

theorem child_indexName (p : Path) :
    p.child Output.fileName = ⟨p.root, p.names ++ [Output.fileName]⟩ := by
  have hname : Path.ofText Output.fileName = ⟨0, [Output.fileName]⟩ := by decide +kernel
  rw [Path.child, hname]
  rfl

theorem noDots_indexName : Path.NoDots [Output.fileName] := by
  intro n hn
  rw [List.mem_singleton.1 hn]
  decide +kernel

/-- The index is one more file below the destination, which is there once the index is written. -/
theorem holds_writeHanded {destination : Path} {handed : List (Handed DocRecord)} {v' : World}
    {r : List DocRecord × Path} (h : Holds destination w v files)
    (hrun : (Output.writeHanded handed destination).runIn v = (.ok r, v')) :
    ∃ u place ds data, Archive.Archived destination v u ∧ u.IsPlace destination place ∧
      Holds destination w v' (Function.update files [Output.fileName] (some data)) ∧
      v'.LeadsTo destination (place, some (.directory ds)) ∧
      v'.entry destination = .ok (.directory ds) := by
  rw [Output.writeHanded] at hrun
  split at hrun
  case h_2 f _ =>
    obtain ⟨_, v₁, -, hrun⟩ := exists_of_runIn_bind hrun
    cases hrun
  case h_1 records _ =>
    obtain ⟨path, v₃, hwrite, hrun⟩ := exists_of_runIn_bind hrun
    rw [runIn_pure] at hrun
    cases hrun
    rw [Output.write] at hwrite
    obtain ⟨_, v₁, hmake, hwrite⟩ := exists_of_runIn_bind hwrite
    obtain ⟨hmakes, hok⟩ := makeDirectories_cases destination v hmake
    obtain ⟨hcheck, place, es, hplace⟩ := hok rfl
    have hnone : Path.NoDots [] := fun _ hn => absurd hn List.not_mem_nil
    have h₁ := h.makes hmakes
    have harchived := Archive.archived_of_makes rfl (List.prefix_append _ _) hnone hmakes
    split at hwrite
    case h_1 => cases hwrite
    case h_2 t _ =>
      obtain ⟨_, v₂, hutf8, hwrite⟩ := exists_of_runIn_bind hwrite
      rw [child_indexName] at hutf8
      rw [runIn_bind_ok (runIn_report _ _), runIn_pure] at hwrite
      cases hwrite
      obtain ⟨names, found, data, hleads, hfound, rfl⟩ := exists_of_writeUtf8 hutf8
      have hfits := hleads.fits_file (by simp) hfound []
      have hagain := hleads.put hfits
      have hfile : ∀ es, some (Entry.file []) ≠ some (.directory es) := fun es hfalse => by
        cases hfalse
      have hfits' := hagain.fits_file (by simp) hfile data
      have h₂ := h₁.file noDots_indexName (List.cons_ne_nil _ _) hleads hfound []
      have h₃ := h₂.file noDots_indexName (List.cons_ne_nil _ _) hagain hfile data
      rw [Function.update_idem] at h₃
      obtain ⟨ds, hds⟩ := (IsPlace.put ⟨es, hplace⟩ hfits).put hfits'
      exact ⟨v₁, place, ds, data, harchived, ⟨es, hplace⟩,
        h₃.of_sameFiles ⟨rfl, rfl, rfl, rfl⟩, hds, entry_eq_ok.2 ⟨hcheck, place, hds⟩⟩

/-! ## Whole runs -/

/-- A walk over sources that succeeds has found what it would have found if nothing had been
archived. -/
theorem exists_aside {start : Path} (hmode : x.settings.root = none)
    (hsource : x.settings.source = some start) (named : w.tree.isWellNamed)
    (hroot : w.resolve start = .ok ⟨1, root⟩) (houtside : Archive.Outside x.destination root w)
    {s : World × Collected}
    (hrun : (walk x.settings (Run.handle x)).runWith (walkStart x w) (emptyCollected x) =
      (.ok (), s)) :
    ∃ v es, (events x.settings).runIn w = (.ok es, v) ∧ (es.map Walk.Event.path).Nodup ∧
      Aside x w root s (v, es) := by
  have hwalk {σ : Type} (emit : Walk.Event → ActionWith σ Unit) :
      walk x.settings emit = Walk.walk .source start emit := by
    rw [walk, hmode, hsource]
  rw [hwalk] at hrun
  have hsame : (walkStart x w).SameFiles w := ⟨rfl, rfl, rfl, rfl⟩
  have hsight (root' : Path) (hroot' : (walkStart x w).resolve start = .ok root') :
      Walk.Sight .source root'
          (fun p => ∃ rest, p = ⟨1, root ++ rest⟩ ∧ ∀ n ∈ rest, isName n)
          (IsBelow root) (Aside x w root) ∧
        ∃ rest, root' = ⟨1, root ++ rest⟩ ∧ ∀ n ∈ rest, isName n := by
    rw [hsame.symm.resolve_eq, hroot] at hroot'
    cases hroot'
    exact ⟨sight_aside named houtside (resolve_shape hroot).2, [], by rw [List.append_nil],
      fun _ hn => absurd hn List.not_mem_nil⟩
  have hstep (e : Walk.Event) (he : IsBelow root e) (s : World × Collected)
      (t : World × List Walk.Event) (s' : World × Collected) (h : Aside x w root s t)
      (hrun : outcome (Run.handle x e) s = (.ok (), s')) :
      ∃ t', outcome (Walk.collect e) t = (.ok (), t') ∧ Aside x w root s' t' :=
    ⟨_, rfl, h.handle houtside he hrun⟩
  obtain ⟨⟨v, es⟩, hfound, haside⟩ :=
    Walk.walk_of_ok hstep (Aside.start x w root) hsame hsight hrun
  refine ⟨v, es, ?_, Walk.nodup_of_walk named hfound, haside⟩
  have hcollect : (fun e => ActionWith.update (· ++ [e])) = Walk.collect := rfl
  rw [outcome_actionWith] at hfound
  rw [events, hcollect, runIn_bind, ActionWith.runIn_keeping, hwalk, hfound]
  rfl

/-- What is found and archived when a run over sources collects. -/
theorem exists_gathered {start : Path} (hmode : x.settings.root = none)
    (hsource : x.settings.source = some start) (named : w.tree.isWellNamed)
    (hroot : w.resolve start = .ok ⟨1, root⟩) (houtside : Archive.Outside x.destination root w)
    {v : World} (hrun : (gather x).runIn w = (.ok c, v)) :
    ∃ u es files, (events x.settings).runIn w = (.ok es, u) ∧
      (es.map Walk.Event.path).Nodup ∧ (∀ e ∈ es, IsBelow root e) ∧
      Archive.Archived x.destination w v ∧ Holds x.destination w v files ∧
      AreTrees x w es files ∧ c.stats.filesSeen = es.length ∧
      c.stats.filesMatched = c.stats.filesParsed + c.stats.filesSkipped ∧
      c.stats.treesWritten = c.stats.filesParsed ∧
      c.stats.filesParsed = (trees x w es).length := by
  rw [runIn_gather, runIn_collect] at hrun
  rcases hwalk : (walk x.settings (Run.handle x)).runWith (walkStart x w) (emptyCollected x) with
    ⟨_ | _, v₁, c₁⟩ <;> rw [hwalk] at hrun
  · cases hrun
  · obtain ⟨u, es, hevents, hnodup, haside⟩ :=
      exists_aside hmode hsource named hroot houtside hwalk
    cases hfailing : c₁.archive.failing? with
    | some f =>
      simp only [Archive.runWith_close_failing haside.notClosed hfailing] at hrun
      cases hrun
    | none =>
      simp only [Archive.runWith_close haside.notClosed hfailing] at hrun
      obtain ⟨hwritten, files, hholds, htrees⟩ := haside.holds hfailing
      split at hrun
      case h_1 => cases hrun
      case h_2 records v₂ hrecords =>
        have hleaves := (draws_syntheticRecords x.settings).leavesFiles.sameFiles hrecords
        have hsame : v₁.SameFiles v₂ :=
          ⟨hleaves.tree, hleaves.current, hleaves.stack, hleaves.refusal⟩
        cases hrun
        exact ⟨u, es, files, hevents, hnodup, haside.below, haside.archived.tail (.other hsame),
          hholds.of_sameFiles hsame, htrees, haside.seen, haside.matched, hwritten, haside.parsed⟩

/-- Without hooks for publishing, a run ends by writing the index. -/
theorem exists_concluded {ps : Plugins} (hpublish : ∀ p ∈ ps, p.onPublish = none)
    (hquiet : ∀ p ∈ ps, p.LeavesFiles) {stats : Stats} {handed : List (Handed DocRecord)}
    {o : Outcome} {v v' : World}
    (hrun : (conclude ps x stats handed).runIn v = (.ok o, v')) :
    o.stats = stats ∧ ∃ r u, (Output.writeHanded handed x.destination).runIn v = (.ok r, u) ∧
      u.SameFiles v' := by
  rw [conclude] at hrun
  obtain ⟨⟨records, path⟩, v₁, hwrite, hrun⟩ := exists_of_runIn_bind hrun
  obtain ⟨_, v₂, hpublished, hrun⟩ := exists_of_runIn_bind hrun
  obtain ⟨_, v₃, hcomplete, hrun⟩ := exists_of_runIn_bind hrun
  have hnone : ps.filterMap Plugin.onPublish = [] := List.filterMap_eq_nil_iff.2 hpublish
  have hsilent : (publish ps x.destination).runIn v₁ = (.ok (), v₁) := by
    rw [publish, Plugins.publish, hnone]
    rfl
  have hcompleted := (Plugins.leavesFiles_complete hquiet).sameFiles hcomplete
  rw [hsilent] at hpublished
  cases hpublished
  rw [runIn_bind_ok hcomplete, reportStats, runIn_bind_ok (runIn_report _ _), runIn_pure] at hrun
  cases hrun
  exact ⟨rfl, _, _, hwrite, hcompleted.trans ⟨rfl, rfl, rfl, rfl⟩⟩

/-- If a run over sources succeeds, where the destination is vacant and outside of the sources and
no hook works on files, the archive holds the trees of exactly the files that were found, chosen and
read, each in a file of its own, and no links.  Every file that was found was seen, every one that
was chosen was read or skipped, and as many trees were written as files were read. -/
theorem generate_archives {cs : Collaborators} {s : Settings} {w w₁ w' : World} {ps : Plugins}
    {x : Context} {o : Outcome} {start : Path} {root : List Text}
    (hsetUp : (setUp cs s).runIn w = (.ok (ps, x), w₁))
    (hrun : (generate cs s).runIn w = (.ok o, w')) (hmode : x.settings.root = none)
    (hsource : x.settings.source = some start) (hpublish : ∀ p ∈ ps, p.onPublish = none)
    (hquiet : ∀ p ∈ ps, p.LeavesFiles) (named : w₁.tree.isWellNamed)
    (hroot : w₁.resolve start = .ok ⟨1, root⟩)
    (houtside : Archive.Outside x.destination root w₁) :
    ∃ v es e, (events x.settings).runIn w₁ = (.ok es, v) ∧
      w'.entry x.destination = .ok e ∧ ((trees x w₁ es).map Prod.fst).Nodup ∧
      (∀ names tree, (names, tree) ∈ trees x w₁ es → ∃ data, Archive.treeData tree = some data) ∧
      (∀ names data, e.data? (Archive.directoryName :: names) = some data ↔
        ∃ tree, (names, tree) ∈ trees x w₁ es ∧ Archive.treeData tree = some data) ∧
      (∀ names target, e.kind? names ≠ some (.link target)) ∧
      o.stats.filesSeen = (es.filter Walk.Event.isFile).length ∧
      o.stats.filesMatched = o.stats.filesParsed + o.stats.filesSkipped ∧
      o.stats.treesWritten = o.stats.filesParsed ∧
      o.stats.filesParsed = (trees x w₁ es).length := by
  rw [generate, runIn_bind_ok hsetUp] at hrun
  obtain ⟨c, v₁, hgather, hrun⟩ := exists_of_runIn_bind hrun
  obtain ⟨handed, v₂, hdocs, hrun⟩ := exists_of_runIn_bind hrun
  obtain ⟨u, es, files, hevents, hnodup, hbelow, harchived, hholds, htrees, hseen, hcounts⟩ :=
    exists_gathered hmode hsource named hroot houtside hgather
  obtain ⟨hstats, r, v₃, hwrite, hsame⟩ := exists_concluded hpublish hquiet hrun
  have hhanded := (Plugins.leavesFiles_handleDocs hquiet _).sameFiles hdocs
  obtain ⟨v₄, place, ds, data, hmore, hplace, hholds', hleads, hentry⟩ :=
    holds_writeHanded (hholds.of_sameFiles hhanded) hwrite
  have hvacant : Vacant w₁ place :=
    houtside.vacant v₄ place ((harchived.tail (.other hhanded)).trans hmore) hplace
  obtain ⟨hlinks, hfiles⟩ := hholds'.after place ⟨ds, hleads⟩ hvacant
  have hget (names : List Text) :
      v₃.tree.get? (place ++ names) = (Entry.directory ds).get? names := by
    rw [Entry.get?_append, hleads.get?, Option.bind_some]
  have hfileEvents : es.filter Walk.Event.isFile = es := by
    refine List.filter_eq_self.2 fun e he => ?_
    obtain ⟨rest, -, -, rfl⟩ := hbelow e he
    rfl
  rw [hstats]
  refine ⟨u, es, .directory ds, hevents, (hsame.entry_eq _).trans hentry,
    nodup_trees hbelow hnodup, htrees.written, fun names data => ?_, fun names target => ?_, ?_,
    hcounts⟩
  · have hne : Archive.directoryName :: names ≠ [Output.fileName] := by
      intro heq
      have hname : Archive.directoryName ≠ Output.fileName := by decide +kernel
      exact hname (List.cons.inj heq).1
    have hfile := hfiles _ (List.cons_ne_nil Archive.directoryName names)
    rw [Function.update_of_ne hne, Entry.data?, hget] at hfile
    rw [← htrees.files_iff, ← hfile, Entry.data?]
  · rw [Entry.kind?, ← hget]
    exact hlinks names target
  · rw [hseen, hfileEvents]

/-- Two of three sources can be read. -/
theorem generate_archives_package :
    ∃ ps x w₁ o w' v es e,
      (setUp {} Sample.sourceSettings).runIn Sample.world = (.ok (ps, x), w₁) ∧
      (generate {} Sample.sourceSettings).runIn Sample.world = (.ok o, w') ∧
      (events x.settings).runIn w₁ = (.ok es, v) ∧ w'.entry ⟨1, ["out"]⟩ = .ok e ∧
      (∀ names data, e.data? (Archive.directoryName :: names) = some data ↔
        ∃ tree, (names, tree) ∈ trees x w₁ es ∧ Archive.treeData tree = some data) ∧
      (trees x w₁ es).length = 2 := by
  let root : List Text := ["r", "p", "src"]
  have hrun : Sample.passes (fun y w₁ => y.1.isEmpty && y.2.settings.root.isNone &&
        y.2.settings.source == some ⟨1, root⟩ && y.2.destination == ⟨1, ["out"]⟩ &&
        (w₁.resolve ⟨1, root⟩).toOption == some ⟨1, root⟩ &&
        w₁.tree.isWellNamed && w₁.tree.isLinkFree && w₁.tree.kind? root == some .directory &&
        (w₁.tree.get? ["out"]).isNone)
      ((setUp {} Sample.sourceSettings).runIn Sample.world) = true := by decide +kernel
  have hcompletes : Sample.passes (fun o _ => o.stats.filesParsed == 2)
      ((generate {} Sample.sourceSettings).runIn Sample.world) = true := by decide +kernel
  obtain ⟨⟨ps, x⟩, w₁, hsetUp, hrun⟩ := Sample.exists_of_passes hrun
  obtain ⟨o, w', hcompleted, hparsed⟩ := Sample.exists_of_passes hcompletes
  simp only [Bool.and_eq_true, beq_iff_eq, List.isEmpty_iff, Option.isNone_iff_eq_none] at hrun
  obtain ⟨⟨⟨⟨⟨⟨⟨⟨rfl, hmode⟩, hsource⟩, hdestination⟩, hroot⟩, hnamed⟩, hfree⟩, hdir⟩, hout⟩ :=
    hrun
  obtain ⟨es, hes⟩ := Entry.kind?_eq_directory.1 hdir
  have hvacant : Vacant w₁ ["out"] := fun n => by rw [Entry.get?_append, hout]; rfl
  have houtside : Archive.Outside x.destination root w₁ := by
    rw [hdestination]
    refine .of_linkFree hnamed hfree hes (fun n hn => ?_) hvacant
      ⟨by decide +kernel, by decide +kernel⟩
    rw [List.mem_singleton.1 hn]
    decide +kernel
  obtain ⟨v, es, e, hevents, hentry, -, -, hfiles, -, -, -, -, hcount⟩ :=
    generate_archives hsetUp hcompleted hmode hsource (fun p hp => absurd hp List.not_mem_nil)
      (fun p hp => absurd hp List.not_mem_nil) hnamed (toOption_eq_some_iff.1 hroot) houtside
  rw [hdestination] at hentry
  exact ⟨[], x, w₁, o, w', v, es, e, hsetUp, hcompleted, hevents, hentry, hfiles,
    hcount.symm.trans (beq_iff_eq.1 hparsed)⟩

end Run

end SourceDocs
