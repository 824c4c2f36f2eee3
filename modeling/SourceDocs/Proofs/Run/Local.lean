import SourceDocs.Proofs.Record.Blocks
import SourceDocs.Proofs.Run.Found
import SourceDocs.Proofs.Run.Numbered

/-!
# Duplicates file by file

The records of a run are the blocks of its files, with records of packages between them and the
records of the index document and of a single package behind them (`records_of_gather`).  Where the
relative paths of the files are distinct and without tildes, dropping duplicates from all records is
dropping them block by block (`generate_resolves_blocks`).
-/

namespace SourceDocs

open World Acting SourceDocs.Action

/-! ## The records of a file -/

namespace Extraction

variable {o : Origin} {w w' : World} {records : List DocRecord} {tree : Value}

theorem records_of_extract {y : Extractor}
    (h : (extract y o).runIn w = (.ok (some (records, tree)), w')) :
    ∃ v, (recordsOf y o tree).runIn v = (.ok records, w') := by
  rw [extract_eq] at h
  obtain ⟨_, w₁, -, h⟩ := exists_of_runIn_bind h
  obtain ⟨r, w₂, -, h⟩ := exists_of_runIn_bind h
  split at h
  · obtain ⟨_, w₃, -, h⟩ := exists_of_runIn_bind h
    cases h
  · cases h
  · split at h
    · cases h
    · obtain ⟨rs, w₃, hrecords, h⟩ := exists_of_runIn_bind h
      rw [runIn_pure] at h
      cases h
      exact ⟨w₂, hrecords⟩

/-- All records of a file have long names of the file. -/
theorem within_of_extract (h : (extract .symbols o).runIn w = (.ok (some (records, tree)), w')) :
    ∀ r ∈ records, r.toDraft.Within o.relativePath := by
  obtain ⟨v, hrecords⟩ := records_of_extract h
  have hexact := runIn_recordsOf_symbols o tree v
  cases hsymbols : symbolsOf o .hidden tree with
  | error f =>
    rw [hsymbols] at hexact
    obtain ⟨g, v', hfails⟩ := hexact
    rw [hrecords] at hfails
    cases hfails
  | ok ds =>
    rw [hsymbols] at hexact
    simp only [hrecords] at hexact
    cases hexact
    intro r hr
    obtain ⟨⟨d, i⟩, hd, rfl⟩ := List.mem_map.1 hr
    have hhidden : Scope.hidden.Below o.relativePath := fun owner howner => by cases howner
    exact symbolsOf_within hhidden hsymbols (List.fst_mem_of_mem_zipIdx hd)

end Extraction

namespace Run

variable {x : Context} {w w' : World} {c : Collected}

/-- The records that a run takes from a file in a world, if the file is chosen and can be read. -/
def recordsOfFile? (x : Context) (path : Path) (t : Text) (d : Option Descriptor) (w : World) :
    Option (List DocRecord) :=
  match x.matcher.accepts t, (packageOf x.package d).runIn w with
  | .ok true, (.ok package, v) =>
    match (Extraction.extract x.extractor (originOf path t package)).runIn v with
    | (.ok (some (records, _)), _) => some records
    | _ => none
  | _, _ => none

/-- What a run adds to its records for an event. -/
def piece? (x : Context) : Walk.Event × World → Option Piece
  | (.package d, w) => some (.single (packageRecord d w.nextId))
  | (.file path t d, w) => (recordsOfFile? x path t d w).map (.block t)

/-- The records collected so far are those of the events so far. -/
def Pieced (x : Context) (s : World × Collected × List (Walk.Event × World)) : Prop :=
  s.2.1.records = (s.2.2.filterMap (piece? x)).flatMap Piece.records

theorem Pieced.concat {s : World × Collected × List (Walk.Event × World)} (h : Pieced x s)
    {y : Walk.Event × World} {w' : World} {c' : Collected}
    (hrecords : c'.records = s.2.1.records ++ (piece? x y).toList.flatMap Piece.records) :
    Pieced x (w', c', s.2.2 ++ [y]) := by
  have hone : [y].filterMap (piece? x) = (piece? x y).toList := by
    cases hy : piece? x y <;> simp [hy]
  rw [Pieced, List.filterMap_append, List.flatMap_append, hone]
  exact hrecords.trans (congrArg (· ++ _) h)

/-- An event adds its own records. -/
theorem records_of_handle {e : Walk.Event} {c' : Collected}
    (hrun : (handle x e).runWith w c = (.ok (), w', c')) :
    c'.records = c.records ++ (piece? x (e, w)).toList.flatMap Piece.records := by
  cases e with
  | package d =>
    rw [runWith_handle_package] at hrun
    cases hrun
    rfl
  | file path t d =>
    rw [handle, runWith_handleFile] at hrun
    rw [piece?, recordsOfFile?]
    split at hrun
    case h_1 => cases hrun
    case h_2 hrefused =>
      cases hrun
      rw [hrefused]
      exact (List.append_nil _).symm
    case h_3 hchosen =>
      split at hrun
      case h_1 => cases hrun
      case h_2 package w₁ hpackage =>
        rw [hchosen, hpackage]
        simp only
        split at hrun
        case h_1 => cases hrun
        case h_2 w₂ hextract =>
          cases hrun
          rw [hextract]
          exact (List.append_nil _).symm
        case h_3 records tree w₂ hextract =>
          rw [hextract, (archive_keeps hrun).2.1]
          simp [Collected.parsed, Collected.saw, Collected.chose, Piece.records]

/-- The records of a run are those of what it has found, and the synthetic ones behind them. -/
theorem records_of_gather (hrun : (gather x).runIn w = (.ok c, w')) :
    ∃ synthetic v v', (syntheticRecords x.settings).runIn v = (.ok synthetic, v') ∧
      c.records =
        ((found x w).filterMap (piece? x) ++ synthetic.map Piece.single).flatMap Piece.records := by
  have hplain := related_noting (handle x) x.settings (walkStart x w, emptyCollected x, [])
    (walkStart x w, emptyCollected x) rfl trivial
  have hkeeps : Keeps (Pieced x) (fun _ => True) (walk x.settings (Walk.noting (handle x))) := by
    refine keeps_walk (fun _ _ h => h) (fun _ _ => trivial) (fun e s h => ?_) x.settings
    rw [Walk.outcome_noting, outcome_actionWith]
    rcases hstep : (handle x e).runWith s.1 s.2.1 with ⟨_ | _, w₁, c₁⟩
    · trivial
    · exact h.concat (records_of_handle hstep)
  have hpieced := hkeeps (walkStart x w, emptyCollected x, []) rfl
  have hfound : found x w = (outcome (walk x.settings (Walk.noting (handle x)))
    (walkStart x w, emptyCollected x, [])).2.2.2 := rfl
  rw [runIn_gather, runIn_collect] at hrun
  rw [outcome_actionWith (walk x.settings (handle x))] at hplain
  rcases hwalk : (walk x.settings (handle x)).runWith (walkStart x w) (emptyCollected x) with
    ⟨_ | _, w₁, c₁⟩
  · rw [hwalk] at hrun
    cases hrun
  · rw [hwalk] at hrun hplain
    rcases hnoted : outcome (walk x.settings (Walk.noting (handle x)))
      (walkStart x w, emptyCollected x, []) with ⟨_ | _, w₂, c₂, es⟩ <;>
      rw [hnoted] at hplain hpieced hfound <;> cases hplain
    rename_i hstate
    cases hstate
    simp only at hrun
    rcases hclosed : Archive.close.runWith w₂ c₂.archive with ⟨_ | n, w₃, a⟩
    · rw [hclosed] at hrun
      cases hrun
    · rw [hclosed] at hrun
      simp only at hrun
      rcases hsynthetic : (syntheticRecords x.settings).runIn
        { w₃ with log := .finished :: w₃.log } with ⟨_ | rs, w₄⟩
      · rw [hsynthetic] at hrun
        cases hrun
      · rw [hsynthetic] at hrun
        cases hrun
        refine ⟨rs, _, _, hsynthetic, ?_⟩
        have hrs : (rs.map Piece.single).flatMap Piece.records = rs := by
          rw [List.flatMap_map]
          exact List.flatMap_singleton' rs
        rw [List.flatMap_append, hrs, hfound]
        exact congrArg (· ++ rs) hpieced

/-! ## Proper pieces -/

theorem head?_toText {p : Path} (h : p.root = 1) :
    p.toText.head? = some (CodePoint.ofChar '/') := by
  obtain ⟨root, names⟩ := p
  obtain rfl : root = 1 := h
  rw [Path.toText_absolute, List.head?_cons]

/-- What is taken from an event that is found is in order. -/
theorem proper_of_isFound {mode : Walk.Mode} {root : Path} {y : Walk.Event × World} {p : Piece}
    (hsymbols : x.extractor = .symbols) (hy : IsFound mode root y.1) (hp : piece? x y = some p) :
    p.Proper := by
  obtain ⟨e, v⟩ := y
  cases e with
  | package d =>
    cases hp
    exact ⟨rfl, .inr (head?_toText hy.root)⟩
  | file path t d =>
    obtain ⟨records, hrecords, rfl⟩ := Option.map_eq_some_iff.1 hp
    obtain ⟨hreal, -, rfl⟩ := hy
    refine ⟨hreal.head?_relativeTo root, ?_⟩
    rw [recordsOfFile?] at hrecords
    split at hrecords
    · split at hrecords
      · cases hrecords
        rename_i hextract
        rw [hsymbols] at hextract
        exact Extraction.within_of_extract hextract
      · cases hrecords
    · cases hrecords

theorem resolve_of_runIn {p q : Path} {v v' : World}
    (h : (Files.resolve p).runIn v = (.ok q, v')) : v.resolve p = .ok q := by
  rw [Files.resolve, runIn_bind_ok (runIn_get v), runIn_ofFiles] at h
  cases hresolve : v.resolve p with
  | error f =>
    rw [hresolve] at h
    cases h
  | ok q' =>
    rw [hresolve] at h
    cases h
    rfl

/-- The record of a whole file has the long name of a real path or none. -/
theorem proper_fileRecord {kind : String} {name longname : Text} {payload : List (String × Value)}
    {v v' : World} {r : DocRecord}
    (hkind : (Text.ofString kind).isString "member" = false)
    (hname : longname = [] ∨ longname.head? = some (CodePoint.ofChar '/'))
    (h : (Synthetic.fileRecord kind name longname payload).runIn v = (.ok r, v')) :
    (Piece.single r).Proper := by
  rw [Synthetic.fileRecord, runIn_bind_ok (runIn_takeId v), runIn_pure] at h
  cases h
  exact ⟨hkind, hname⟩

theorem proper_indexRecord {p : Path} {shown : Option Text} {v v' : World} {r : DocRecord}
    (h : (Synthetic.indexRecord p shown).runIn v = (.ok (some r), v')) :
    (Piece.single r).Proper := by
  rw [Synthetic.indexRecord, runIn_attempt_bind] at h
  split at h
  · rw [runIn_bind_ok (runIn_report _ _), runIn_pure] at h
    cases h
  · cases h
  · obtain ⟨real, w₂, hreal, h⟩ := exists_of_runIn_bind h
    obtain ⟨record, w₃, hrecord, h⟩ := exists_of_runIn_bind h
    rw [runIn_pure] at h
    cases h
    have hroot := (World.resolve_shape (resolve_of_runIn hreal)).1
    exact proper_fileRecord (by decide +kernel) (.inr (head?_toText hroot)) hrecord

theorem proper_singlePackageRecord {p : Path} {v v' : World} {r : DocRecord}
    (h : (Synthetic.singlePackageRecord p).runIn v = (.ok r, v')) : (Piece.single r).Proper := by
  have hkind : (Text.ofString "legacy-package").isString "member" = false := by decide +kernel
  rw [Synthetic.singlePackageRecord, runIn_attempt_bind] at h
  split at h
  · rename_i content real hread
    have hroot : real.root = 1 := by
      rcases hrun : (Synthetic.textAndPath p).runIn v with ⟨ending, v₁⟩
      rw [hrun] at hread
      subst hread
      obtain ⟨_, v₂, -, hrun⟩ := exists_of_runIn_bind hrun
      obtain ⟨_, v₃, hreal, hrun⟩ := exists_of_runIn_bind hrun
      rw [runIn_pure] at hrun
      cases hrun
      exact (World.resolve_shape (resolve_of_runIn hreal)).1
    exact proper_fileRecord hkind (.inr (head?_toText hroot)) h
  · split at h
    · rw [runIn_bind_ok (runIn_report _ _)] at h
      exact proper_fileRecord hkind (.inl rfl) h
    · cases h
  · cases h

theorem proper_syntheticRecords {s : Settings} {v v' : World} {rs : List DocRecord}
    (h : (syntheticRecords s).runIn v = (.ok rs, v')) : ∀ r ∈ rs, (Piece.single r).Proper := by
  obtain ⟨as, v₁, has, h⟩ := exists_of_runIn_bind h
  obtain ⟨bs, v₂, hbs, h⟩ := exists_of_runIn_bind h
  rw [runIn_pure] at h
  cases h
  intro r hr
  rcases List.mem_append.1 hr with hr | hr
  · rw [indexRecords] at has
    split at has
    · cases has
      cases hr
    · rw [runIn_bind_ok (runIn_world v)] at has
      obtain ⟨index?, v₃, hindex, has⟩ := exists_of_runIn_bind has
      rw [runIn_pure] at has
      cases has
      obtain rfl := Option.mem_toList.1 hr
      exact proper_indexRecord hindex
  · rw [packageRecords] at hbs
    split at hbs
    · obtain ⟨package, v₃, hpackage, hbs⟩ := exists_of_runIn_bind hbs
      rw [runIn_pure] at hbs
      cases hbs
      obtain rfl := List.mem_singleton.1 hr
      exact proper_singlePackageRecord hpackage
    · cases hbs
      cases hr

/-- All pieces that a run collects from a tidy world are in order. -/
theorem proper_of_mem (hsymbols : x.extractor = .symbols) (hw : w.Tidy) (hx : x.Tidy) {p : Piece}
    (hp : p ∈ (found x w).filterMap (piece? x)) : p.Proper := by
  obtain ⟨y, hy, hpiece⟩ := List.mem_filterMap.1 hp
  cases hbegin : start? x.settings with
  | none =>
    have hthrow : walk x.settings (Walk.noting (handle x)) = throw (.config .noInput) := by
      unfold start? at hbegin
      unfold walk
      split at hbegin <;> cases hbegin
      simp only [*]
    rw [found, hthrow] at hy
    cases hy
  | some begin =>
    obtain ⟨mode, start⟩ := begin
    cases hroot : w.resolve start with
    | error f =>
      have hsame : (walkStart x w).resolve start = .error f := hroot
      rw [found, walk_of_start? hbegin, Walk.outcome_walk, hsame] at hy
      cases hy
    | ok root =>
      exact proper_of_isFound hsymbols (isFound_of_mem hw hx hbegin hroot y hy) hpiece

/-! ## Whole runs -/

theorem extractor_of_setUp {cs : Collaborators} {s : Settings} {ps : Plugins}
    (h : (setUp cs s).runIn w = (.ok (ps, x), w')) : x.extractor = cs.extractor := by
  obtain ⟨_, w₁, -, h⟩ := exists_of_runIn_bind h
  obtain ⟨_, w₂, -, h⟩ := exists_of_runIn_bind h
  obtain ⟨prepared, w₃, -, h⟩ := exists_of_runIn_bind h
  obtain ⟨y, w₄, hcontext, h⟩ := exists_of_runIn_bind h
  rw [runIn_pure] at h
  cases h
  obtain ⟨_, w₅, -, hcontext⟩ := exists_of_runIn_bind hcontext
  obtain ⟨_, w₆, -, hcontext⟩ := exists_of_runIn_bind hcontext
  obtain ⟨_, w₇, -, hcontext⟩ := exists_of_runIn_bind hcontext
  rw [runIn_pure] at hcontext
  cases hcontext
  rfl

/-- The records that a run collects are the blocks of its files, the records of its packages between
them, and the synthetic records behind them.  If the relative paths of the files are distinct and
without tildes, dropping duplicates from all records is dropping them from each block alone and
keeping all other records.  Whatever is put in place of the block of a file, is added as the block
of one more file, or is left out, the same is left of the other blocks. -/
theorem generate_resolves_blocks {cs : Collaborators} {s : Settings} {w w₁ w₂ : World}
    {ps : Plugins} {x : Context} {c : Collected} (hsymbols : cs.extractor = .symbols)
    (hsetUp : (setUp cs s).runIn w = (.ok (ps, x), w₁))
    (hgather : (gather x).runIn w₁ = (.ok c, w₂)) (hw : w₁.Tidy) (hx : x.Tidy)
    (hdistinct : Piece.Distinct ((found x w₁).filterMap (piece? x))) :
    ∃ synthetic pieces,
      (∃ v v', (syntheticRecords x.settings).runIn v = (.ok synthetic, v')) ∧
      pieces = (found x w₁).filterMap (piece? x) ++ synthetic.map Piece.single ∧
      c.records = pieces.flatMap Piece.records ∧
      (generate cs s).runIn w =
        (ps.handleDocs (resolveDuplicates c.records) >>= conclude ps x c.stats).runIn w₂ ∧
      resolveDuplicates c.records = pieces.flatMap Piece.resolved ∧
      ∀ before after path records,
        (pieces = before ++ after ∨ ∃ old, pieces = before ++ .block path old :: after) →
        (Piece.block path records).Proper →
        Piece.Distinct (before ++ .block path records :: after) →
        resolveDuplicates ((before ++ .block path records :: after).flatMap Piece.records) =
          before.flatMap Piece.resolved ++
            (resolveDuplicates records ++ after.flatMap Piece.resolved) := by
  obtain ⟨synthetic, v, v', hsynthetic, hrecords⟩ := records_of_gather hgather
  have hproper : ∀ p ∈ (found x w₁).filterMap (piece? x) ++ synthetic.map Piece.single,
      p.Proper := by
    intro p hp
    rcases List.mem_append.1 hp with hp | hp
    · exact proper_of_mem ((extractor_of_setUp hsetUp).trans hsymbols) hw hx hp
    · obtain ⟨r, hr, rfl⟩ := List.mem_map.1 hp
      exact proper_syntheticRecords hsynthetic r hr
  have hpaths : (synthetic.map Piece.single).filterMap Piece.path? = [] := by
    rw [List.filterMap_map]
    exact List.filterMap_eq_nil_iff.2 fun r _ => rfl
  have hall : Piece.Distinct
      ((found x w₁).filterMap (piece? x) ++ synthetic.map Piece.single) := by
    constructor <;> rw [List.filterMap_append, hpaths, List.append_nil]
    · exact hdistinct.nodup
    · exact hdistinct.tilde
  refine ⟨synthetic, _, ⟨v, v', hsynthetic⟩, rfl, hrecords, ?_, ?_, ?_⟩
  · rw [generate, runIn_bind_ok hsetUp, runIn_bind_ok hgather]
  · rw [hrecords]
    exact resolveDuplicates_pieces hproper hall
  · intro before after path records hpieces hblock hchanged
    refine resolveDuplicates_replaced (fun p hp => hproper p ?_) hblock hchanged
    rcases hpieces with hpieces | ⟨old, hpieces⟩ <;> rw [hpieces]
    · exact hp
    · rcases List.mem_append.1 hp with hp | hp
      · exact List.mem_append_left _ hp
      · exact List.mem_append_right _ (List.mem_cons_of_mem _ hp)

/-- A package with two files that can be read. -/
theorem generate_resolves_blocks_package :
    ∃ ps x w₁ c w₂, (setUp {} Sample.settings).runIn Sample.world = (.ok (ps, x), w₁) ∧
      (gather x).runIn w₁ = (.ok c, w₂) ∧ ((found x w₁).filterMap (piece? x)).length = 3 ∧
      ∃ pieces : List Piece, c.records = pieces.flatMap Piece.records ∧
        resolveDuplicates c.records = pieces.flatMap Piece.resolved := by
  have hrun : Sample.passes (fun y w₁ =>
        w₁.tree.isWellNamed && w₁.current.all Files.isName &&
        decide (Path.AreParts y.2.destination.names) &&
        ((start? y.2.settings).all fun start => decide (Path.AreParts start.2.names)) &&
        decide (((found y.2 w₁).filterMap (piece? y.2)).length = 3) &&
        decide (((found y.2 w₁).filterMap (piece? y.2)).filterMap Piece.path?).Nodup &&
        ((((found y.2 w₁).filterMap (piece? y.2)).filterMap Piece.path?).all
          fun t => decide (CodePoint.ofChar '~' ∉ t)) &&
        Sample.passes (fun _ _ => true) ((gather y.2).runIn w₁))
      ((setUp {} Sample.settings).runIn Sample.world) = true := by decide +kernel
  obtain ⟨⟨ps, x⟩, w₁, hsetUp, hrun⟩ := Sample.exists_of_passes hrun
  simp only [Bool.and_eq_true, decide_eq_true_eq, List.all_eq_true] at hrun
  obtain ⟨⟨⟨⟨⟨⟨⟨hnamed, hcurrent⟩, hdestination⟩, hstart⟩, hlength⟩, hnodup⟩, htilde⟩, hgather⟩ :=
    hrun
  obtain ⟨c, w₂, hgather, -⟩ := Sample.exists_of_passes hgather
  have hx : x.Tidy := by
    refine ⟨hdestination, fun mode start hbegin => ?_⟩
    rw [hbegin] at hstart
    exact of_decide_eq_true hstart
  obtain ⟨_, pieces, -, -, hrecords, -, hresolved, -⟩ :=
    generate_resolves_blocks rfl hsetUp hgather (.of_isWellNamed hnamed hcurrent) hx
      ⟨hnodup, htilde⟩
  exact ⟨ps, x, w₁, c, w₂, hsetUp, hgather, hlength, pieces, hrecords, hresolved⟩

end Run

end SourceDocs
