import SourceDocs.Proofs.Record.Duplicates
import SourceDocs.Proofs.Run.Handling
import SourceDocs.Proofs.Run.Sample

/-!
# The numbers of records

Numbers are drawn at several places of a run and the records are put together at others.  The main
result, `generate_numbered`, is that a run that gets past collecting has numbered its records from
one on in the order of their list, so that the plugins get records in the order of their numbers,
and of duplicate members the first one.
-/

namespace SourceDocs.Run

open World Acting SourceDocs.Action

/-! ## Numbers in a row -/

/-- So many numbers from `n` on. -/
def idsFrom (n : Int) (k : Nat) : List Int := (List.range k).map fun (i : Nat) => n + i

theorem idsFrom_succ (n : Int) (k : Nat) : idsFrom n (k + 1) = n :: idsFrom (n + 1) k := by
  simp only [idsFrom, List.range_succ_eq_map, List.map_cons, List.map_map, Int.natCast_zero,
    Int.add_zero, List.cons.injEq, true_and]
  refine List.map_congr_left fun i _ => ?_
  simp only [Function.comp_apply, Nat.succ_eq_add_one]
  omega

theorem idsFrom_add (n : Int) (j k : Nat) :
    idsFrom n (j + k) = idsFrom n j ++ idsFrom (n + j) k := by
  induction j generalizing n with
  | zero => simp [idsFrom]
  | succ j ih =>
    have hsum : j + 1 + k = j + k + 1 := by omega
    have hnext : n + ((j + 1 : Nat) : Int) = n + 1 + j := by omega
    rw [hsum, idsFrom_succ, idsFrom_succ, ih, hnext, List.cons_append]

theorem pairwise_idsFrom (n : Int) (k : Nat) : (idsFrom n k).Pairwise (· < ·) := by
  refine List.pairwise_map.2 (List.pairwise_lt_range.imp fun h => ?_)
  omega

theorem map_docId_numberDrafts (n : Int) (drafts : List Draft) :
    (numberDrafts n drafts).map DocRecord.docId = idsFrom n drafts.length := by
  induction drafts generalizing n with
  | nil => rfl
  | cons d rest ih => rw [numberDrafts_cons, List.map_cons, ih, List.length_cons, idsFrom_succ]

/-! ## Where numbers are drawn -/

/-- The action draws a number for each record that it returns, in order. -/
def Numbers (x : Action (List DocRecord)) : Prop :=
  ∀ w rs w', x.runIn w = (.ok rs, w') →
    rs.map DocRecord.docId = idsFrom w.nextId rs.length ∧ w'.nextId = w.nextId + rs.length

theorem Numbers.nil : Numbers (pure []) := by
  intro w rs w' h
  rw [runIn_pure] at h
  cases h
  simp [idsFrom]

theorem Numbers.append {x y : Action (List DocRecord)} (hx : Numbers x) (hy : Numbers y) :
    Numbers (do return (← x) ++ (← y)) := by
  intro w rs w' h
  obtain ⟨as, w₁, has, h⟩ := exists_of_runIn_bind h
  obtain ⟨bs, w₂, hbs, h⟩ := exists_of_runIn_bind h
  rw [runIn_pure] at h
  cases h
  obtain ⟨hids, hnext⟩ := hx w as w₁ has
  obtain ⟨hids', hnext'⟩ := hy w₁ bs _ hbs
  rw [List.map_append, List.length_append, idsFrom_add, hids, hids', hnext]
  refine ⟨rfl, ?_⟩
  omega

theorem Numbers.world {f : World → Action (List DocRecord)} (h : ∀ w, Numbers (f w)) :
    Numbers (Action.world >>= f) := by
  intro w rs w' hrun
  rw [runIn_bind_ok (runIn_world w)] at hrun
  exact h w w rs w' hrun

theorem numbers_fileRecord {kind : String} {name longname : Text} {payload : List (String × Value)}
    {w w' : World} {r : DocRecord}
    (h : (Synthetic.fileRecord kind name longname payload).runIn w = (.ok r, w')) :
    r.docId = w.nextId ∧ w'.nextId = w.nextId + 1 := by
  rw [Synthetic.fileRecord, runIn_bind_ok (runIn_takeId w), runIn_pure] at h
  cases h
  exact ⟨rfl, rfl⟩

theorem Numbers.one {x : Action DocRecord}
    (h : ∀ w r w', x.runIn w = (.ok r, w') → r.docId = w.nextId ∧ w'.nextId = w.nextId + 1) :
    Numbers (do return [← x]) := by
  intro w rs w' hrun
  obtain ⟨r, w₁, hr, hrun⟩ := exists_of_runIn_bind hrun
  rw [runIn_pure] at hrun
  cases hrun
  obtain ⟨hid, hnext⟩ := h w r _ hr
  simpa [idsFrom, hid] using hnext

/-- The index document has at most one record. -/
theorem numbers_indexRecord (p : Path) (shown : Option Text) :
    Numbers (do return (← Synthetic.indexRecord p shown).toList) := by
  intro w rs w' h
  obtain ⟨r, w₁, hr, h⟩ := exists_of_runIn_bind h
  rw [runIn_pure] at h
  cases h
  rw [Synthetic.indexRecord, runIn_attempt_bind] at hr
  have hread := (Looks.readText p).within w
  rw [outcome_action] at hread
  split at hr
  · rw [runIn_bind_ok (runIn_report _ _), runIn_pure] at hr
    cases hr
    simpa [idsFrom] using hread.nextId_eq
  · cases hr
  · obtain ⟨real, w₂, hreal, hr⟩ := exists_of_runIn_bind hr
    obtain ⟨record, w₃, hrecord, hr⟩ := exists_of_runIn_bind hr
    rw [runIn_pure] at hr
    cases hr
    have hbefore := (hread.trans ((Looks.resolve p).sameButLog hreal)).nextId_eq
    obtain ⟨hid, hnext⟩ := numbers_fileRecord hrecord
    rw [hbefore] at hid hnext
    simpa [idsFrom, hid] using hnext

theorem numbers_singlePackageRecord (p : Path) :
    Numbers (do return [← Synthetic.singlePackageRecord p]) := by
  refine Numbers.one fun w r w' h => ?_
  have hlooks : Looks (Synthetic.textAndPath p) :=
    (Looks.readText p).bind fun _ => (Looks.resolve p).bind fun _ => Looks.pure _
  rw [Synthetic.singlePackageRecord, runIn_attempt_bind] at h
  have hread := hlooks.within w
  rw [outcome_action] at hread
  split at h
  · exact hread.nextId_eq ▸ numbers_fileRecord h
  · split at h
    · rw [runIn_bind_ok (runIn_report _ _)] at h
      obtain ⟨hid, hnext⟩ := numbers_fileRecord h
      exact ⟨hid.trans hread.nextId_eq, hnext.trans (congrArg (· + 1) hread.nextId_eq)⟩
    · cases h
  · cases h

theorem numbers_syntheticRecords (s : Settings) : Numbers (syntheticRecords s) := by
  refine Numbers.append ?_ ?_
  · unfold indexRecords
    split
    · exact Numbers.nil
    · exact Numbers.world fun w => numbers_indexRecord _ _
  · unfold packageRecords
    split
    · exact numbers_singlePackageRecord _
    · exact Numbers.nil

/-! ## Numbers of a whole run -/

/-- The records collected so far have the numbers from one on, and the next number follows. -/
structure Numbered (s : World × Collected) : Prop where
  ids : s.2.records.map DocRecord.docId = idsFrom 1 s.2.records.length
  next : s.1.nextId = 1 + s.2.records.length

variable {x : Context} {w w' : World} {c c' : Collected}

theorem Numbered.of_same (h : Numbered (w, c)) (hrecords : c'.records = c.records)
    (hnext : w'.nextId = w.nextId) : Numbered (w', c') := by
  constructor
  · exact hrecords ▸ h.ids
  · exact (hnext.trans h.next).trans (by rw [hrecords])

theorem Numbered.append (h : Numbered (w, c)) (rs : List DocRecord)
    (hids : rs.map DocRecord.docId = idsFrom w.nextId rs.length)
    (hrecords : c'.records = c.records ++ rs) (hnext : w'.nextId = w.nextId + rs.length) :
    Numbered (w', c') := by
  have hold : w.nextId = 1 + c.records.length := h.next
  constructor
  · have hids' : rs.map DocRecord.docId = idsFrom (1 + c.records.length) rs.length := by
      rw [hids, hold]
    show c'.records.map DocRecord.docId = idsFrom 1 c'.records.length
    rw [hrecords, List.map_append, List.length_append, idsFrom_add, h.ids, hids']
  · show w'.nextId = 1 + c'.records.length
    rw [hnext, hold, hrecords, List.length_append]
    omega

/-- What is done with an event keeps the records numbered. -/
theorem Numbered.handle (h : Numbered (w, c)) {e : Walk.Event} {u : Unit}
    (hrun : (Run.handle x e).runWith w c = (.ok u, w', c')) : Numbered (w', c') := by
  cases e with
  | package d =>
    rw [runWith_handle_package] at hrun
    cases hrun
    exact h.append [packageRecord d w.nextId] (by simp [packageRecord, idsFrom]) rfl rfl
  | file path t d =>
    rw [Run.handle, runWith_handleFile] at hrun
    split at hrun
    case h_1 => cases hrun
    case h_2 =>
      cases hrun
      exact h.of_same rfl rfl
    case h_3 =>
      split at hrun
      case h_1 => cases hrun
      case h_2 package w₁ hpackage =>
        have hw₁ := (looks_packageOf _ _).sameButLog hpackage
        split at hrun
        case h_1 => cases hrun
        case h_2 w₂ hextract =>
          cases hrun
          rcases extract_ok hextract with ⟨-, hw₂, -⟩ | ⟨tree, drafts, hr, -⟩
          · exact h.of_same rfl (hw₁.trans hw₂).nextId_eq
          · cases hr
        case h_3 records tree w₂ hextract =>
          obtain ⟨hfiles, hrecords, -⟩ := archive_keeps hrun
          rcases extract_ok hextract with ⟨hr, -⟩ | ⟨_, drafts, hr, -, hw₂⟩
          · cases hr
          · cases hr
            refine h.append (numberDrafts w₁.nextId drafts) ?_ hrecords ?_
            · rw [map_docId_numberDrafts, hw₁.nextId_eq, numberDrafts, List.length_map,
                List.length_zipIdx]
            · rw [hfiles.nextId_eq, hw₂, hw₁.nextId_eq, numberDrafts, List.length_map,
                List.length_zipIdx]

theorem Numbered.collect (hrun : (Run.collect x (emptyCollected x)).runIn w = (.ok c, w'))
    (hid : w.nextId = 1) : Numbered (w', c) := by
  have hkeeps : Keeps Numbered (fun _ => True) (walk x.settings (Run.handle x)) := by
    refine keeps_walk (I := Numbered) (fun s es h => h.of_same rfl rfl) (fun _ _ => trivial)
      (fun e s h => ?_) x.settings
    rw [outcome_actionWith]
    rcases hrun : (Run.handle x e).runWith s.1 s.2 with ⟨_ | _, w', c'⟩
    · trivial
    · exact h.handle hrun
  have hwalk := hkeeps (w, emptyCollected x) ⟨rfl, hid⟩
  rw [outcome_actionWith] at hwalk
  rw [runIn_collect] at hrun
  split at hrun
  case h_1 => cases hrun
  case h_2 w₁ c₁ heq =>
    rw [heq] at hwalk
    have hclose := close_sameButLog w₁ c₁.archive
    split at hrun
    case h_1 => cases hrun
    case h_2 n w₂ a hclosed =>
      rw [hclosed] at hclose
      cases hrun
      exact hwalk.of_same rfl hclose.nextId_eq

/-- A run that gets past collecting has numbered its records from one on. -/
theorem Numbered.gather (hrun : (Run.gather x).runIn w = (.ok c, w')) : Numbered (w', c) := by
  rw [runIn_gather] at hrun
  split at hrun
  case h_1 => cases hrun
  case h_2 c₁ w₁ hcollect =>
    have h₁ := Numbered.collect hcollect rfl
    split at hrun
    case h_1 => cases hrun
    case h_2 rs w₂ hsynthetic =>
      cases hrun
      obtain ⟨hids, hnext⟩ := numbers_syntheticRecords x.settings _ rs _ hsynthetic
      exact h₁.append rs hids rfl hnext

/-- A run that gets past collecting hands the plugins what is left of its records when duplicates
are dropped.  The records are numbered from one on in the order of their list, so those that the
plugins get are in the order of their numbers, and what they get of the records of one long name is
the first of them if all are members, and otherwise those that are no members. -/
theorem generate_numbered {cs : Collaborators} {s : Settings} {w w₁ w₂ : World} {ps : Plugins}
    {x : Context} {c : Collected} (hsetUp : (setUp cs s).runIn w = (.ok (ps, x), w₁))
    (hgather : (Run.gather x).runIn w₁ = (.ok c, w₂)) :
    c.records.map DocRecord.docId = idsFrom 1 c.records.length ∧
    (generate cs s).runIn w =
      (ps.handleDocs (resolveDuplicates c.records) >>= conclude ps x c.stats).runIn w₂ ∧
    Ascending (resolveDuplicates c.records) ∧
    ∀ longname, sharing longname (resolveDuplicates c.records) =
      if (sharing longname c.records).all DocRecord.isMember then
        (sharing longname c.records).take 1
      else (sharing longname c.records).filter fun r => !r.isMember := by
  have hids := (Numbered.gather hgather).ids
  have hascending : Ascending c.records := by
    refine List.pairwise_map.1 ?_
    rw [hids]
    exact pairwise_idsFrom 1 _
  refine ⟨hids, ?_, hascending.sublist (resolveDuplicates_sublist _),
    filter_resolveDuplicates hascending⟩
  rw [generate, runIn_bind_ok hsetUp, runIn_bind_ok hgather]

/-- A package, two sources around one that is skipped, and an index document. -/
theorem generate_numbered_package :
    ∃ ps x w₁ c w₂, (setUp {} Sample.settings).runIn Sample.world = (.ok (ps, x), w₁) ∧
      (Run.gather x).runIn w₁ = (.ok c, w₂) ∧ c.records.map DocRecord.docId = [1, 2, 3, 4] ∧
      Ascending (resolveDuplicates c.records) := by
  have hrun : Sample.passes (fun y w₁ =>
        Sample.passes (fun c _ => c.records.length = 4) ((Run.gather y.2).runIn w₁))
      ((setUp {} Sample.settings).runIn Sample.world) = true := by decide +kernel
  obtain ⟨⟨ps, x⟩, w₁, hsetUp, hrun⟩ := Sample.exists_of_passes hrun
  obtain ⟨c, w₂, hgather, hlength⟩ := Sample.exists_of_passes hrun
  obtain ⟨hids, -, hascending, -⟩ := generate_numbered hsetUp hgather
  rw [of_decide_eq_true hlength] at hids
  exact ⟨ps, x, w₁, c, w₂, hsetUp, hgather, hids, hascending⟩

end SourceDocs.Run
