import SourceDocs.Proofs.Extraction.Longnames
import SourceDocs.Proofs.Record.Duplicates

/-!
# Duplicates in blocks of records

Members of one long name all come from one file, so duplicates can be dropped file by file.
`resolveDuplicates_append` says it of two lists that share no long name of a member, and
`resolveDuplicates_pieces` of all that a run collects: the blocks of files, and records between them
that are not taken from a file's symbols.
-/

namespace SourceDocs

/-! ## Lists that share no long name of a member -/

/-- The same object in a list that so many objects come before. -/
def Held.shift (k : Nat) (h : Held) : Held := ⟨h.identity + k, h.record⟩

theorem heldOf_append (records more : List DocRecord) :
    heldOf (records ++ more) = heldOf records ++ (heldOf more).map (Held.shift records.length) := by
  unfold heldOf
  rw [List.zipIdx_append, List.map_append, Nat.zero_add, List.map_map]
  congr 1
  rw [List.zipIdx_eq_map_add, List.map_map]
  refine List.map_congr_left fun (r, i) _ => ?_
  simp [Held.shift, Nat.add_comm]

theorem leastId_shift (k : Nat) (held : List Held) :
    leastId (held.map (Held.shift k)) = (leastId held).map (Held.shift k) := by
  induction held with
  | nil => rfl
  | cons h rest ih =>
    rw [List.map_cons, leastId, leastId, ih]
    cases leastId rest with
    | none => rfl
    | some l =>
      simp only [Option.map_some]
      split_ifs with hlt hlt' hlt' <;> first | rfl | exact absurd hlt hlt' | exact absurd hlt' hlt

theorem survives_shift (k : Nat) (held : List Held) (h : Held) :
    survives (held.map (Held.shift k)) (h.shift k) = survives held h := by
  have hsame : heldAt (h.shift k).record.longname (held.map (Held.shift k)) =
      (heldAt h.record.longname held).map (Held.shift k) := by
    rw [heldAt, List.filter_map]
    rfl
  have hidentity (l : Option Held) : ((l.map (Held.shift k)).map Held.identity =
      some (h.shift k).identity) = (l.map Held.identity = some h.identity) := by
    cases l <;> simp [Held.shift]
  simp only [survives, hsame, leastId_shift, List.all_map, hidentity]
  rfl

theorem surviving_shift (k : Nat) (held : List Held) :
    surviving (held.map (Held.shift k)) = (surviving held).map (Held.shift k) := by
  rw [surviving, surviving, List.filter_map]
  refine congrArg _ (List.filter_congr fun h _ => ?_)
  exact survives_shift k held h

/-- Whether an object stays depends only on those that share its long name. -/
theorem survives_congr {held all : List Held} {h : Held}
    (hsame : h.record.isMember = true →
      heldAt h.record.longname all = heldAt h.record.longname held) :
    survives all h = survives held h := by
  rw [survives, survives]
  split_ifs with hmember
  · rw [hsame hmember]
  · rfl

/-- No record of one list shares its long name with one of another list, if one of the two is a
member. -/
def ShareNoMember (records more : List DocRecord) : Prop :=
  ∀ r ∈ records, ∀ s ∈ more, r.longname = s.longname → r.isMember = false ∧ s.isMember = false

/-- Duplicates can be dropped from lists one by one if the lists share no long name of a member. -/
theorem resolveDuplicates_append {records more : List DocRecord} (h : ShareNoMember records more) :
    resolveDuplicates (records ++ more) = resolveDuplicates records ++ resolveDuplicates more := by
  have hmore : ((heldOf more).map (Held.shift records.length)).map Held.record = more := by
    rw [List.map_map]
    exact map_record_heldOf more
  have hmem {held : List Held} {o : Held} (ho : o ∈ held) : o.record ∈ held.map Held.record :=
    List.mem_map_of_mem ho
  have hleft : (heldOf records).filter
      (survives (heldOf records ++ (heldOf more).map (Held.shift records.length))) =
        surviving (heldOf records) := by
    refine List.filter_congr fun a ha => survives_congr fun hmember => ?_
    rw [heldAt, heldAt, List.filter_append, List.append_right_eq_self, List.filter_eq_nil_iff]
    intro b hb heq
    have ha' := hmem ha
    have hb' := hmem hb
    rw [map_record_heldOf] at ha'
    rw [hmore] at hb'
    have := (h _ ha' _ hb' (of_decide_eq_true heq).symm).1
    rw [hmember] at this
    cases this
  have hright : ((heldOf more).map (Held.shift records.length)).filter
      (survives (heldOf records ++ (heldOf more).map (Held.shift records.length))) =
        surviving ((heldOf more).map (Held.shift records.length)) := by
    refine List.filter_congr fun b hb => survives_congr fun hmember => ?_
    rw [heldAt, heldAt, List.filter_append, List.append_left_eq_self, List.filter_eq_nil_iff]
    intro a ha heq
    have ha' := hmem ha
    have hb' := hmem hb
    rw [map_record_heldOf] at ha'
    rw [hmore] at hb'
    have := (h _ ha' _ hb' (of_decide_eq_true heq)).2
    rw [hmember] at this
    cases this
  rw [resolveDuplicates_eq, resolveDuplicates_eq, resolveDuplicates_eq, heldOf_append, surviving,
    List.filter_append, hleft, hright, surviving_shift, List.map_append, List.map_map]
  rfl

theorem resolveDuplicates_singleton {r : DocRecord} (h : r.isMember = false) :
    resolveDuplicates [r] = [r] := by
  rw [resolveDuplicates_eq, surviving]
  simp [heldOf, survives, h]

/-! ## What a run collects -/

/-- What a run adds to its records at a time: the block of a file, or one record that is not taken
from the symbols of a file. -/
inductive Piece where
  | block (path : Text) (records : List DocRecord)
  | single (record : DocRecord)

namespace Piece

/-- The records of a piece. -/
def records : Piece → List DocRecord
  | .block _ records => records
  | .single r => [r]

/-- What is left of a piece if duplicates are dropped from it alone. -/
def resolved : Piece → List DocRecord
  | .block _ records => resolveDuplicates records
  | .single r => [r]

/-- The relative path of the file that a block is taken from. -/
def path? : Piece → Option Text
  | .block path _ => some path
  | .single _ => none

/-- The long names of a block are those of its file, whose path is relative.  A single record is no
member, and has the long name of an absolute path or none. -/
def Proper : Piece → Prop
  | .block path records =>
    path.head? ≠ some (CodePoint.ofChar '/') ∧ ∀ r ∈ records, r.toDraft.Within path
  | .single r => r.isMember = false ∧ (r.longname = [] ∨
      r.longname.head? = some (CodePoint.ofChar '/'))

theorem resolveDuplicates_records {p : Piece} (h : p.Proper) :
    resolveDuplicates p.records = p.resolved := by
  cases p with
  | block path records => rfl
  | single r => exact resolveDuplicates_singleton h.1

end Piece

/-- A text is cut at its first tilde in one way only. -/
theorem eq_of_tilde_start {s t u : Text} (hs : CodePoint.ofChar '~' ∉ s)
    (ht : CodePoint.ofChar '~' ∉ t) (h : s ++ Text.ofChar '~' <+: u)
    (h' : t ++ Text.ofChar '~' <+: u) : s = t := by
  have hcut {s : Text} (hs : CodePoint.ofChar '~' ∉ s) (h : s ++ Text.ofChar '~' <+: u) :
      u.takeWhile (fun c => c ≠ CodePoint.ofChar '~') = s := by
    obtain ⟨rest, rfl⟩ := h
    rw [List.append_assoc, List.takeWhile_append_of_pos, Text.ofChar, List.singleton_append,
      List.takeWhile_cons_of_neg (by simp), List.append_nil]
    intro c hc
    exact decide_eq_true fun heq => hs (heq ▸ hc)
  exact (hcut hs h).symm.trans (hcut ht h')

/-- Records of two files never share a long name. -/
theorem longname_ne_of_within {s t : Text} {d e : Draft} (hs : CodePoint.ofChar '~' ∉ s)
    (ht : CodePoint.ofChar '~' ∉ t) (hne : s ≠ t) (hd : d.Within s) (he : e.Within t) :
    d.longname ≠ e.longname := by
  have htilde {u v : Text} (h : u ++ Text.ofChar '~' <+: v) : CodePoint.ofChar '~' ∈ v :=
    h.subset (List.mem_append_right _ (List.mem_singleton_self _))
  intro heq
  rcases hd with ⟨hd, -⟩ | hd <;> rcases he with ⟨he, -⟩ | he
  · exact hne (hd.symm.trans (heq.trans he))
  · exact hs (hd ▸ htilde (heq ▸ he))
  · exact ht (he ▸ htilde (heq ▸ hd))
  · exact hne (eq_of_tilde_start hs ht (heq ▸ hd) he)

/-- A record of a file that shares its long name with one of an absolute path is no member. -/
theorem not_member_of_within {s : Text} {d : Draft} {t : Text}
    (hs : s.head? ≠ some (CodePoint.ofChar '/')) (hd : d.Within s)
    (ht : t = [] ∨ t.head? = some (CodePoint.ofChar '/')) (heq : d.longname = t) :
    d.isMember = false := by
  rcases hd with ⟨-, hmember⟩ | ⟨rest, hd⟩
  · exact hmember
  · rw [heq, List.append_assoc] at hd
    rcases ht with rfl | ht
    · cases s <;> cases hd
    · rw [← hd] at ht
      cases s with
      | nil =>
        have hne : CodePoint.ofChar '~' ≠ CodePoint.ofChar '/' := by decide +kernel
        exact absurd (Option.some.inj ht) hne
      | cons c more => exact absurd ht hs

namespace Piece

/-- No tilde is in the paths of the files, which are all different. -/
structure Distinct (pieces : List Piece) : Prop where
  nodup : (pieces.filterMap path?).Nodup
  tilde : ∀ t ∈ pieces.filterMap path?, CodePoint.ofChar '~' ∉ t

theorem Distinct.tail {p : Piece} {rest : List Piece} (h : Distinct (p :: rest)) :
    Distinct rest := by
  have hsub : (rest.filterMap path?).Sublist ((p :: rest).filterMap path?) :=
    (List.sublist_cons_self p rest).filterMap path?
  exact ⟨h.nodup.sublist hsub, fun t ht => h.tilde t (hsub.subset ht)⟩

theorem Distinct.ne {path : Text} {records : List DocRecord} {rest : List Piece}
    (h : Distinct (.block path records :: rest)) {path' : Text} {records' : List DocRecord}
    (hmem : .block path' records' ∈ rest) : path ≠ path' := by
  have hnodup := h.nodup
  rw [List.filterMap_cons_some (rfl : path? (.block path records) = some path),
    List.nodup_cons] at hnodup
  rintro rfl
  exact hnodup.1 (List.mem_filterMap.2 ⟨_, hmem, rfl⟩)

/-- A piece shares no long name of a member with those behind it. -/
theorem apart {p : Piece} {rest : List Piece} (hproper : ∀ q ∈ p :: rest, q.Proper)
    (h : Distinct (p :: rest)) : ShareNoMember p.records (rest.flatMap records) := by
  intro r hr s hs heq
  obtain ⟨q, hq, hs⟩ := List.mem_flatMap.1 hs
  have hp := hproper p List.mem_cons_self
  have hq' := hproper q (List.mem_cons_of_mem _ hq)
  have htilde {path : Text} {records : List DocRecord} (hmem : .block path records ∈ p :: rest) :
      CodePoint.ofChar '~' ∉ path := h.tilde path (List.mem_filterMap.2 ⟨_, hmem, rfl⟩)
  cases p with
  | block path records =>
    cases q with
    | block path' records' =>
      exact absurd heq (longname_ne_of_within (htilde List.mem_cons_self)
        (htilde (List.mem_cons_of_mem _ hq)) (h.ne hq) (hp.2 r hr) (hq'.2 s hs))
    | single s' =>
      obtain rfl := List.mem_singleton.1 hs
      exact ⟨not_member_of_within hp.1 (hp.2 r hr) (heq ▸ hq'.2) rfl, hq'.1⟩
  | single r' =>
    obtain rfl := List.mem_singleton.1 hr
    refine ⟨hp.1, ?_⟩
    cases q with
    | block path records => exact not_member_of_within hq'.1 (hq'.2 s hs) (heq ▸ hp.2) rfl
    | single s' =>
      obtain rfl := List.mem_singleton.1 hs
      exact hq'.1

end Piece

/-- Duplicates are dropped block by block. -/
theorem resolveDuplicates_pieces {pieces : List Piece} (hproper : ∀ p ∈ pieces, p.Proper)
    (h : Piece.Distinct pieces) :
    resolveDuplicates (pieces.flatMap Piece.records) = pieces.flatMap Piece.resolved := by
  induction pieces with
  | nil => rfl
  | cons p rest ih =>
    rw [List.flatMap_cons, List.flatMap_cons, resolveDuplicates_append (Piece.apart hproper h),
      Piece.resolveDuplicates_records (hproper p List.mem_cons_self),
      ih (fun q hq => hproper q (List.mem_cons_of_mem _ hq)) h.tail]

/-- What a block of records of one file is, makes no difference to what is left of the others. -/
theorem resolveDuplicates_replaced {before after : List Piece} {path : Text}
    {records : List DocRecord} (hproper : ∀ p ∈ before ++ after, p.Proper)
    (hblock : (Piece.block path records).Proper)
    (h : Piece.Distinct (before ++ .block path records :: after)) :
    resolveDuplicates ((before ++ .block path records :: after).flatMap Piece.records) =
      before.flatMap Piece.resolved ++
        (resolveDuplicates records ++ after.flatMap Piece.resolved) := by
  have hall : ∀ p ∈ before ++ .block path records :: after, p.Proper := by
    intro p hp
    rcases List.mem_append.1 hp with hp | hp
    · exact hproper p (List.mem_append_left _ hp)
    · rcases List.mem_cons.1 hp with rfl | hp
      · exact hblock
      · exact hproper p (List.mem_append_right _ hp)
  rw [resolveDuplicates_pieces hall h, List.flatMap_append, List.flatMap_cons]
  rfl

end SourceDocs
