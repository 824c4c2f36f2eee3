import SourceDocs.Proofs.Record.Duplicates

/-!
# The records that survive

Positions in a list decide between members of one long name and one number.  `Stays` says of the
record at a position whether it survives, and `resolveDuplicates_keeps` that dropping duplicates
leaves the records that stay, with what follows from it: one member at most for each long name, no
long name lost, nothing more to drop the second time, and no difference made by the order if the
numbers are distinct.
-/

namespace SourceDocs

/-- The number of a record and its position, in the order in which one decides before the other. -/
def rank (p : DocRecord × Nat) : Lex (Int × Nat) := toLex (p.1.docId, p.2)

/-- The record at a position stays among others: it is no member, or only members have its long name
and it is the least of them by number and position. -/
def Stays (records : List DocRecord) (p : DocRecord × Nat) : Prop :=
  ¬ p.1.isMember ∨
    (∀ r ∈ records, r.longname = p.1.longname → r.isMember) ∧
      ∀ q ∈ records.zipIdx, q.1.isMember → q.1.longname = p.1.longname → rank p ≤ rank q

instance (records : List DocRecord) (p : DocRecord × Nat) : Decidable (Stays records p) :=
  inferInstanceAs (Decidable (_ ∨ _ ∧ _))

/-- The number of an object and its identity. -/
def Held.rank (h : Held) : Lex (Int × Nat) := SourceDocs.rank (h.record, h.identity)

/-- Objects in the order of their identities, no identity twice. -/
def InOrder (held : List Held) : Prop := held.Pairwise fun a b => a.identity < b.identity

theorem inOrder_heldOf (records : List DocRecord) : InOrder (heldOf records) := by
  have hrange : ((heldOf records).map Held.identity).Pairwise (· < ·) := by
    unfold heldOf
    rw [List.map_map, show Held.identity ∘ (fun p : DocRecord × Nat => Held.mk p.2 p.1) = Prod.snd
      from rfl, List.zipIdx_map_snd]
    exact List.pairwise_lt_range'
  exact List.pairwise_map.1 hrange

/-- The object with the least number, of several the first, has the least rank. -/
theorem leastId_spec {held : List Held} (h : InOrder held) (hne : held ≠ []) :
    ∃ l ∈ held, leastId held = some l ∧ ∀ o ∈ held, l.rank ≤ o.rank := by
  induction held with
  | nil => exact absurd rfl hne
  | cons a rest ih =>
    obtain ⟨hfirst, hrest⟩ := List.pairwise_cons.1 h
    rcases eq_or_ne rest [] with rfl | hne'
    · exact ⟨a, List.mem_singleton_self a, rfl, fun o ho => by rw [List.mem_singleton.1 ho]⟩
    · obtain ⟨l, hl, heq, hleast⟩ := ih hrest hne'
      have hidentity := hfirst l hl
      rw [leastId, heq]
      by_cases hlt : l.record.docId < a.record.docId
      · refine ⟨l, List.mem_cons_of_mem _ hl, if_pos hlt, fun o ho => ?_⟩
        rcases List.mem_cons.1 ho with rfl | ho
        · exact Prod.Lex.toLex_le_toLex.2 (.inl hlt)
        · exact hleast o ho
      · refine ⟨a, List.mem_cons_self, if_neg hlt, fun o ho => ?_⟩
        rcases List.mem_cons.1 ho with rfl | ho
        · exact le_rfl
        · refine le_trans (Prod.Lex.toLex_le_toLex.2 ?_) (hleast o ho)
          rcases lt_or_eq_of_le (not_lt.1 hlt) with hlt' | heq'
          · exact .inl hlt'
          · exact .inr ⟨heq', Nat.le_of_lt hidentity⟩

theorem InOrder.eq_of_identity {held : List Held} (h : InOrder held) {a b : Held} (ha : a ∈ held)
    (hb : b ∈ held) (hidentity : a.identity = b.identity) : a = b := by
  have hnodup : (held.map Held.identity).Nodup :=
    List.pairwise_map.2 (h.imp fun hlt => Nat.ne_of_lt hlt)
  exact List.inj_on_of_nodup_map hnodup ha hb hidentity

theorem InOrder.heldAt {held : List Held} (h : InOrder held) (longname : Text) :
    InOrder (heldAt longname held) := h.sublist List.filter_sublist

theorem mem_zipIdx_iff {records : List DocRecord} {p : DocRecord × Nat} :
    p ∈ records.zipIdx ↔ Held.mk p.2 p.1 ∈ heldOf records := by
  unfold heldOf
  rw [List.mem_map]
  constructor
  · exact fun hp => ⟨p, hp, rfl⟩
  · rintro ⟨q, hq, heq⟩
    have hpq : q = p := Prod.ext (congrArg Held.record heq) (congrArg Held.identity heq)
    exact hpq ▸ hq

theorem all_heldAt {records : List DocRecord} {longname : Text} :
    ((heldAt longname (heldOf records)).all fun o => o.record.isMember) = true ↔
      ∀ r ∈ records, r.longname = longname → r.isMember = true := by
  conv_rhs => rw [← map_record_heldOf records]
  simp only [heldAt, List.all_eq_true, List.mem_filter, decide_eq_true_eq, List.forall_mem_map,
    and_imp]

/-- What survives among objects is what stays at its position. -/
theorem survives_iff_stays {records : List DocRecord} {p : DocRecord × Nat}
    (hp : p ∈ records.zipIdx) :
    survives (heldOf records) ⟨p.2, p.1⟩ = true ↔ Stays records p := by
  have hinOrder := inOrder_heldOf records
  have hmem := mem_zipIdx_iff.1 hp
  have hsame {o : Held} : o ∈ heldAt p.1.longname (heldOf records) ↔
      o ∈ heldOf records ∧ o.record.longname = p.1.longname := by
    rw [heldAt, List.mem_filter, decide_eq_true_eq]
  have hmine : Held.mk p.2 p.1 ∈ heldAt p.1.longname (heldOf records) := hsame.2 ⟨hmem, rfl⟩
  obtain ⟨l, hl, hleast, hrank⟩ := leastId_spec (hinOrder.heldAt _) (List.ne_nil_of_mem hmine)
  rw [survives, Stays]
  cases hmember : p.1.isMember with
  | false => simp
  | true =>
    simp only [not_true_eq_false, false_or, if_true, Bool.and_eq_true, decide_eq_true_eq,
      all_heldAt]
    rw [hleast, Option.map_some, Option.some_inj]
    refine and_congr_right fun hall => ⟨fun hidentity q hq _ hname => ?_, fun hstays => ?_⟩
    · -- The least object is the one at the position.
      obtain rfl : l = ⟨p.2, p.1⟩ := hinOrder.eq_of_identity (hsame.1 hl).1 hmem hidentity
      exact hrank _ (hsame.2 ⟨mem_zipIdx_iff.1 hq, hname⟩)
    · obtain ⟨hlmem, hlname⟩ := hsame.1 hl
      have hlmember : l.record.isMember = true := hall _ (by
        rw [← map_record_heldOf records]
        exact List.mem_map_of_mem hlmem) hlname
      have hle := hstays (l.record, l.identity) (mem_zipIdx_iff.2 hlmem) hlmember hlname
      exact congrArg (fun r => (ofLex r).2) (le_antisymm (hrank _ hmine) hle)

theorem resolveDuplicates_eq_filter (records : List DocRecord) :
    resolveDuplicates records =
      (records.zipIdx.filter fun p => Stays records p).map Prod.fst := by
  rw [resolveDuplicates_eq, surviving]
  conv_lhs => rw [show heldOf records = records.zipIdx.map fun p => Held.mk p.2 p.1 from rfl]
  rw [List.filter_map, List.map_map]
  refine congrArg _ (List.filter_congr fun p hp => ?_)
  rw [Bool.eq_iff_iff, decide_eq_true_eq]
  exact survives_iff_stays hp

/-! ## What follows -/

theorem zipIdx_sorted (records : List DocRecord) :
    records.zipIdx.Pairwise fun p q => p.2 < q.2 := by
  refine List.pairwise_map.1 ?_
  rw [List.zipIdx_map_snd]
  exact List.pairwise_lt_range'

theorem exists_position {records : List DocRecord} {r : DocRecord} (hr : r ∈ records) :
    ∃ i, (r, i) ∈ records.zipIdx := by
  obtain ⟨i, hi⟩ := List.mem_iff_getElem?.1 hr
  exact ⟨i, List.mem_zipIdx_iff_getElem?.2 hi⟩

theorem exists_of_mem_resolveDuplicates {records : List DocRecord} {r : DocRecord} :
    r ∈ resolveDuplicates records ↔ ∃ i, (r, i) ∈ records.zipIdx ∧ Stays records (r, i) := by
  rw [resolveDuplicates_eq_filter]
  simp [List.mem_filter]

/-- Two members of one long name that stay stand at the same position. -/
theorem Stays.eq {records : List DocRecord} {p q : DocRecord × Nat} (hp : p ∈ records.zipIdx)
    (hq : q ∈ records.zipIdx) (hpstays : Stays records p) (hqstays : Stays records q)
    (hpmember : p.1.isMember) (hqmember : q.1.isMember) (hname : p.1.longname = q.1.longname) :
    p.2 = q.2 := by
  have hpq := (hpstays.resolve_left (not_not_intro hpmember)).2 q hq hqmember hname.symm
  have hqp := (hqstays.resolve_left (not_not_intro hqmember)).2 p hp hpmember hname
  exact congrArg (fun r => (ofLex r).2) (le_antisymm hpq hqp)

/-- No two of the members that are left have one long name. -/
theorem pairwise_members (records : List DocRecord) :
    (resolveDuplicates records).Pairwise fun r s =>
      r.isMember → s.isMember → r.longname ≠ s.longname := by
  rw [resolveDuplicates_eq_filter, List.pairwise_map]
  refine ((zipIdx_sorted records).sublist List.filter_sublist).imp_of_mem ?_
  intro p q hp hq hlt hpmember hqmember hname
  obtain ⟨hp, hpstays⟩ := List.mem_filter.1 hp
  obtain ⟨hq, hqstays⟩ := List.mem_filter.1 hq
  have heq := Stays.eq hp hq (of_decide_eq_true hpstays) (of_decide_eq_true hqstays) hpmember
    hqmember hname
  omega

/-- So one position at most holds a member of a long name. -/
theorem eq_of_members {records : List DocRecord} {p q : DocRecord × Nat}
    (hp : p ∈ (resolveDuplicates records).zipIdx) (hq : q ∈ (resolveDuplicates records).zipIdx)
    (hpmember : p.1.isMember) (hqmember : q.1.isMember) (hname : p.1.longname = q.1.longname) :
    p = q := by
  obtain ⟨hip, hpget⟩ := List.getElem?_eq_some_iff.1 (List.mem_zipIdx_iff_getElem?.1 hp)
  obtain ⟨hiq, hqget⟩ := List.getElem?_eq_some_iff.1 (List.mem_zipIdx_iff_getElem?.1 hq)
  have hpair := List.pairwise_iff_getElem.1 (pairwise_members records)
  have heq : p.2 = q.2 := by
    rcases Nat.lt_trichotomy p.2 q.2 with hlt | heq | hlt
    · have hne := hpair _ _ hip hiq hlt
      rw [hpget, hqget] at hne
      exact absurd hname (hne hpmember hqmember)
    · exact heq
    · have hne := hpair _ _ hiq hip hlt
      rw [hpget, hqget] at hne
      exact absurd hname.symm (hne hqmember hpmember)
  refine Prod.ext ?_ heq
  rw [← hpget, ← hqget]
  simp only [heq]

/-- A member that is left shares its long name with members only. -/
theorem isMember_of_longname_eq {records : List DocRecord} {m r : DocRecord}
    (hm : m ∈ resolveDuplicates records) (hmember : m.isMember) (hr : r ∈ records)
    (hname : r.longname = m.longname) : r.isMember := by
  obtain ⟨i, -, hstays⟩ := exists_of_mem_resolveDuplicates.1 hm
  exact (hstays.resolve_left (not_not_intro hmember)).1 r hr hname

/-- No long name is lost. -/
theorem exists_longname_eq {records : List DocRecord} {r : DocRecord} (hr : r ∈ records) :
    ∃ s ∈ resolveDuplicates records, s.longname = r.longname := by
  by_cases hmembers : ∀ s ∈ records, s.longname = r.longname → s.isMember
  · -- The least member is left.
    have hne : heldAt r.longname (heldOf records) ≠ [] := by
      rw [← map_record_heldOf records] at hr
      obtain ⟨h, hh, rfl⟩ := List.mem_map.1 hr
      exact List.ne_nil_of_mem (List.mem_filter.2 ⟨hh, decide_eq_true rfl⟩)
    obtain ⟨l, hl, hleast, -⟩ := leastId_spec ((inOrder_heldOf records).heldAt _) hne
    obtain ⟨hlmem, hlname⟩ := List.mem_filter.1 hl
    have hlname := of_decide_eq_true hlname
    refine ⟨l.record, ?_, hlname⟩
    rw [resolveDuplicates_eq]
    refine List.mem_map_of_mem (List.mem_filter.2 ⟨hlmem, ?_⟩)
    rw [survives, hlname, hleast, all_heldAt.2 hmembers]
    simp
  · push Not at hmembers
    obtain ⟨s, hs, hname, hmember⟩ := hmembers
    exact ⟨s, mem_resolveDuplicates hs (by simpa using hmember), hname⟩

/-- Nothing is left to drop. -/
theorem resolveDuplicates_idem (records : List DocRecord) :
    resolveDuplicates (resolveDuplicates records) = resolveDuplicates records := by
  have hstays : ∀ p ∈ (resolveDuplicates records).zipIdx, Stays (resolveDuplicates records) p := by
    intro p hp
    by_cases hmember : p.1.isMember
    · refine .inr ⟨fun r hr => ?_, fun q hq hqmember hname => ?_⟩
      · exact isMember_of_longname_eq (List.fst_mem_of_mem_zipIdx hp) hmember
          ((resolveDuplicates_sublist records).mem hr)
      · rw [eq_of_members hp hq hmember hqmember hname.symm]
    · exact .inl hmember
  conv_lhs => rw [resolveDuplicates_eq_filter]
  rw [List.filter_eq_self.2 fun p hp => decide_eq_true (hstays p hp), List.zipIdx_map_fst]

theorem eq_of_docId_eq {records : List DocRecord} (h : (records.map DocRecord.docId).Nodup)
    {p q : DocRecord × Nat} (hp : p ∈ records.zipIdx) (hq : q ∈ records.zipIdx)
    (hid : p.1.docId = q.1.docId) : p.2 = q.2 := by
  have hpget := List.mem_zipIdx_iff_getElem?.1 hp
  have hqget := List.mem_zipIdx_iff_getElem?.1 hq
  have hlt : p.2 < (records.map DocRecord.docId).length := by
    rw [List.length_map]
    exact (List.getElem?_eq_some_iff.1 hpget).1
  refine (List.getElem?_inj hlt h).1 ?_
  rw [List.getElem?_map, List.getElem?_map, hpget, hqget, Option.map_some, Option.map_some, hid]

/-- Whether a record is left is no matter of its position if the numbers are distinct. -/
theorem mem_resolveDuplicates_iff {records : List DocRecord}
    (h : (records.map DocRecord.docId).Nodup) {r : DocRecord} :
    r ∈ resolveDuplicates records ↔ r ∈ records ∧ (¬ r.isMember ∨
      (∀ s ∈ records, s.longname = r.longname → s.isMember) ∧
        ∀ s ∈ records, s.isMember → s.longname = r.longname → r.docId ≤ s.docId) := by
  rw [exists_of_mem_resolveDuplicates]
  constructor
  · rintro ⟨i, hi, hstays⟩
    refine ⟨List.fst_mem_of_mem_zipIdx hi, hstays.imp_right fun ⟨hall, hrank⟩ => ⟨hall, ?_⟩⟩
    intro s hs hmember hname
    obtain ⟨j, hj⟩ := exists_position hs
    exact (Prod.Lex.toLex_le_toLex.1 (hrank (s, j) hj hmember hname)).elim Int.le_of_lt
      fun heq => Int.le_of_eq heq.1
  · rintro ⟨hr, hleast⟩
    obtain ⟨i, hi⟩ := exists_position hr
    refine ⟨i, hi, hleast.imp_right fun ⟨hall, hle⟩ => ⟨hall, fun q hq hmember hname => ?_⟩⟩
    rcases Int.lt_or_eq_of_le (hle q.1 (List.fst_mem_of_mem_zipIdx hq) hmember hname) with hlt | heq
    · exact Prod.Lex.toLex_le_toLex.2 (.inl hlt)
    · refine Prod.Lex.toLex_le_toLex.2 (.inr ⟨heq, Nat.le_of_eq ?_⟩)
      exact eq_of_docId_eq h hi hq heq

/-- The order of records is no matter if their numbers are distinct. -/
theorem resolveDuplicates_perm {records other : List DocRecord}
    (h : (records.map DocRecord.docId).Nodup) (hperm : other.Perm records) :
    (resolveDuplicates other).Perm (resolveDuplicates records) := by
  have hother : (other.map DocRecord.docId).Nodup := (hperm.map _).nodup_iff.2 h
  have hnodup {l : List DocRecord} (hl : (l.map DocRecord.docId).Nodup) :
      (resolveDuplicates l).Nodup := hl.of_map.sublist (resolveDuplicates_sublist l)
  refine (List.perm_ext_iff_of_nodup (hnodup hother) (hnodup h)).2 fun r => ?_
  rw [mem_resolveDuplicates_iff hother, mem_resolveDuplicates_iff h]
  simp only [hperm.mem_iff]

/-- Dropping duplicates leaves, in order, the records that stay at their positions.  So no two
members of one long name are left, nor a member that shares its long name with another kind, no long
name is lost, there is nothing more to drop the second time, and if the numbers are distinct, the
same records are left in whatever order they are given. -/
theorem resolveDuplicates_keeps (records : List DocRecord) :
    resolveDuplicates records =
        (records.zipIdx.filter fun p => Stays records p).map Prod.fst ∧
      ((resolveDuplicates records).Pairwise fun r s =>
        r.isMember → s.isMember → r.longname ≠ s.longname) ∧
      (∀ m ∈ resolveDuplicates records, m.isMember →
        ∀ r ∈ records, r.longname = m.longname → r.isMember) ∧
      (∀ r ∈ records, ∃ s ∈ resolveDuplicates records, s.longname = r.longname) ∧
      resolveDuplicates (resolveDuplicates records) = resolveDuplicates records ∧
      ((records.map DocRecord.docId).Nodup → ∀ other, other.Perm records →
        (resolveDuplicates other).Perm (resolveDuplicates records)) :=
  ⟨resolveDuplicates_eq_filter records, pairwise_members records,
    fun _ hm hmember _ hr hname => isMember_of_longname_eq hm hmember hr hname,
    fun _ hr => exists_longname_eq hr, resolveDuplicates_idem records,
    fun h _ hperm => resolveDuplicates_perm h hperm⟩

/-- A class with an attribute that is assigned twice, and one that has a setter as well. -/
def sampleRecords : List DocRecord :=
  let record (docId : Int) (kind longname : String) : DocRecord :=
    { docId, kind, name := longname, longname }
  [record 3 "member" "A#x", record 1 "member" "A#x", record 2 "setter" "A#y",
   record 4 "member" "A#y"]

theorem resolveDuplicates_keeps_sample :
    (sampleRecords.map DocRecord.docId).Nodup ∧
      (resolveDuplicates sampleRecords).map DocRecord.docId = [1, 2] ∧
      (resolveDuplicates sampleRecords.reverse).Perm (resolveDuplicates sampleRecords) := by
  obtain ⟨-, -, -, -, -, hperm⟩ := resolveDuplicates_keeps sampleRecords
  have hnodup : (sampleRecords.map DocRecord.docId).Nodup := by decide
  exact ⟨hnodup, by decide +kernel, hperm hnodup _ (List.reverse_perm _)⟩

end SourceDocs
