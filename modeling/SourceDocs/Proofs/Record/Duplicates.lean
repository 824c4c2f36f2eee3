import SourceDocs.Proofs.Record.Groups

/-!
# What becomes of duplicate records

Records are grouped by their long names, the redundant members of each group are noted, and what is
not noted stays.  `resolveDuplicates_eq` says of a single record whether it stays, without groups:
dropping duplicates is a filter by `survives`.  Another main result, `filter_resolveDuplicates`, is
what is left of the records of one long name if the records are in the order of their numbers: the
first of them if all are members, and otherwise those that are no members.
-/

namespace SourceDocs

/-- Records in the order of their numbers, no number twice. -/
def Ascending (records : List DocRecord) : Prop := records.Pairwise fun r s => r.docId < s.docId

/-- The records of a long name. -/
def sharing (longname : Text) (records : List DocRecord) : List DocRecord :=
  records.filter fun r => r.longname = longname

/-- The records of a list as different objects. -/
def heldOf (records : List DocRecord) : List Held := records.zipIdx.map fun (r, i) => ⟨i, r⟩

theorem map_record_heldOf (records : List DocRecord) :
    (heldOf records).map Held.record = records := by
  unfold heldOf
  rw [List.map_map]
  exact List.zipIdx_map_fst 0 records

theorem nodup_heldOf (records : List DocRecord) : ((heldOf records).map Held.identity).Nodup := by
  unfold heldOf
  rw [List.map_map]
  have hidentity : Held.identity ∘ (fun p : DocRecord × Nat => Held.mk p.2 p.1) = Prod.snd := rfl
  rw [hidentity, List.zipIdx_map_snd]
  exact List.nodup_range'

/-! ## What stays -/

/-- Whether a record stays: it is no member, or it is the least member of its long name and no
record of another kind has that name. -/
def survives (all : List Held) (h : Held) : Bool :=
  if h.record.isMember then
    (heldAt h.record.longname all).all (fun o => o.record.isMember) &&
      ((leastId (heldAt h.record.longname all)).map Held.identity = some h.identity)
  else true

/-- The objects of a list that stay. -/
def surviving (all : List Held) : List Held := all.filter (survives all)

/-- A record is redundant if it does not survive. -/
theorem mem_redundantAt {all : List Held} {h : Held} {longname : Text} :
    h ∈ redundantAt longname all ↔
      h ∈ all ∧ h.record.longname = longname ∧ survives all h = false := by
  have hkinds : (((heldAt longname all).map fun o => o.record.kind).any
      fun k => !k.isString "member") = !(heldAt longname all).all fun o => o.record.isMember := by
    rw [List.any_map, List.not_all_eq_any_not]
    rfl
  have hheld : h ∈ heldAt longname all ↔ h ∈ all ∧ h.record.longname = longname := by
    rw [heldAt, List.mem_filter, decide_eq_true_eq]
  rw [redundantAt, redundant, hkinds, ← and_assoc, ← hheld]
  cases hall : (heldAt longname all).all fun o => o.record.isMember with
  | false =>
    -- A record of another kind has the name.
    rw [Bool.not_false, if_pos rfl, List.mem_filter]
    refine and_congr_right fun hmem => ?_
    rw [survives, (hheld.1 hmem).2, hall]
    cases h.record.isMember <;> simp
  | true =>
    have hsame : ((heldAt longname all).filter fun o => o.record.isMember) =
        heldAt longname all := List.filter_eq_self.2 (List.all_eq_true.1 hall)
    rw [Bool.not_true, if_neg Bool.false_ne_true, hsame, List.mem_filter]
    refine and_congr_right fun hmem => ?_
    rw [survives, (hheld.1 hmem).2, hall, List.all_eq_true.1 hall h hmem]
    simp

/-- What is left of a list of distinct objects is what survives. -/
theorem resolveHeld_eq {all : List Held} (hnodup : (all.map Held.identity).Nodup) :
    resolveHeld all = surviving all := by
  refine List.filter_congr fun h hmem => ?_
  have hremoved : h.identity ∈ removedFrom all ↔ survives all h = false := by
    rw [mem_removedFrom]
    constructor
    · rintro ⟨longname, o, ho, hidentity⟩
      obtain ⟨hoall, -, hlost⟩ := mem_redundantAt.1 ho
      rwa [List.inj_on_of_nodup_map hnodup hoall hmem hidentity] at hlost
    · exact fun hlost => ⟨_, h, mem_redundantAt.2 ⟨hmem, rfl, hlost⟩, rfl⟩
  simp [hremoved]

theorem resolveDuplicates_eq (records : List DocRecord) :
    resolveDuplicates records = (surviving (heldOf records)).map Held.record := by
  rw [← resolveHeld_eq (nodup_heldOf records)]
  rfl

/-- Dropping duplicates drops records and does nothing else. -/
theorem resolveDuplicates_sublist (records : List DocRecord) :
    (resolveDuplicates records).Sublist records := by
  have hsub := (List.filter_sublist (p := survives (heldOf records)) (l := heldOf records)).map
    Held.record
  rwa [map_record_heldOf, ← surviving, ← resolveDuplicates_eq] at hsub

/-- A record that is no member stays. -/
theorem mem_resolveDuplicates {records : List DocRecord} {r : DocRecord} (hr : r ∈ records)
    (hmember : r.isMember = false) : r ∈ resolveDuplicates records := by
  rw [← map_record_heldOf records] at hr
  obtain ⟨h, hh, rfl⟩ := List.mem_map.1 hr
  rw [resolveDuplicates_eq]
  refine List.mem_map_of_mem (List.mem_filter.2 ⟨hh, ?_⟩)
  rw [survives, hmember]
  rfl

/-- In the order of the numbers, the least one is the first. -/
theorem leastId_eq_head? {held : List Held} (h : Ascending (held.map Held.record)) :
    leastId held = held.head? := by
  induction held with
  | nil => rfl
  | cons a rest ih =>
    obtain ⟨hfirst, hrest⟩ := List.pairwise_cons.1 h
    rw [leastId, ih hrest]
    cases rest with
    | nil => rfl
    | cons b more =>
      have hlt : ¬ b.record.docId < a.record.docId := by
        have := hfirst b.record (by simp)
        omega
      simp [hlt]

theorem map_record_filter (held : List Held) (longname : Text) :
    (held.filter fun h => h.record.longname = longname).map Held.record =
      sharing longname (held.map Held.record) := by
  rw [sharing, List.filter_map]
  rfl

/-- Of objects in the order of their numbers, only the first one is the least. -/
theorem filter_least {held : List Held} (hnodup : (held.map Held.identity).Nodup)
    (hascending : Ascending (held.map Held.record)) :
    held.filter (fun h => (leastId held).map Held.identity = some h.identity) = held.take 1 := by
  rw [leastId_eq_head? hascending]
  cases held with
  | nil => rfl
  | cons a rest =>
    have hrest : rest.filter (fun h => some a.identity = some h.identity) = [] := by
      refine List.filter_eq_nil_iff.2 fun h hmem heq => ?_
      rw [List.map_cons, List.nodup_cons] at hnodup
      have heq : a.identity = h.identity := by simpa using heq
      exact hnodup.1 (heq ▸ List.mem_map_of_mem hmem)
    rw [List.head?_cons, Option.map_some, List.filter_cons_of_pos (by simp), hrest]
    rfl

/-- What is left of the records of a long name. -/
theorem filter_resolveDuplicates {records : List DocRecord} (h : Ascending records)
    (longname : Text) :
    sharing longname (resolveDuplicates records) =
      if (sharing longname records).all DocRecord.isMember then (sharing longname records).take 1
      else (sharing longname records).filter fun r => !r.isMember := by
  -- The objects whose records share the long name.
  obtain ⟨group, hgroup⟩ : ∃ group, group =
    (heldOf records).filter fun h => h.record.longname = longname := ⟨_, rfl⟩
  have hrecords : group.map Held.record = sharing longname records := by
    rw [hgroup, map_record_filter, map_record_heldOf]
  have hnodup : (group.map Held.identity).Nodup := by
    rw [hgroup]
    exact (nodup_heldOf records).sublist (List.filter_sublist.map _)
  have hascending : Ascending (group.map Held.record) := by
    rw [hrecords]
    exact h.sublist List.filter_sublist
  have hleft : sharing longname (resolveDuplicates records) =
      (group.filter (survives (heldOf records))).map Held.record := by
    rw [resolveDuplicates_eq, ← map_record_filter, surviving, hgroup, List.filter_filter,
      List.filter_filter]
    simp only [Bool.and_comm]
  have hsurvives : ∀ h ∈ group, survives (heldOf records) h =
      if h.record.isMember then group.all (fun o => o.record.isMember) &&
        ((leastId group).map Held.identity = some h.identity) else true := by
    intro h hmem
    rw [hgroup, List.mem_filter, decide_eq_true_eq] at hmem
    rw [survives, hmem.2, heldAt, ← hgroup]
  have hall : (sharing longname records).all DocRecord.isMember =
      group.all fun o => o.record.isMember := by
    rw [← hrecords, List.all_map]
    rfl
  rw [hleft, hall, ← hrecords, List.filter_congr hsurvives]
  split
  case isTrue hmembers =>
    rw [← List.map_take, ← filter_least hnodup hascending]
    refine congrArg _ (List.filter_congr fun h hmem => ?_)
    rw [if_pos (List.all_eq_true.1 hmembers h hmem), hmembers, Bool.true_and]
  case isFalse hmembers =>
    rw [List.filter_map]
    refine congrArg _ (List.filter_congr fun h hmem => ?_)
    cases hmember : h.record.isMember <;> simp [hmember, hmembers]

end SourceDocs
