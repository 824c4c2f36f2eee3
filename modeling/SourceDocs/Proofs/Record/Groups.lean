import Mathlib
import SourceDocs.Record.Duplicates

/-!
# Records in groups

The groups that `Groups.ofHeld` puts records into hold for each long name what belongs to the
records of that name, in order, and none of them is empty.  From this follows, in
`mem_removedFrom`, which records are found to be redundant, without a mention of groups.
-/

namespace SourceDocs

variable {α : Type}

/-- The objects whose records have a long name. -/
def heldAt (longname : Text) (held : List Held) : List Held :=
  held.filter fun h => h.record.longname = longname

namespace Groups

variable {groups : Groups α} {things : Text → List α}

/-- The groups are those of the long names for which there are things. -/
def Hold (groups : Groups α) (things : Text → List α) : Prop :=
  ∀ longname xs, (longname, xs) ∈ groups ↔ xs = things longname ∧ xs ≠ []

theorem Hold.under_eq (h : groups.Hold things) (longname : Text) :
    groups.under longname = things longname := by
  rw [under]
  cases hlookup : groups.lookup longname with
  | some xs =>
    obtain ⟨before, after, hgroups, -⟩ := List.lookup_eq_some_iff.1 hlookup
    exact ((h longname xs).1 (by simp [hgroups])).1
  | none =>
    by_contra hne
    have hmem := (h longname (things longname)).2 ⟨rfl, fun hnil => hne hnil.symm⟩
    have hfalse := List.lookup_eq_none_iff.1 hlookup _ hmem
    simp at hfalse

theorem Hold.any_eq_true (h : groups.Hold things) (longname : Text) :
    (groups.any fun g => g.1 = longname) = true ↔ things longname ≠ [] := by
  rw [List.any_eq_true]
  constructor
  · rintro ⟨⟨l, xs⟩, hmem, heq⟩
    obtain rfl : l = longname := of_decide_eq_true heq
    obtain ⟨rfl, hne⟩ := (h l xs).1 hmem
    exact hne
  · exact fun hne => ⟨_, (h longname _).2 ⟨rfl, hne⟩, decide_eq_true rfl⟩

theorem Hold.add (h : groups.Hold things) (longname : Text) (a : α) :
    (groups.add longname a).Hold
      fun l => if l = longname then things l ++ [a] else things l := by
  intro l xs
  rw [Groups.add]
  by_cases hpresent : things longname = []
  · -- A new group.
    rw [if_neg fun hany => (h.any_eq_true longname).1 hany hpresent, List.mem_append,
      List.mem_singleton, h l xs, Prod.mk.injEq]
    by_cases hl : l = longname
    · subst hl
      simp only [hpresent, if_true, List.nil_append, true_and]
      constructor
      · rintro (⟨rfl, hne⟩ | rfl)
        · exact absurd rfl hne
        · exact ⟨rfl, List.cons_ne_nil _ _⟩
      · exact fun hxs => .inr hxs.1
    · simp [hl]
  · rw [if_pos ((h.any_eq_true longname).2 hpresent), List.mem_map]
    by_cases hl : l = longname
    · subst hl
      simp only [if_true]
      constructor
      · rintro ⟨⟨l', ys⟩, hmem, heq⟩
        split_ifs at heq with hl'
        · obtain rfl : l' = l := hl'
          cases heq
          exact ⟨by rw [((h l' ys).1 hmem).1], by simp⟩
        · cases heq
          exact absurd rfl hl'
      · rintro ⟨rfl, -⟩
        exact ⟨_, (h l _).2 ⟨rfl, hpresent⟩, by simp⟩
    · simp only [if_neg hl]
      rw [← h l xs]
      constructor
      · rintro ⟨⟨l', ys⟩, hmem, heq⟩
        split_ifs at heq with hl'
        · cases heq
          exact absurd hl' hl
        · cases heq
          exact hmem
      · exact fun hmem => ⟨_, hmem, by rw [if_neg hl]⟩

theorem hold_ofHeld (f : Held → α) (held : List Held) :
    (ofHeld f held).Hold fun l => (heldAt l held).map f := by
  induction held using List.reverseRecOn with
  | nil => simp [Hold, ofHeld, heldAt]
  | append_singleton held h ih =>
    have hstep := ih.add h.record.longname (f h)
    rw [ofHeld, List.foldl_append]
    refine fun l xs => (hstep l xs).trans ?_
    have hheld : (heldAt l (held ++ [h])).map f =
        if l = h.record.longname then (heldAt l held).map f ++ [f h]
        else (heldAt l held).map f := by
      by_cases hl : h.record.longname = l
      · simp [heldAt, hl]
      · simp [heldAt, hl, Ne.symm hl]
    simp only [hheld]

end Groups

/-- The members of a long name that are redundant among all records. -/
def redundantAt (longname : Text) (all : List Held) : List Held :=
  redundant ((heldAt longname all).map fun h => h.record.kind)
    ((heldAt longname all).filter fun h => h.record.isMember)

theorem redundant_sublist (kinds : List Text) (members : List Held) :
    (redundant kinds members).Sublist members := by
  rw [redundant]
  split_ifs
  · exact .refl _
  · exact List.filter_sublist

/-- Those are dropped that are redundant among the members of their long names. -/
theorem mem_removedFrom {all : List Held} {i : Nat} :
    i ∈ removedFrom all ↔
      ∃ longname, ∃ h ∈ redundantAt longname all, h.identity = i := by
  have hcomm (longname : Text) :
      (heldAt longname (all.filter fun h => h.record.isMember)).map id =
        (heldAt longname all).filter fun h => h.record.isMember := by
    rw [List.map_id, heldAt, heldAt, List.filter_filter, List.filter_filter]
    simp only [Bool.and_comm]
  have hkinds (longname : Text) :=
    (Groups.hold_ofHeld (fun h => h.record.kind) all).under_eq longname
  rw [removedFrom]
  simp only [List.mem_flatMap, List.mem_map]
  constructor
  · rintro ⟨⟨longname, members⟩, hmem, h, hh, rfl⟩
    obtain ⟨rfl, -⟩ := (Groups.hold_ofHeld id _ longname members).1 hmem
    simp only [hkinds, hcomm] at hh
    exact ⟨longname, h, hh, rfl⟩
  · rintro ⟨longname, h, hh, rfl⟩
    refine ⟨(longname, _), (Groups.hold_ofHeld id _ longname _).2 ⟨rfl, ?_⟩, h, ?_, rfl⟩
    · simp only [hcomm]
      exact List.ne_nil_of_mem ((redundant_sublist _ _).mem hh)
    · simp only [hkinds, hcomm]
      exact hh

end SourceDocs
