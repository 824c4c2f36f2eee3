import SourceDocs.Extraction.Parents
import SourceDocs.Proofs.Tree.Position

/-!
# Climbing from parent to parent

Whoever is shown the nodes of a tree one by one is told of each node no more than its parent.  It
notes these parents, and finds what stands around a node by climbing through its notes.  The main
result, `along_calls`, is that this gives all ancestors of each node at the moment when it is shown.

The invariant is `Knows`: the notes have the true parent of every node that has been shown, and with
each node, its ancestors have been shown as well.  One more node keeps it (`Knows.note`) if it
stands at a place of its own and comes after its parent, and that is how a traversal shows the nodes
(`pairwise_standings`, `grows_standings`).
-/

namespace SourceDocs.Extraction

open SourceDocs.Tree

/-- A node where it stands, and the nodes above it, the nearest one first. -/
structure Standing where
  node : Node
  above : List Node

namespace Standing

/-- The root of a tree. -/
def ofRoot (tree : Value) : Standing := ⟨.ofRoot tree, []⟩

/-- The children of a node. -/
def below (s : Standing) : List Standing := s.node.children.map fun c => ⟨c, s.node :: s.above⟩

/-- What is told about a node when it is shown. -/
def call (s : Standing) : Node × Option Node := (s.node, s.above.head?)

/-- The node and its ancestors. -/
def visit (s : Standing) : Visit := ⟨s.node.value, s.above.map Node.value⟩

/-- The position at which a node occurs. -/
def occurrence (s : Standing) : Occurrence Node := ⟨s.node.place.reverse, s.node, s.above.head?⟩

end Standing

/-- The nodes of a tree in order, with all that is above them. -/
noncomputable def standings (tree : Value) : List Standing := order Standing.below (.ofRoot tree)

/-! ## What a traversal shows -/

theorem isFinite_standing (s : Standing) : IsFinite Standing.below s := by
  refine .of_map (f := Standing.node) (fun s => ?_) (isFinite_node s.node)
  rw [Standing.below, List.map_map]
  exact (List.map_id' _).symm

theorem pairsBelow_call (s : Standing) :
    pairsBelow Node.children s.call = s.below.map Standing.call := by
  rw [pairsBelow, Standing.below, List.map_map]
  rfl

theorem children_visit (s : Standing) : s.visit.children = s.below.map Standing.visit := by
  rw [Visit.children, Standing.visit, Standing.below, List.map_map, ← Node.map_children,
    List.map_map]
  rfl

theorem below_occurrence (s : Standing) :
    s.occurrence.below Node.children = s.below.map Standing.occurrence := by
  refine List.ext_getElem? fun i => ?_
  rw [Occurrence.below, Standing.below, Standing.occurrence, Node.children]
  cases h : (Tree.children s.node.value)[i]? <;>
    simp [h, Standing.occurrence]

theorem calls_eq_standings (tree : Value) : calls tree = (standings tree).map Standing.call := by
  have hroot : IsFinite (pairsBelow Node.children) (Standing.ofRoot tree).call :=
    (isFinite_node _).pairs none
  rw [calls_eq, standings, ← order_map pairsBelow_call hroot]
  rfl

theorem visits_eq_standings (tree : Value) : visits tree = (standings tree).map Standing.visit := by
  rw [visits, ← order_children, standings, ← order_map children_visit (isFinite_children _)]
  rfl

/-- No two nodes stand at one place. -/
theorem pairwise_standings (tree : Value) :
    (standings tree).Pairwise fun s t => s.node.place ≠ t.node.place := by
  have hroot : IsFinite (Occurrence.below Node.children) (Standing.ofRoot tree).occurrence :=
    Occurrence.isFinite (isFinite_node _)
  have hpositions := pairwise_occurrences (isFinite_node (.ofRoot tree))
  rw [occurrences, show (Occurrence.ofRoot (Node.ofRoot tree)) =
      (Standing.ofRoot tree).occurrence from rfl, order_map below_occurrence hroot,
    List.pairwise_map] at hpositions
  refine hpositions.imp fun {s t} hlt heq => ?_
  rw [Standing.occurrence, Standing.occurrence, heq] at hlt
  exact lt_irrefl _ hlt

/-- Of several nodes after others, each comes after its parent. -/
inductive Grows : List Standing → List Standing → Prop where
  | nil {seen : List Standing} : Grows seen []
  | cons {seen rest : List Standing} {s : Standing} :
      s.above = [] ∨ (∃ t ∈ seen, s.above = t.node :: t.above) → Grows (s :: seen) rest →
      Grows seen (s :: rest)

theorem Grows.mono {seen seen' ss : List Standing} (h : Grows seen ss) (hsub : seen ⊆ seen') :
    Grows seen' ss := by
  induction h generalizing seen' with
  | nil => exact .nil
  | cons hs _ ih =>
    refine .cons (hs.imp_right ?_) (ih (List.cons_subset_cons _ hsub))
    rintro ⟨t, ht, habove⟩
    exact ⟨t, hsub ht, habove⟩

theorem Grows.append {seen ss ts : List Standing} (hs : Grows seen ss) (ht : Grows seen ts) :
    Grows seen (ss ++ ts) := by
  induction hs with
  | nil => exact ht
  | cons hparent _ ih => exact .cons hparent (ih (ht.mono (List.subset_cons_self _ _)))

theorem Grows.flatMap {seen ss : List Standing} {f : Standing → List Standing}
    (h : ∀ s ∈ ss, Grows seen (f s)) : Grows seen (ss.flatMap f) := by
  induction ss with
  | nil => exact .nil
  | cons s rest ih =>
    rw [List.flatMap_cons]
    exact (h s List.mem_cons_self).append (ih fun t ht => h t (List.mem_cons_of_mem s ht))

theorem grows_order {seen : List Standing} {s : Standing}
    (h : s.above = [] ∨ ∃ t ∈ seen, s.above = t.node :: t.above) :
    Grows seen (order Standing.below s) := by
  have hfinite := isFinite_standing s
  induction hfinite generalizing seen with
  | intro s hbelow ih =>
    rw [order_eq (.intro s hbelow)]
    refine .cons h (.flatMap fun c hc => ih c hc (.inr ⟨s, List.mem_cons_self, ?_⟩))
    obtain ⟨n, -, rfl⟩ := List.mem_map.1 hc
    rfl

theorem grows_standings (tree : Value) : Grows [] (standings tree) := grows_order (.inl rfl)

/-! ## Notes -/

/-- Notes that have the true parent of every node that has been shown. -/
structure Knows (ps : Parents) (seen : List Standing) : Prop where
  parent : ∀ s ∈ seen, ps.parent? s.node = s.above.head?
  closed : ∀ s ∈ seen, s.above = [] ∨ ∃ t ∈ seen, s.above = t.node :: t.above
  /-- There are enough notes to climb as far as the root. -/
  depth : ∀ s ∈ seen, s.above.length ≤ ps.length
  places : ∀ l ∈ ps, ∃ s ∈ seen, s.node.place = l.1

namespace Knows

variable {ps : Parents} {seen : List Standing} {s : Standing}

theorem nil : Knows [] [] := by
  constructor <;> simp

/-- A node at a place of its own is noted nowhere. -/
theorem parent?_eq_none (h : Knows ps seen)
    (hplace : ∀ t ∈ seen, t.node.place ≠ s.node.place) : ps.parent? s.node = none := by
  refine List.lookup_eq_none_iff.2 fun l hl => ?_
  obtain ⟨t, ht, heq⟩ := h.places l hl
  have hne := hplace t ht
  rw [heq] at hne
  simpa using Ne.symm hne

/-- The notes stay what they are for the nodes that have been shown before. -/
theorem note_parent? (parent : Option Node) {t : Standing}
    (hplace : t.node.place ≠ s.node.place) :
    (ps.note s.node parent).parent? t.node = ps.parent? t.node := by
  cases parent with
  | none => rfl
  | some p =>
    have hother : (t.node.place == s.node.place) = false := by simpa using hplace
    rw [Parents.note, Parents.parent?, List.lookup_cons, hother]
    rfl

/-- One more node at a place of its own, whose parent has been shown before, is noted. -/
theorem note (h : Knows ps seen) (hplace : ∀ t ∈ seen, t.node.place ≠ s.node.place)
    (hs : s.above = [] ∨ ∃ t ∈ seen, s.above = t.node :: t.above) :
    Knows (ps.note s.node s.above.head?) (s :: seen) := by
  have hold : ∀ t ∈ seen, (ps.note s.node s.above.head?).parent? t.node = t.above.head? :=
    fun t ht => (note_parent? _ (hplace t ht)).trans (h.parent t ht)
  have hclosed : ∀ u ∈ s :: seen,
      u.above = [] ∨ ∃ t ∈ s :: seen, u.above = t.node :: t.above := by
    intro u hu
    have hup : u.above = [] ∨ ∃ t ∈ seen, u.above = t.node :: t.above := by
      rcases List.mem_cons.1 hu with rfl | hu
      · exact hs
      · exact h.closed u hu
    exact hup.imp_right fun ⟨t, ht, habove⟩ => ⟨t, List.mem_cons_of_mem s ht, habove⟩
  have hplaces : ∀ l ∈ ps, ∃ t ∈ s :: seen, t.node.place = l.1 := fun l hl =>
    let ⟨t, ht, heq⟩ := h.places l hl
    ⟨t, List.mem_cons_of_mem s ht, heq⟩
  rcases hs with hroot | ⟨t, ht, habove⟩
  · rw [hroot] at hold ⊢
    refine ⟨List.forall_mem_cons.2 ⟨?_, hold⟩, hclosed,
      List.forall_mem_cons.2 ⟨?_, h.depth⟩, hplaces⟩
    · rw [hroot]
      exact h.parent?_eq_none hplace
    · rw [hroot]
      exact Nat.zero_le _
  · have hnote : ps.note s.node s.above.head? = (s.node.place, t.node) :: ps := by
      rw [habove]
      rfl
    rw [hnote] at hold ⊢
    refine ⟨List.forall_mem_cons.2 ⟨?_, hold⟩, hclosed,
      List.forall_mem_cons.2 ⟨?_, fun u hu => (h.depth u hu).trans (Nat.le_succ _)⟩,
      List.forall_mem_cons.2 ⟨⟨s, List.mem_cons_self, rfl⟩, hplaces⟩⟩
    · simp [Parents.parent?, habove]
    · rw [habove]
      exact Nat.succ_le_succ (h.depth t ht)

/-- Climbing from a node that has been shown finds all nodes above it. -/
theorem climb_eq (h : Knows ps seen) {steps : Nat} (hs : s ∈ seen)
    (hsteps : s.above.length ≤ steps) : ps.climb steps s.node = s.above := by
  induction steps generalizing s with
  | zero => exact (List.length_eq_zero_iff.1 (Nat.le_zero.1 hsteps)).symm
  | succ steps ih =>
    rw [Parents.climb, h.parent s hs]
    rcases h.closed s hs with hroot | ⟨t, ht, habove⟩
    · rw [hroot]
      rfl
    · rw [habove, List.length_cons] at hsteps
      have hrest : ps.climb steps t.node = t.above := ih ht (by omega)
      rw [habove, ← hrest]
      rfl

theorem visit_eq (h : Knows ps seen) (hs : s ∈ seen) : ps.visit s.node = s.visit := by
  rw [Parents.visit, Parents.above, h.climb_eq hs (h.depth s hs)]
  rfl

end Knows

/-! ## Notes along a traversal -/

/-- What is found to stand around the nodes that are shown, when the parent of each is noted first
and then climbed from. -/
def Parents.along (ps : Parents) : List (Node × Option Node) → List Visit
  | [] => []
  | (n, parent) :: rest => (ps.note n parent).visit n :: (ps.note n parent).along rest

theorem Knows.along_eq {ps : Parents} {seen ss : List Standing} (h : Knows ps seen)
    (hgrows : Grows seen ss) (hplaces : ∀ s ∈ ss, ∀ t ∈ seen, t.node.place ≠ s.node.place)
    (hdistinct : ss.Pairwise fun s t => s.node.place ≠ t.node.place) :
    ps.along (ss.map Standing.call) = ss.map Standing.visit := by
  induction hgrows generalizing ps with
  | nil => rfl
  | @cons seen rest s hparent _ ih =>
    obtain ⟨hfirst, hrest⟩ := List.pairwise_cons.1 hdistinct
    have hnoted := h.note (hplaces s List.mem_cons_self) hparent
    have hplaces' : ∀ u ∈ rest, ∀ t ∈ s :: seen, t.node.place ≠ u.node.place := by
      intro u hu t ht
      rcases List.mem_cons.1 ht with rfl | ht
      · exact hfirst u hu
      · exact hplaces u (List.mem_cons_of_mem s hu) t ht
    rw [List.map_cons, List.map_cons, Standing.call, Parents.along,
      hnoted.visit_eq List.mem_cons_self, ih hnoted hplaces' hrest]

/-- Along a traversal, climbing finds the ancestors of each node. -/
theorem along_calls (tree : Value) : Parents.along [] (calls tree) = visits tree := by
  rw [calls_eq_standings, visits_eq_standings]
  exact Knows.nil.along_eq (grows_standings tree) (by simp) (pairwise_standings tree)

end SourceDocs.Extraction
