import Mathlib.Data.List.Basic
import SourceDocs.Tree.Traversal

/-!
# Working off a stack

`workOff` keeps what is still to be visited on a stack.  `order` lists the same things by recursion:
a root, and then what is below each of the things right below it, one after the other.  The main
results are `workOff_eq`, that every step of `workOff` makes the next call of this list, and
`recurse_eq`, that a recursive traversal makes the calls of this list.  Both hold of whatever is
visited, as long as every way down ends, and `order_map` carries the list from one kind of thing to
another.
-/

namespace SourceDocs.Tree

variable {α β γ : Type} {below : β → List β} {below' : γ → List γ} {children : α → List α}

/-! ## Finite trees -/

/-- Every way down from a root ends. -/
abbrev IsFinite (below : β → List β) (b : β) : Prop := Acc (fun c b => c ∈ below b) b

theorem IsFinite.down {b c : β} (h : IsFinite below b) (hc : c ∈ below b) : IsFinite below c :=
  h.inv hc

/-- A way down from one thing is a way down from what it stands for. -/
theorem IsFinite.of_map {f : γ → β} (hf : ∀ c, below (f c) = (below' c).map f) {c : γ}
    (h : IsFinite below (f c)) : IsFinite below' c := by
  have himage : Acc (InvImage (fun c b => c ∈ below b) f) c := InvImage.accessible f h
  refine Subrelation.accessible (fun {c' c} hc' => ?_) himage
  show f c' ∈ below (f c)
  rw [hf c]
  exact List.mem_map_of_mem hc'

theorem IsFinite.pairs {v : α} (h : IsFinite children v) (parent : Option α) :
    IsFinite (pairsBelow children) (v, parent) := by
  refine IsFinite.of_map (f := Prod.fst) (fun c => ?_) h
  rw [pairsBelow, List.map_map]
  exact (List.map_id' _).symm

/-! ## The order of visits -/

/-- A root and what is below it, for a root from which every way down ends. -/
def orderOf (below : β → List β) (b : {b // IsFinite below b}) : List β :=
  b.1 :: (below b.1).attach.flatMap fun c => orderOf below ⟨c.1, b.2.down c.2⟩
termination_by b
decreasing_by exact c.2

open Classical in
/-- A root and then what is below each of the things right below it, in turn; nothing if there is a
way down that does not end. -/
noncomputable def order (below : β → List β) (b : β) : List β :=
  if h : IsFinite below b then orderOf below ⟨b, h⟩ else []

theorem order_eq {b : β} (h : IsFinite below b) :
    order below b = b :: (below b).flatMap (order below) := by
  have hbelow : ∀ c ∈ (below b).attach, orderOf below ⟨c.1, h.down c.2⟩ = order below c.1 := by
    intro c _
    rw [order, dif_pos (h.down c.2)]
  rw [order, dif_pos h, orderOf, List.flatMap_congr hbelow]
  congr 1
  simp [List.flatMap_subtype]

/-- What holds of a root, and goes on to what is right below, holds of all that is below. -/
theorem forall_mem_order {P : β → Prop} {b : β} (h : IsFinite below b)
    (hdown : ∀ b, P b → ∀ c ∈ below b, P c) (hb : P b) : ∀ c ∈ order below b, P c := by
  induction h with
  | intro b hbelow ih =>
    intro c hc
    rw [order_eq (.intro b hbelow), List.mem_cons, List.mem_flatMap] at hc
    rcases hc with rfl | ⟨d, hd, hc⟩
    · exact hb
    · exact ih d hd (hdown b hb d hd) c hc

/-- The order of the things that others stand for is that of the others. -/
theorem order_map {f : γ → β} (hf : ∀ c, below (f c) = (below' c).map f) {c : γ}
    (h : IsFinite below (f c)) : order below (f c) = (order below' c).map f := by
  have hfinite : IsFinite below' c := .of_map hf h
  induction hfinite with
  | intro c hbelow ih =>
    have hchildren : ∀ d ∈ below' c, order below (f d) = (order below' d).map f := by
      intro d hd
      apply ih d hd
      apply h.down
      rw [hf c]
      exact List.mem_map_of_mem hd
    rw [order_eq h, order_eq (.intro c hbelow), hf c, List.flatMap_map, List.map_cons,
      List.map_flatMap, List.flatMap_congr hchildren]

/-! ## The stack -/

theorem putOnTop_eq (bs stack : List β) : putOnTop bs stack = bs ++ stack := by
  rw [putOnTop, List.foldl_reverse]
  induction bs with
  | nil => rfl
  | cons b rest ih => rw [List.foldr_cons, ih, List.cons_append]

section

variable {m : Type → Type} [Monad m]

/-- Every step hands the next thing to the callback: those below what is on top come before the rest
of the stack, in order. -/
theorem workOff_eq (callback : β → m Unit) (steps : Nat) {stack : List β}
    (h : ∀ b ∈ stack, IsFinite below b) : workOff below callback steps stack =
      ((stack.flatMap (order below)).take steps).forM callback := by
  induction steps generalizing stack with
  | zero => cases stack <;> rfl
  | succ steps ih =>
    cases stack with
    | nil => rfl
    | cons b rest =>
      have hb : IsFinite below b := h b List.mem_cons_self
      have hstack : ∀ c ∈ below b ++ rest, IsFinite below c := by
        intro c hc
        rcases List.mem_append.1 hc with hc | hc
        · exact hb.down hc
        · exact h c (List.mem_cons_of_mem b hc)
      rw [workOff, putOnTop_eq, ih hstack, List.flatMap_cons, order_eq hb, List.flatMap_append]
      rfl

/-- A stack with one thing on it is worked off in as many steps as there are things to visit. -/
theorem workOff_root (callback : β → m Unit) {steps : Nat} {b : β} (h : IsFinite below b)
    (hsteps : (order below b).length ≤ steps) :
    workOff below callback steps [b] = (order below b).forM callback := by
  have hstack : ∀ c ∈ [b], IsFinite below c := by simpa using h
  rw [workOff_eq callback steps hstack, List.flatMap_singleton, List.take_of_length_le hsteps]

/-! ## Recursion -/

/-- The recursive traversal: a node, and then what is below each of its children in turn. -/
def recurse (children : α → List α) (callback : α → Option α → m Unit)
    (v : {v // IsFinite children v}) (parent : Option α) : m Unit := do
  callback v.1 parent
  (children v.1).attach.forM fun c => recurse children callback ⟨c.1, v.2.down c.2⟩ (some v.1)
termination_by v
decreasing_by exact c.2

theorem forM_append [LawfulMonad m] (callback : β → m Unit) (bs cs : List β) :
    (bs ++ cs).forM callback = (bs.forM callback >>= fun _ => cs.forM callback) := by
  simpa only [List.forM_eq_forM] using List.forM_append

theorem forM_flatMap [LawfulMonad m] (callback : β → m Unit) (f : γ → List β) (cs : List γ) :
    (cs.flatMap f).forM callback = cs.forM fun c => (f c).forM callback := by
  induction cs with
  | nil => rfl
  | cons c rest ih =>
    rw [List.flatMap_cons, forM_append, ih]
    rfl

theorem forM_attach [LawfulMonad m] (callback : β → m Unit) (bs : List β) :
    (bs.attach.forM fun b => callback b.1) = bs.forM callback := by
  conv_rhs => rw [← List.attach_map_subtype_val bs]
  rw [List.forM_eq_forM, List.forM_eq_forM, List.forM_map]

/-- The recursive traversal makes its calls in order. -/
theorem recurse_eq [LawfulMonad m] (callback : α → Option α → m Unit) {v : α}
    (h : IsFinite children v) (parent : Option α) : recurse children callback ⟨v, h⟩ parent =
      (order (pairsBelow children) (v, parent)).forM fun c => callback c.1 c.2 := by
  have hfinite := h
  induction hfinite generalizing parent with
  | intro v hbelow ih =>
    have hchildren : (fun c : {c // c ∈ children v} =>
        recurse children callback ⟨c.1, h.down c.2⟩ (some v)) = fun c =>
          (order (pairsBelow children) (c.1, some v)).forM fun c => callback c.1 c.2 := by
      funext c
      exact ih c.1 c.2 (h.down c.2) (some v)
    rw [recurse, order_eq (h.pairs parent), hchildren]
    show (callback v parent >>= fun _ => _) = (callback v parent >>= fun _ => _)
    congr 1
    funext _
    rw [pairsBelow, List.flatMap_map, forM_flatMap]
    exact forM_attach (fun c => (order (pairsBelow children) (c, some v)).forM fun c =>
      callback c.1 c.2) (children v)

end

end SourceDocs.Tree
