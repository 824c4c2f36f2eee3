import SourceDocs.Proofs.Action
import Mathlib.Order.Defs.Unbundled

/-!
# Computations one by one and side by side

`Action` and `ActionWith` are computations that change a state and may fail, each on a state of its
own kind.  Here are two ways to speak about all of them.  `Within S x` says how the state behind
`x`, whether it fails or not, relates to the state before it.  `Follows` compares two computations:
from related states they end alike, and the states behind them are related again.
-/

namespace SourceDocs

/-- Computations that change a state of some kind and may fail. -/
abbrev Acting (σ : Type) := ExceptT Failure (StateM σ)

namespace Acting

variable {σ τ α β : Type}

/-- How a computation ends from a state, and the state behind it. -/
def outcome (x : Acting σ α) (s : σ) : Except Failure α × σ := (ExceptT.run x).run s

@[simp] theorem outcome_pure (a : α) (s : σ) : outcome (pure a) s = (.ok a, s) := rfl

@[simp] theorem outcome_throw (f : Failure) (s : σ) :
    outcome (throw f : Acting σ α) s = (.error f, s) := rfl

theorem outcome_bind (x : Acting σ α) (f : α → Acting σ β) (s : σ) :
    outcome (x >>= f) s =
      match outcome x s with
      | (.ok a, s') => outcome (f a) s'
      | (.error e, s') => (.error e, s') := by
  unfold outcome ExceptT.run StateT.run
  simp only [bind, ExceptT.bind, ExceptT.mk, StateT.bind, ExceptT.bindCont]
  rcases x s with ⟨r, s'⟩
  cases r <;> rfl

theorem outcome_action (x : Action α) (w : World) : outcome x w = x.runIn w := rfl

theorem outcome_actionWith (x : ActionWith σ α) (p : World × σ) :
    outcome x p = x.runWith p.1 p.2 := rfl

/-! ## What a computation does to its state -/

/-- What a computation does to its state, whether it fails or not, is of this kind. -/
def Within (S : σ → σ → Prop) (x : Acting σ α) : Prop := ∀ s, S s (outcome x s).2

namespace Within

variable {S T : σ → σ → Prop}

theorem mono {x : Acting σ α} (h : Within S x) (hST : ∀ s t, S s t → T s t) : Within T x :=
  fun s => hST _ _ (h s)

variable [IsPreorder σ S]

theorem pure (a : α) : Within S (Pure.pure a : Acting σ α) := fun s => refl_of S s

theorem throw (f : Failure) : Within S (MonadExcept.throw f : Acting σ α) := fun s => refl_of S s

theorem bind {x : Acting σ α} {f : α → Acting σ β} (hx : Within S x) (hf : ∀ a, Within S (f a)) :
    Within S (x >>= f) := by
  intro s
  have hfirst := hx s
  rw [outcome_bind]
  rcases hrun : outcome x s with ⟨_ | a, s'⟩ <;> rw [hrun] at hfirst
  · exact hfirst
  · exact trans_of S hfirst (hf a s')

theorem forM {f : β → Acting σ Unit} {bs : List β} (hf : ∀ b ∈ bs, Within S (f b)) :
    Within S (bs.forM f) := by
  induction bs with
  | nil => exact pure ()
  | cons b rest ih =>
    exact (hf b List.mem_cons_self).bind fun _ => ih fun c hc => hf c (List.mem_cons_of_mem _ hc)

end Within

/-! ## Two computations -/

/-- Two computations have ended alike, in states related by `R` if they have a result, and by `E` if
they have failed. -/
inductive Together (R E : σ → τ → Prop) : Except Failure α × σ → Except Failure α × τ → Prop where
  | ok {a : α} {s : σ} {t : τ} : R s t → Together R E (.ok a, s) (.ok a, t)
  | error {f : Failure} {s : σ} {t : τ} : E s t → Together R E (.error f, s) (.error f, t)

/-- The second computation does from related states what the first one does, provided that `G` holds
behind the first one. -/
def Follows (G : σ → Prop) (R E : σ → τ → Prop) (x : Acting σ α) (y : Acting τ α) : Prop :=
  ∀ s t, R s t → G (outcome x s).2 → Together R E (outcome x s) (outcome y t)

/-- Two computations that do the same from related states. -/
abbrev Related (R E : σ → τ → Prop) : Acting σ α → Acting τ α → Prop := Follows (fun _ => True) R E

/-- What holds of a state has held of another one already. -/
def Back (G : σ → Prop) (s t : σ) : Prop := G t → G s

instance (G : σ → Prop) : IsPreorder σ (Back G) where
  refl _ h := h
  trans _ _ _ h h' hG := h (h' hG)

variable {G : σ → Prop} {R E : σ → τ → Prop}

theorem Together.result_eq {p : Except Failure α × σ} {q : Except Failure α × τ}
    (h : Together R E p q) : p.1 = q.1 := by
  cases h <;> rfl

theorem Together.related {p : Except Failure α × σ} {q : Except Failure α × τ}
    (h : Together R R p q) : R p.2 q.2 := by
  cases h <;> assumption

theorem Together.of_result {p : Except Failure α × σ} {q : Except Failure α × τ} (h : p.1 = q.1)
    (hR : R p.2 q.2) (hE : E p.2 q.2) : Together R E p q := by
  obtain ⟨r, s⟩ := p
  obtain ⟨r', t⟩ := q
  obtain rfl : r = r' := h
  cases r
  · exact .error hE
  · exact .ok hR

namespace Follows

theorem pure (a : α) : Follows G R E (Pure.pure a) (Pure.pure a) := fun _ _ hR _ => .ok hR

theorem throw (hE : ∀ s t, R s t → E s t) (f : Failure) :
    Follows G R E (MonadExcept.throw f : Acting σ α) (MonadExcept.throw f) :=
  fun s t hR _ => .error (hE s t hR)

theorem bind {x : Acting σ α} {y : Acting τ α} {f : α → Acting σ β} {g : α → Acting τ β}
    (h : Follows G R E x y) (hback : ∀ a, Within (Back G) (f a))
    (hf : ∀ s t a, R s t → (outcome x s).1 = .ok a → Follows G R E (f a) (g a)) :
    Follows G R E (x >>= f) (y >>= g) := by
  intro s t hR hG
  -- What holds behind both steps holds between them.
  have hmid : G (outcome x s).2 := by
    rw [outcome_bind] at hG
    rcases hx : outcome x s with ⟨_ | a, s'⟩ <;> rw [hx] at hG
    · exact hG
    · exact hback a s' hG
  have hfirst := h s t hR hmid
  rw [outcome_bind] at hG ⊢
  rw [outcome_bind]
  rcases hx : outcome x s with ⟨_ | a, s'⟩ <;> rw [hx] at hfirst hG <;>
    rcases hy : outcome y t with ⟨_ | b, t'⟩ <;> rw [hy] at hfirst <;> cases hfirst
  · exact .error ‹_›
  · exact hf s t a hR (congrArg Prod.fst hx) s' t' ‹_› hG

theorem forM {f : β → Acting σ Unit} {g : β → Acting τ Unit} {bs : List β}
    (hback : ∀ b, Within (Back G) (f b)) (h : ∀ b ∈ bs, Follows G R E (f b) (g b)) :
    Follows G R E (bs.forM f) (bs.forM g) := by
  induction bs with
  | nil => exact pure ()
  | cons b rest ih =>
    refine (h b List.mem_cons_self).bind (fun _ => .forM fun c _ => hback c) fun _ _ _ _ _ => ?_
    exact ih fun c hc => h c (List.mem_cons_of_mem _ hc)

end Follows

theorem within_true (x : Acting σ α) : Within (Back fun _ => True) x := fun _ _ => trivial

theorem Related.bind {x : Acting σ α} {y : Acting τ α} {f : α → Acting σ β} {g : α → Acting τ β}
    (h : Related R E x y) (hf : ∀ a, Related R E (f a) (g a)) : Related R E (x >>= f) (y >>= g) :=
  Follows.bind h (fun _ => within_true _) fun _ _ a _ _ => hf a

theorem Related.forM {f : β → Acting σ Unit} {g : β → Acting τ Unit} {bs : List β}
    (h : ∀ b ∈ bs, Related R E (f b) (g b)) : Related R E (bs.forM f) (bs.forM g) :=
  Follows.forM (fun _ => within_true _) h

/-! ## Properties that a computation keeps -/

/-- A computation keeps `I` as long as it succeeds, and leaves `F` if it fails. -/
def Keeps (I F : σ → Prop) (x : Acting σ α) : Prop :=
  ∀ s, I s → match outcome x s with
    | (.ok _, s') => I s'
    | (.error _, s') => F s'

/-- What keeps a property follows itself. -/
theorem keeps_iff_related {I F : σ → Prop} {x : Acting σ α} :
    Keeps I F x ↔ Related (fun s t => s = t ∧ I s) (fun s t => s = t ∧ F s) x x := by
  constructor
  · rintro h s _ ⟨rfl, hI⟩ -
    have hx := h s hI
    rcases hrun : outcome x s with ⟨_ | a, s'⟩ <;> rw [hrun] at hx
    · exact .error ⟨rfl, hx⟩
    · exact .ok ⟨rfl, hx⟩
  · intro h s hI
    have hx := h s s ⟨rfl, hI⟩ trivial
    rcases hrun : outcome x s with ⟨_ | a, s'⟩ <;> rw [hrun] at hx <;> cases hx
    · exact (‹s' = s' ∧ F s'›).2
    · exact (‹s' = s' ∧ I s'›).2

/-- What is kept whether a computation fails or not is a property of the state behind it. -/
theorem keeps_iff_holds {I : σ → Prop} {x : Acting σ α} :
    Keeps I I x ↔ ∀ s, I s → I (outcome x s).2 := by
  refine forall_congr' fun s => imp_congr_right fun _ => ?_
  rcases outcome x s with ⟨_ | _, s'⟩ <;> exact Iff.rfl

end Acting

end SourceDocs
