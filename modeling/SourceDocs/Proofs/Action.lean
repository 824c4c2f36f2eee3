import SourceDocs.World

/-!
# Running actions

An action is a function of the world and fails with the world it has reached.  The lemmas here say
what `Action.runIn` and `ActionWith.runWith` do with each way of building an action, so that no
other proof has to open the two monads.
-/

namespace SourceDocs

variable {σ α β : Type}

/-! ## Results -/

theorem bind_eq_ok {ε : Type} {x : Except ε α} {f : α → Except ε β} {b : β} :
    (x >>= f) = .ok b ↔ ∃ a, x = .ok a ∧ f a = .ok b := by
  constructor
  · intro h
    cases x with
    | error e => cases h
    | ok a => exact ⟨a, rfl, h⟩
  · rintro ⟨a, rfl, h⟩
    exact h

theorem exists_of_bind {ε : Type} {x : Except ε α} {f : α → Except ε β} {b : β}
    (h : (x >>= f) = .ok b) : ∃ a, x = .ok a ∧ f a = .ok b := bind_eq_ok.1 h

theorem toOption_eq_some_iff {ε : Type} {r : Except ε α} {a : α} :
    r.toOption = some a ↔ r = .ok a := by
  cases r <;> simp [Except.toOption]

/-! ## Actions on the world -/

namespace Action

@[simp] theorem runIn_pure (a : α) (w : World) : (pure a : Action α).runIn w = (.ok a, w) := rfl

@[simp] theorem runIn_get (w : World) : (get : Action World).runIn w = (.ok w, w) := rfl

@[simp] theorem runIn_world (w : World) : Action.world.runIn w = (.ok w, w) := rfl

@[simp] theorem runIn_report (e : LogEvent) (w : World) :
    (report e).runIn w = (.ok (), { w with log := e :: w.log }) := rfl

@[simp] theorem runIn_throw (f : Failure) (w : World) :
    (throw f : Action α).runIn w = (.error f, w) := rfl

@[simp] theorem runIn_raise (c : Cause) (w : World) :
    (raise c : Action α).runIn w = (.error (.raised c), w) := rfl

@[simp] theorem runIn_change (f : World → World) (w : World) :
    (change f).runIn w = (.ok (), f w) := rfl

@[simp] theorem runIn_takeId (w : World) :
    takeId.runIn w = (.ok w.nextId, { w with nextId := w.nextId + 1 }) := rfl

@[simp] theorem runIn_lift (r : Except Failure α) (w : World) :
    (liftM r : Action α).runIn w = (r, w) := rfl

theorem runIn_bind (x : Action α) (f : α → Action β) (w : World) :
    (x >>= f).runIn w =
      match x.runIn w with
      | (.ok a, w') => (f a).runIn w'
      | (.error e, w') => (.error e, w') := by
  unfold runIn ExceptT.run StateT.run
  simp only [bind, ExceptT.bind, ExceptT.mk, StateT.bind, ExceptT.bindCont]
  rcases x w with ⟨r, w'⟩
  cases r <;> rfl

theorem runIn_bind_ok {x : Action α} {f : α → Action β} {w w' : World} {a : α}
    (h : x.runIn w = (.ok a, w')) : (x >>= f).runIn w = (f a).runIn w' := by
  rw [runIn_bind, h]

theorem runIn_bind_error {x : Action α} {f : α → Action β} {w w' : World} {e : Failure}
    (h : x.runIn w = (.error e, w')) : (x >>= f).runIn w = (.error e, w') := by
  rw [runIn_bind, h]

/-- What succeeds in two steps succeeds in each of them. -/
theorem exists_of_runIn_bind {x : Action α} {f : α → Action β} {w w' : World} {b : β}
    (h : (x >>= f).runIn w = (.ok b, w')) :
    ∃ a w₁, x.runIn w = (.ok a, w₁) ∧ (f a).runIn w₁ = (.ok b, w') := by
  rcases hx : x.runIn w with ⟨e | a, w₁⟩
  · rw [runIn_bind_error hx] at h
    cases h
  · rw [runIn_bind_ok hx] at h
    exact ⟨a, w₁, rfl, h⟩

/-- The result of a look-up as that of an action. -/
def ofLookup (r : Except FileFault α) : Except Failure α :=
  r.mapError fun f => .raised (.file f)

@[simp] theorem ofLookup_ok (a : α) : ofLookup (.ok a) = .ok a := rfl

@[simp] theorem runIn_ofFiles (r : Except FileFault α) (w : World) :
    (ofFiles r).runIn w = (ofLookup r, w) := by
  cases r <;> rfl

@[simp] theorem runIn_attempt (x : Action α) (w : World) :
    (attempt x).runIn w = (.ok (x.runIn w).1, (x.runIn w).2) := by
  unfold runIn ExceptT.run StateT.run attempt
  simp only [tryCatch, tryCatchThe, MonadExceptOf.tryCatch, ExceptT.tryCatch, bind, ExceptT.bind,
    ExceptT.mk, StateT.bind, ExceptT.bindCont]
  rcases x w with ⟨r, w'⟩
  cases r <;> rfl

theorem runIn_attempt_bind (x : Action α) (f : Except Failure α → Action β) (w : World) :
    (attempt x >>= f).runIn w = (f (x.runIn w).1).runIn (x.runIn w).2 :=
  runIn_bind_ok (runIn_attempt x w)

/-- Actions that run alike are the same. -/
theorem eq_of_runIn {x y : Action α} (h : ∀ w, x.runIn w = y.runIn w) : x = y := funext h

end Action

/-! ## Actions with a state -/

namespace ActionWith

@[simp] theorem runWith_pure (a : α) (w : World) (s : σ) :
    (pure a : ActionWith σ α).runWith w s = (.ok a, w, s) := rfl

@[simp] theorem runWith_throw (f : Failure) (w : World) (s : σ) :
    (throw f : ActionWith σ α).runWith w s = (.error f, w, s) := rfl

@[simp] theorem runWith_state (w : World) (s : σ) :
    (state : ActionWith σ σ).runWith w s = (.ok s, w, s) := rfl

@[simp] theorem runWith_update (f : σ → σ) (w : World) (s : σ) :
    (update f).runWith w s = (.ok (), w, f s) := rfl

@[simp] theorem runWith_lift (x : Action α) (w : World) (s : σ) :
    (liftM x : ActionWith σ α).runWith w s = ((x.runIn w).1, (x.runIn w).2, s) := rfl

@[simp] theorem runWith_liftExcept (r : Except Failure α) (w : World) (s : σ) :
    (liftM r : ActionWith σ α).runWith w s = (r, w, s) := rfl

@[simp] theorem runWith_onPart {τ : Type} (get : σ → τ) (put : τ → σ → σ) (x : ActionWith τ α)
    (w : World) (s : σ) : (onPart get put x).runWith w s =
      ((x.runWith w (get s)).1, (x.runWith w (get s)).2.1, put (x.runWith w (get s)).2.2 s) := rfl

theorem runWith_bind (x : ActionWith σ α) (f : α → ActionWith σ β) (w : World) (s : σ) :
    (x >>= f).runWith w s =
      match x.runWith w s with
      | (.ok a, w', s') => (f a).runWith w' s'
      | (.error e, w', s') => (.error e, w', s') := by
  unfold runWith ExceptT.run StateT.run
  simp only [bind, ExceptT.bind, ExceptT.mk, StateT.bind, ExceptT.bindCont]
  rcases x (w, s) with ⟨r, w', s'⟩
  cases r <;> rfl

theorem runWith_bind_ok {x : ActionWith σ α} {f : α → ActionWith σ β} {w w' : World} {s s' : σ}
    {a : α} (h : x.runWith w s = (.ok a, w', s')) :
    (x >>= f).runWith w s = (f a).runWith w' s' := by
  rw [runWith_bind, h]

theorem runWith_bind_error {x : ActionWith σ α} {f : α → ActionWith σ β} {w w' : World} {s s' : σ}
    {e : Failure} (h : x.runWith w s = (.error e, w', s')) :
    (x >>= f).runWith w s = (.error e, w', s') := by
  rw [runWith_bind, h]

/-- What succeeds in two steps succeeds in each of them. -/
theorem exists_of_runWith_bind {x : ActionWith σ α} {f : α → ActionWith σ β} {w w' : World}
    {s s' : σ} {b : β} (h : (x >>= f).runWith w s = (.ok b, w', s')) :
    ∃ a w₁ s₁, x.runWith w s = (.ok a, w₁, s₁) ∧ (f a).runWith w₁ s₁ = (.ok b, w', s') := by
  rcases hx : x.runWith w s with ⟨e | a, w₁, s₁⟩
  · rw [runWith_bind_error hx] at h
    cases h
  · rw [runWith_bind_ok hx] at h
    exact ⟨a, w₁, s₁, rfl, h⟩

@[simp] theorem runWith_attempt (x : ActionWith σ α) (w : World) (s : σ) :
    (attempt x).runWith w s = (.ok (x.runWith w s).1, (x.runWith w s).2) := by
  unfold runWith ExceptT.run StateT.run attempt
  simp only [tryCatch, tryCatchThe, MonadExceptOf.tryCatch, ExceptT.tryCatch, bind, ExceptT.bind,
    ExceptT.mk, StateT.bind, ExceptT.bindCont]
  rcases x (w, s) with ⟨r, w', s'⟩
  cases r <;> rfl

theorem runWith_attempt_bind (x : ActionWith σ α) (f : Except Failure α → ActionWith σ β)
    (w : World) (s : σ) : (attempt x >>= f).runWith w s =
      (f (x.runWith w s).1).runWith (x.runWith w s).2.1 (x.runWith w s).2.2 :=
  runWith_bind_ok (runWith_attempt x w s)

@[simp] theorem runIn_keeping (s : σ) (x : ActionWith σ α) (w : World) :
    (keeping s x).runIn w =
      (.ok ((x.runWith w s).1, (x.runWith w s).2.2), (x.runWith w s).2.1) := rfl

end ActionWith

end SourceDocs
