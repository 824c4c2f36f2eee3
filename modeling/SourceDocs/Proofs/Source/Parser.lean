import SourceDocs.Proofs.Source.Literal
import SourceDocs.Source.Grammar.Basic

/-!
# What parsers find

`Yields P x` says that whatever the parser `x` finds has the property `P`, on condition that what is
remembered of the grammar's rules is right, and that it stays right.  There is one rule for each way
to put parsers together.  It is about reading a text for the first time, when descriptions of
mistakes take no part: a second reading finds nothing.
-/

namespace SourceDocs.Source

open SourceDocs.Tree

/-- What a rule finds: a block of statements, or a tree. -/
def Rule.Finds : Rule → Value → Prop
  | .statements | .statement | .block => IsBlock
  | _ => IsRead

/-! ## What is remembered -/

namespace Rule

/-- All rules, in the order of their declaration. -/
def all : List Rule :=
  [statements, statement, simpleStatement, block, elifClause, starExpressions, starExpression,
   expression, namedExpression, badNamedExpression, disjunction, conjunction, inversion, comparison,
   bitwiseOr, bitwiseXor, bitwiseAnd, shift, sum, term, factor, awaitPrimary, primary, atom,
   strings, list, tuple, generator, arguments, positionalArguments, lambda, starTarget,
   starAtomTarget, targetPrimary, singleTarget, deletionTarget, badAnnotatedTarget, pattern,
   closedPattern, starPattern]

theorem getElem?_all (r : Rule) : all[r.ctorIdx]? = some r := by
  cases r <;> rfl

theorem ctorIdx_inj {r r' : Rule} (h : r.ctorIdx = r'.ctorIdx) : r = r' := by
  have hsome := getElem?_all r
  rw [h, getElem?_all] at hsome
  exact (Option.some.inj hsome).symm

theorem ctorIdx_lt (r : Rule) : r.ctorIdx < 40 := (List.getElem?_eq_some_iff.1 (getElem?_all r)).1

/-- Where it is remembered what a rule finds at a position, when no mistakes are searched for. -/
def slot (r : Rule) (position : Nat) : Nat := position * 512 + 2 * r.ctorIdx

theorem slot_inj {r r' : Rule} {m n : Nat} (h : r.slot m = r'.slot n) : r = r' := by
  have hr := r.ctorIdx_lt
  have hr' := r'.ctorIdx_lt
  unfold slot at h
  exact ctorIdx_inj (by omega)

end Rule

/-- What is remembered of a rule is what the rule finds. -/
def Remembered (memo : Std.TreeMap Nat Found) : Prop :=
  ∀ (r : Rule) (position : Nat) (v : Value) (behind : Nat),
    memo[r.slot position]? = some (some (v, behind)) → r.Finds v

/-- At first nothing is remembered. -/
theorem remembered_empty : Remembered ∅ := by
  intro r position v behind h
  rw [Std.TreeMap.getElem?_emptyc] at h
  cases h

/-- What a rule has found may be remembered: no other rule looks in its place. -/
theorem Remembered.insert {memo : Std.TreeMap Nat Found} (h : Remembered memo) (r : Rule)
    (position : Nat) {found : Found} (hfound : ∀ v behind, found = some (v, behind) → r.Finds v) :
    Remembered (memo.insert (r.slot position) found) := by
  intro r' position' v behind hget
  rw [Std.TreeMap.getElem?_insert] at hget
  split_ifs at hget with hslot
  · obtain rfl := Rule.slot_inj (Nat.compare_eq_eq.1 hslot)
    exact hfound v behind (Option.some.inj hget)
  · exact h r' position' v behind hget

namespace Parser

variable {α β : Type}

/-- How a parser ends: with what has the property `P`, without anything, or with a fault. -/
def Ends (P : α → Prop) : Outcome α → Prop
  | .ok a p => P a ∧ Remembered p.memo
  | .fail p => Remembered p.memo
  | .fault _ _ _ => True

/-- A parser that goes on after another one ends well if it does so after each way in which the
other one may end. -/
theorem Ends.elim {P : α → Prop} {R : β → Prop} {o : Outcome α} {ok : α → Progress → Outcome β}
    {fail : Progress → Outcome β} (h : Ends P o)
    (hok : ∀ a p, P a → Remembered p.memo → Ends R (ok a p))
    (hfail : ∀ p, Remembered p.memo → Ends R (fail p)) :
    Ends R (match o with
      | .ok a p => ok a p
      | .fail p => fail p
      | .fault e l p => .fault e l p) := by
  cases o with
  | ok a p => exact hok a p h.1 h.2
  | fail p => exact hfail p h
  | fault f lexical p => exact trivial

/-- Whatever the parser finds has the property `P`. -/
def Yields (P : α → Prop) (x : Parser α) : Prop :=
  ∀ (i : Input) (p : Progress), i.diagnosing = false → Remembered p.memo → Ends P (x i p)

namespace Yields

variable {P Q : α → Prop} {R : β → Prop} {x y : Parser α}

theorem mono (hx : Yields P x) (h : ∀ a, P a → Q a) : Yields Q x := by
  intro i p hi hp
  have hend := hx i p hi hp
  revert hend
  cases x i p with
  | ok a p' => exact And.imp_left (h a)
  | fail p' => exact id
  | fault f lexical p' => exact id

/-! ## One parser after the other -/

theorem pure {a : α} (h : P a) : Yields P (Pure.pure a : Parser α) := fun _ _ _ hp => ⟨h, hp⟩

theorem fail : Yields P fail := fun _ _ _ hp => hp

theorem bind {f : α → Parser β} (hx : Yields P x) (hf : ∀ a, P a → Yields R (f a)) :
    Yields R (x >>= f) := by
  intro i p hi hp
  exact (hx i p hi hp).elim (fun a p' ha hp' => hf a ha i p' hi hp') fun _ hp' => hp'

/-- What the first parser finds does not matter. -/
theorem skip {f : α → Parser β} (hx : Yields P x) (hf : ∀ a, Yields R (f a)) :
    Yields R (x >>= f) := hx.bind fun a _ => hf a

/-! ## One parser or the other -/

theorem orElse {y : Unit → Parser α} (hx : Yields P x) (hy : Yields P (y ())) :
    Yields P (Parser.orElse x y) := by
  intro i p hi hp
  have hend := hx i p hi hp
  unfold Parser.orElse
  dsimp only
  split
  next p' hfail =>
    rw [hfail] at hend
    exact hy i _ hi hend
  next => exact hend

theorem none : Yields P (firstOf []) := fail

/-- One more alternative. -/
theorem alt {rest : List (Parser α)} (hx : Yields P x) (hrest : Yields P (firstOf rest)) :
    Yields P (firstOf (x :: rest)) := by
  cases rest with
  | nil => exact hx
  | cons y rest => exact hx.orElse hrest

theorem optional (hx : Yields P x) : Yields (fun o => ∀ a ∈ o, P a) (optional x) := by
  refine orElse (bind (x := x) hx fun a ha => ?_) (pure nofun)
  exact pure fun b hb => Option.some.inj hb ▸ ha

theorem orNull {x : Parser Value} {P : Value → Prop} (hx : Yields P x) (h : P .null) :
    Yields P (orNull x) := hx.orElse (pure h)

theorem committed {start : Parser α} {rest : α → Parser β} {otherwise : Parser β}
    (hstart : Yields P start) (hrest : ∀ a, P a → Yields R (rest a))
    (hotherwise : Yields R otherwise) : Yields R (committed start rest otherwise) := by
  intro i p hi hp
  exact (hstart i p hi hp).elim (fun a p' ha hp' => hrest a ha i p' hi hp') fun p' hp' =>
    hotherwise i _ hi hp'

/-- Descriptions of mistakes take no part. -/
theorem diagnosis : Yields P (diagnosis x) := by
  intro i p hi hp
  unfold Parser.diagnosis
  rw [hi]
  exact hp

/-! ## Parsers that are repeated -/

theorem repeated (hx : Yields P x) (fuel : Nat) {done : List α} (hdone : ∀ a ∈ done, P a) :
    Yields (fun found => ∀ a ∈ found, P a) (repeated x fuel done) := by
  have hreverse {found : List α} (h : ∀ a ∈ found, P a) : ∀ a ∈ found.reverse, P a :=
    fun a ha => h a (List.mem_reverse.1 ha)
  induction fuel generalizing done with
  | zero => exact pure (hreverse hdone)
  | succ fuel ih =>
    intro i p hi hp
    refine (hx i p hi hp).elim (fun a p' ha hp' => ?_) fun p' hp' => ⟨hreverse hdone, hp'⟩
    -- It ends here as well if the parser has read nothing.
    have hmore : ∀ b ∈ a :: done, P b := List.forall_mem_cons.2 ⟨ha, hdone⟩
    split_ifs
    · exact ⟨hreverse hmore, hp'⟩
    · exact ih hmore i p' hi hp'

theorem many (hx : Yields P x) : Yields (fun found => ∀ a ∈ found, P a) (many x) :=
  fun i p hi hp => hx.repeated (i.tokens.tokens.size + 1) (List.forall_mem_nil _) i p hi hp

theorem many1 (hx : Yields P x) : Yields (fun found => ∀ a ∈ found, P a) (many1 x) :=
  bind hx fun _ ha => bind hx.many fun _ hrest => pure (List.forall_mem_cons.2 ⟨ha, hrest⟩)

theorem separated {separator : Parser β} (hx : Yields P x) (hseparator : Yields R separator) :
    Yields (fun found => ∀ a ∈ found, P a) (separated x separator) :=
  bind hx fun _ ha => bind (skip hseparator fun _ => hx).many fun _ hrest =>
    pure (List.forall_mem_cons.2 ⟨ha, hrest⟩)

theorem foldFrom {step : α → Parser α} (hstep : ∀ a, P a → Yields P (step a)) (fuel : Nat) {a : α}
    (ha : P a) : Yields P (foldFrom step fuel a) := by
  induction fuel generalizing a with
  | zero => exact pure ha
  | succ fuel ih =>
    intro i p hi hp
    exact (hstep a ha i p hi hp).elim (fun b p' hb hp' => ih hb i p' hi hp') fun _ hp' => ⟨ha, hp'⟩

theorem grow {step : α → Parser α} {a : α} (hstep : ∀ a, P a → Yields P (step a)) (ha : P a) :
    Yields P (grow step a) :=
  fun i p hi hp => foldFrom hstep (i.tokens.tokens.size + 1) ha i p hi hp

/-! ## Looking ahead, and tokens -/

theorem ahead (hx : Yields P x) : Yields (fun _ => True) (ahead x) := by
  intro i p hi hp
  exact (hx i p hi hp).elim (fun _ _ _ hp' => ⟨trivial, hp'⟩) fun _ hp' => hp'

theorem notAhead (hx : Yields P x) : Yields (fun _ => True) (notAhead x) := by
  intro i p hi hp
  exact (hx i p hi hp).elim (fun _ _ _ hp' => hp') fun _ hp' => ⟨trivial, hp'⟩

theorem peek : Yields (fun _ => True) peek := by
  intro i p hi hp
  unfold Parser.peek
  split
  · exact ⟨trivial, hp⟩
  · split
    · exact trivial
    · exact hp

theorem advance : Yields (fun _ => True) advance := fun _ _ _ hp => ⟨trivial, hp⟩

theorem satisfy (test : Token → Bool) : Yields (fun _ => True) (satisfy test) := by
  refine skip peek fun t => ?_
  split_ifs
  · exact skip advance fun _ => pure trivial
  · exact fail

theorem word (w : Word) : Yields (fun _ => True) (word w) := satisfy _

theorem anyWord (ws : List Word) : Yields (fun _ => True) (anyWord ws) := satisfy _

theorem ofKind (k : TokenKind) : Yields (fun _ => True) (ofKind k) := satisfy _

theorem name : Yields (fun _ => True) name := ofKind _

theorem faultAt {line : Nat} {what : String} : Yields P (faultAt line what) :=
  fun _ _ _ _ => trivial

theorem faultHere {what : String} {kind : FaultKind} : Yields P (faultHere what kind) :=
  fun _ _ _ _ => trivial

theorem required (w : Word) : Yields (fun _ => True) (required w) := by
  refine skip peek fun t => ?_
  split_ifs
  · exact skip advance fun _ => pure trivial
  · exact faultAt

theorem startPlace : Yields (fun _ => True) startPlace := skip peek fun _ => pure trivial

theorem stopPlace : Yields (fun _ => True) stopPlace := fun _ _ _ hp => ⟨trivial, hp⟩

/-! ## Rules -/

/-- What a rule finds is found again when it is recalled. -/
theorem remembered {r : Rule} {x : Parser Value} (hx : Yields r.Finds x) :
    Yields r.Finds (remembered r.ctorIdx r.isShared x) := by
  intro i p hi hp
  -- Outside of the search for mistakes it does not matter whether the rule is shared.
  have hslot : p.position * 512 +
      (if r.isShared || !i.diagnosing then 2 * r.ctorIdx else 2 * r.ctorIdx + 1) =
        r.slot p.position := by
    rw [hi, Bool.not_false, Bool.or_true, if_pos rfl, Rule.slot]
  unfold Parser.remembered
  dsimp only
  rw [hslot]
  split
  next v behind hget => exact ⟨hp r p.position v behind hget, hp⟩
  next => exact hp
  next =>
    have hend := hx i p hi hp
    revert hend
    cases x i p with
    | ok v p' =>
      refine fun h => ⟨h.1, h.2.insert r p.position fun w behind hfound => ?_⟩
      cases hfound
      exact h.1
    | fail p' => exact fun h => Remembered.insert h r p.position fun _ _ hfound => nomatch hfound
    | fault f lexical p' => exact id

/-! ## Pieces of syntax -/

variable {kind context : NodeKind} {x y : Parser Value}

theorem item (hx : Yields IsRead x) : Yields IsItem x := hx.mono fun _ => .tree

/-- A value that may be missing. -/
theorem orNullItem (hx : Yields IsRead x) : Yields IsItem (Parser.orNull x) := hx.item.orNull .null

theorem spanning {x : Parser (List Value)} (hx : Yields (List.Forall IsPart) x) :
    Yields IsRead (spanning kind x) :=
  skip startPlace fun _ => bind hx fun _ hvalues => skip stopPlace fun _ =>
    pure (.placed hvalues)

theorem enclosed {x : Parser α} {P : α → Prop} {opening closing : Word} (hx : Yields P x) :
    Yields P (enclosed opening closing x) :=
  skip (word _) fun _ => bind hx fun _ ha => skip (word _) fun _ => pure ha

theorem optionalWord (w : Word) : Yields (fun _ => True) (optionalWord w) :=
  skip (word w).optional fun _ => pure trivial

theorem aheadWord (ws : List Word) : Yields (fun _ => True) (aheadWord ws) := (anyWord ws).ahead

theorem notAheadWord (ws : List Word) : Yields (fun _ => True) (notAheadWord ws) :=
  (anyWord ws).notAhead

theorem commaList {x : Parser α} {P : α → Prop} (hx : Yields P x) :
    Yields (fun found => ∀ a ∈ found, P a) (commaList x) :=
  bind (hx.separated (word _)) fun _ hfound => skip (optionalWord _) fun _ => pure hfound

theorem nameIn (context : NodeKind) : Yields IsRead (nameIn context) :=
  skip name fun _ => pure (.placed ⟨.constant rfl, isPart_bare context⟩)

theorem tupleOf (hx : Yields IsRead x) : Yields IsRead (tupleOf context x) := by
  refine skip startPlace fun start => bind hx fun first hfirst => ?_
  refine bind (skip (word _) fun _ => hx).many fun rest hrest => ?_
  have htuple {vs : List Value} (h : ∀ v ∈ vs, IsRead v) :
      List.Forall IsPart [.list vs, bare context] :=
    ⟨.list fun v hv => .tree (h v hv), isPart_bare context⟩
  split_ifs
  · refine skip (word _).optional fun comma => ?_
    cases comma with
    | none => exact pure hfirst
    | some t =>
      exact skip stopPlace fun _ => pure (.placed (htuple (List.forall_mem_singleton.2 hfirst)))
  · exact skip (optionalWord _) fun _ => skip stopPlace fun _ =>
      pure (.placed (htuple (List.forall_mem_cons.2 ⟨hfirst, hrest⟩)))

end Yields

end Parser

/-- The parsers of the rules find what they should, and so does the reader of texts inside string
literals. -/
structure Grammar.Sound (g : Grammar) : Prop where
  call : ∀ r : Rule, Parser.Yields r.Finds (g.call r)
  embedded : ∀ (place : Place) (t : Text), Gives IsRead (g.embedded place t)

end SourceDocs.Source
