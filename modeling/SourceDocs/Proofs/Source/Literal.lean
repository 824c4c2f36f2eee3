import SourceDocs.Proofs.Source.Tree
import SourceDocs.Source.Literal.Formatted
import SourceDocs.Source.Literal.Number

/-!
# Literals are trees

The value of a number literal is a constant.  A formatted literal is put together from texts and
replacement fields, whose expressions are read on their own, and formats may hold replacement
fields again; all its parts are trees (`LiteralContext.gives_formatted`), and so adjacent string
tokens form a tree (`gives_stringLiteral`).
-/

namespace SourceDocs.Source

open SourceDocs.Tree

theorem isConstant_numberLiteral {t : Text} {v : Value} (h : numberLiteral t = some v) :
    v.isConstant := by
  have hbased (base : Nat) (digits : List Char)
      (h : (Text.numeral? base digits).map (fun n => Value.int n) = some v) : v.isConstant := by
    obtain ⟨n, -, rfl⟩ := Option.map_eq_some_iff.1 h
    rfl
  unfold numberLiteral at h
  dsimp only at h
  -- The bases come first, then the mark of an imaginary number, then decimal digits.
  split at h
  any_goals exact hbased _ _ h
  split at h
  any_goals (cases h; rfl)
  split_ifs at h
  · exact hbased _ _ h
  · cases h
    rfl

/-! ## Parts of formatted literals -/

theorem isRead_textNode (first last : Token) (t : Text) : IsRead (textNode first last t) := by
  refine .placed ⟨.constant rfl, .constant ?_⟩
  split_ifs <;> rfl

/-- The finished parts of a literal are trees. -/
def Assembly.Sound (a : Assembly) : Prop := ∀ v ∈ a.parts, IsRead v

theorem Assembly.Sound.settled {a : Assembly} (h : a.Sound) (first last : Token) :
    ∀ v ∈ a.settled first last, IsRead v := by
  unfold Assembly.settled
  split_ifs
  · exact h
  · exact List.forall_mem_cons.2 ⟨isRead_textNode first last _, h⟩

/-- The node of a formatted literal. -/
theorem Assembly.Sound.isRead_joinedStr {a : Assembly} (h : a.Sound) (first last : Token)
    (start stop : Place) :
    IsRead (placed .joinedStr [.list (a.settled first last).reverse] start stop) :=
  .placed (.list fun v hv => .tree (h.settled first last v (List.mem_reverse.1 hv)))

/-! ## Computations that may fail -/

/-- Whatever a computation gives has the property `P`. -/
def Gives {ε α : Type} (P : α → Prop) (x : Except ε α) : Prop := ∀ a, x = .ok a → P a

namespace Gives

variable {ε α β : Type} {P : α → Prop} {R : β → Prop} {x : Except ε α}

theorem ok {a : α} (h : P a) : Gives P (.ok a : Except ε α) := fun _ heq => Except.ok.inj heq ▸ h

theorem error {e : ε} : Gives P (.error e) := fun _ heq => nomatch heq

theorem bind {f : α → Except ε β} (hx : Gives P x) (hf : ∀ a, P a → Gives R (f a)) :
    Gives R (x >>= f) := by
  cases x with
  | ok a => exact hf a (hx a rfl)
  | error e => exact error

/-- What the first computation gives does not matter. -/
theorem skip {f : α → Except ε β} (hf : ∀ a, Gives R (f a)) : Gives R (x >>= f) :=
  bind (P := fun _ => True) (fun _ _ => trivial) fun a _ => hf a

/-- What every step over a list keeps. -/
theorem foldlM {f : β → α → Except ε β} (hf : ∀ b a, R b → Gives R (f b a)) (as : List α) {b : β}
    (hb : R b) : Gives R (as.foldlM f b) := by
  induction as generalizing b with
  | nil => exact ok hb
  | cons a rest ih =>
    rw [List.foldlM_cons]
    exact bind (hf b a hb) fun _ => ih

/-- A computation that goes on unless something is wrong. -/
theorem guarded {c : Prop} [Decidable c] {e : ε} {f : Unit → Except ε β} (h : Gives R (f ())) :
    Gives R (if c then .error e >>= f else f ()) := by
  split_ifs
  · exact error
  · exact h

end Gives

/-! ## Replacement fields -/

/-- A format ends with an item, and so does whatever is read in place of it. -/
theorem gives_fieldTail {format : Text → Except LiteralFault (Value × Text)}
    (hformat : ∀ t, Gives (fun r => IsItem r.1) (format t)) (rest : Text) :
    Gives (fun tail => IsItem tail.format) (fieldTail format rest) := by
  refine .skip fun conversion => ?_
  obtain ⟨conversion, rest⟩ := conversion
  dsimp -zeta only
  -- `close` takes what has been read in place of a format and looks for the closing brace.
  extract_lets close
  have hclose (r : Value × Text) (h : IsItem r.1) :
      Gives (fun tail => IsItem tail.format) (close r) := by
    dsimp only [close]
    split
    · split_ifs
      · exact .ok h
      · exact .error
    · exact .error
  split
  · split_ifs
    · exact .error
    · exact .bind (hformat _) hclose
    · exact .bind (.ok .null) hclose
  · exact .bind (.ok .null) hclose

namespace LiteralContext

variable {ctx : LiteralContext} (hembedded : ∀ place t, Gives IsRead (ctx.embedded place t))

include hembedded

theorem gives_expression (offset : Nat) (source behind : Text) :
    Gives IsRead (ctx.expression offset source behind) := by
  unfold LiteralContext.expression
  dsimp only
  split_ifs
  · exact .error
  all_goals
    split
    next v hread => exact .ok (hembedded _ _ v hread)
    next => exact .error

theorem gives_field {format : Text → Except LiteralFault (Value × Text)}
    (hformat : ∀ t, Gives (fun r => IsItem r.1) (format t)) (rest : Text) :
    Gives (fun r => IsRead r.2.1) (ctx.field format rest) := by
  refine .skip fun cut => ?_
  refine .bind (gives_expression hembedded _ _ _) fun value hvalue => ?_
  extract_lets shows tailText shown last
  exact .guarded <| .bind (gives_fieldTail hformat _) fun tail htail =>
    .ok (.placed ⟨.tree hvalue, .constant rfl, htail.isPart⟩)

omit hembedded in
theorem gives_pieces {top : Bool} {field : Text → Except LiteralFault (Text × Value × Text)}
    (hfield : ∀ t, Gives (fun r => IsRead r.2.1) (field t)) (fuel : Nat) (rest : Text)
    {a : Assembly} (ha : a.Sound) :
    Gives (fun r => r.1.Sound) (ctx.pieces top field fuel rest a) := by
  induction fuel generalizing rest a with
  | zero => exact .ok ha
  | succ fuel ih =>
    refine .skip fun cut => ?_
    obtain ⟨source, behind, again⟩ := cut
    -- `step` goes on with the text in front of the next field.
    dsimp -zeta only
    extract_lets step
    have hstep (literal : Text) : Gives (fun r => r.1.Sound) (step literal) := by
      have hnode {r : Text × Value × Text} (hr : IsRead r.2.1) (pending : Text) :
          ∀ v ∈ r.2.1 :: Assembly.settled ⟨a.parts, pending⟩ ctx.first ctx.last, IsRead v :=
        List.forall_mem_cons.2 ⟨hr, Assembly.Sound.settled (a := ⟨a.parts, pending⟩) ha _ _⟩
      dsimp only [step]
      split_ifs
      · exact ih _ ha
      · exact .ok ha
      · exact .bind (hfield _) fun r hr => ih _ (hnode hr _)
    split
    · exact hstep _
    · exact .error

/-- Whatever the depth of the replacement fields, the finished parts are trees. -/
theorem gives_formatted (top : Bool) (depth : Nat) (rest : Text) {a : Assembly} (ha : a.Sound) :
    Gives (fun r => r.1.Sound) (ctx.formatted top depth rest a) := by
  induction depth generalizing top rest a with
  | zero => exact gives_pieces (fun _ => .error) _ _ ha
  | succ depth ih =>
    refine gives_pieces (fun t => gives_field hembedded (fun t => ?_) t) _ _ ha
    refine .bind (ih false t (List.forall_mem_nil _)) fun r hr => ?_
    dsimp only
    split_ifs
    · exact .ok (.tree (hr.isRead_joinedStr _ _ _ _))
    · exact .error

end LiteralContext

/-! ## Adjacent literals -/

/-- A token adds finished parts to those of the tokens before it. -/
theorem Assembly.Sound.gives_add {embedded : Place → Text → Except Fault Value}
    {j : Joined} (hj : j.assembly.Sound) (hembedded : ∀ place t, Gives IsRead (embedded place t))
    (first last : Token) (isFirst : Bool) (t : Token) :
    Gives (fun j' => j'.assembly.Sound) (j.add embedded first last isFirst t) := by
  unfold Joined.add
  extract_lets parts mixed mixFault afterBytes ctx afterFormatted assembly
  split
  · refine .guarded ?_
    dsimp only [afterBytes]
    split
    · exact .error
    · exact .guarded (.ok hj)
  split
  · exact .guarded (.bind (LiteralContext.gives_formatted hembedded _ _ _ hj) fun _ ha => .ok ha)
  split
  · exact .error
  · exact .guarded (.ok hj)

/-- Adjacent tokens are added one after the other, and the parts stay trees. -/
theorem gives_stringLiteral {embedded : Place → Text → Except Fault Value}
    (hembedded : ∀ place t, Gives IsRead (embedded place t)) (tokens : List Token) :
    Gives IsRead (stringLiteral embedded tokens) := by
  refine .bind (P := fun j => j.assembly.Sound)
    (.foldlM (fun j p hj => hj.gives_add hembedded _ _ _ p.1) _ (List.forall_mem_nil _))
    fun j hj => ?_
  split
  · exact .ok (.placed ⟨.constant rfl, .constant rfl⟩)
  · split_ifs
    · exact .ok (hj.isRead_joinedStr _ _ _ _)
    · exact .ok (isRead_textNode _ _ _)

end SourceDocs.Source
