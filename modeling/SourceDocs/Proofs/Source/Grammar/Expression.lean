import SourceDocs.Proofs.Source.Grammar.Parameters
import SourceDocs.Source.Grammar.Expression

/-!
# Expressions are trees

Every rule for expressions finds trees, from the loosest operators to the tightest.  Operands that
group to the left and the trailers of a primary are put around a tree one after the other, and each
of them leaves a tree (`yields_leftGrouped`, `yields_trailer`).
-/

namespace SourceDocs.Source

open SourceDocs.Tree

namespace Parser

variable {g : Grammar} (hg : g.Sound)

include hg

/-! ## Sequences of expressions -/

theorem yields_starExpression : Yields IsRead (starExpression g) :=
  .alt (.spanning <| .skip (.word _) fun _ => .bind (hg.call .bitwiseOr) fun _ hv =>
    .pure ⟨.tree hv, isPart_bare _⟩) <|
  .alt (hg.call .expression) .none

theorem yields_starExpressions : Yields IsRead (starExpressions g) :=
  .tupleOf (hg.call .starExpression)

theorem yields_starNamedExpression : Yields IsRead (starNamedExpression g) :=
  .alt (.spanning <| .skip (.word _) fun _ => .bind (hg.call .bitwiseOr) fun _ hv =>
    .pure ⟨.tree hv, isPart_bare _⟩) <|
  .alt (hg.call .namedExpression) .none

theorem yields_starNamedExpressions :
    Yields (fun found => ∀ v ∈ found, IsItem v) (starNamedExpressions g) :=
  (yields_starNamedExpression hg).item.commaList

theorem yields_starredExpression : Yields IsRead (starredExpression g) :=
  .spanning <| .skip (.word _) fun _ => .bind (hg.call .expression) fun _ hv =>
    .pure ⟨.tree hv, isPart_bare _⟩

theorem yields_assignmentExpression : Yields IsRead (assignmentExpression g) :=
  .spanning <| .bind (.nameIn _) fun _ htarget => .skip (.word _) fun _ =>
    .bind (hg.call .expression) fun _ hv => .pure ⟨.tree htarget, .tree hv⟩

theorem yields_unnamedExpression : Yields IsRead (unnamedExpression g) :=
  .bind (hg.call .expression) fun _ hv => .skip (.notAheadWord _) fun _ => .pure hv

theorem yields_namedExpression : Yields IsRead (namedExpression g) :=
  .alt (yields_assignmentExpression hg) <| .alt .diagnosis <|
  .alt (yields_unnamedExpression hg) .none

/-! ## Conditional and lambda expressions -/

theorem yields_conditional : Yields IsRead (conditional g) :=
  .spanning <| .bind (hg.call .disjunction) fun _ hbody => .skip (.word _) fun _ =>
    .bind (hg.call .disjunction) fun _ htest => .skip (.word _) fun _ =>
    .bind (hg.call .expression) fun _ horelse =>
    .pure ⟨.tree htest, .tree hbody, .tree horelse⟩

theorem yields_lambdaExpression : Yields IsRead (lambdaExpression g) := by
  refine .spanning <| .skip (.word _) fun _ =>
    .bind (yields_parameters hg .lambda).optional fun params hparams => .skip (.word _) fun _ =>
    .bind (hg.call .expression) fun _ hbody => .pure ⟨.tree ?_, .tree hbody⟩
  cases params with
  | none => exact isRead_noParameters
  | some v => exact hparams v rfl

theorem yields_expression : Yields IsRead (expression g) :=
  .alt .diagnosis <| .alt .diagnosis <| .alt (yields_conditional hg) <|
  .alt (hg.call .disjunction) <| .alt (hg.call .lambda) .none

theorem yields_yieldExpression : Yields IsRead (yieldExpression g) :=
  .alt (.spanning <| .skip (.word _) fun _ => .skip (.word _) fun _ =>
    .bind (hg.call .expression) fun _ hv => .pure (.tree hv)) <|
  .alt (.spanning <| .skip (.word _) fun _ => .bind (hg.call .starExpressions).orNullItem
    fun _ hv => .pure hv.isPart) .none

theorem yields_yieldOrStar : Yields IsRead (yieldOrStar g) :=
  .alt (yields_yieldExpression hg) <| .alt (hg.call .starExpressions) .none

/-- The description of mistakes that is a rule of its own finds nothing. -/
theorem yields_badNamedExpression : Yields IsRead (badNamedExpression g) :=
  .alt (.skip (hg.call .expression) fun _ => .skip (.word _) fun _ =>
    .skip (hg.call .expression) fun _ => .faultAt) <|
  .alt (.skip .name fun _ => .skip (.word _) fun _ => .skip (hg.call .bitwiseOr) fun _ =>
    .skip (.notAheadWord _) fun _ => .faultAt) <|
  .alt (.skip (.notAhead (P := fun _ => True) <|
      .alt (.skip (hg.call .list) fun _ => .pure trivial) <|
      .alt (.skip (hg.call .tuple) fun _ => .pure trivial) <|
      .alt (.skip (hg.call .generator) fun _ => .pure trivial) <|
      .alt (.skip (.anyWord _) fun _ => .pure trivial) .none) fun _ =>
    .skip (hg.call .bitwiseOr) fun _ => .skip (.word _) fun _ =>
    .skip (hg.call .bitwiseOr) fun _ => .skip (.notAheadWord _) fun _ => .faultAt) .none

/-! ## Operators -/

omit hg in
theorem yields_booleanOperation {operator : Word} {kind : NodeKind} {operand : Parser Value}
    (h : Yields IsRead operand) : Yields IsRead (booleanOperation operator kind operand) := by
  refine .skip .startPlace fun _ => .bind h fun first hfirst => ?_
  refine .bind (Yields.many (.skip (.word _) fun _ => h)) fun rest hrest => ?_
  split_ifs
  · exact .pure hfirst
  · refine .skip .stopPlace fun _ => .pure (.placed ⟨isPart_bare kind, .list ?_⟩)
    exact List.forall_mem_cons.2 ⟨.tree hfirst, fun v hv => .tree (hrest v hv)⟩

theorem yields_disjunction : Yields IsRead (disjunction g) :=
  yields_booleanOperation (hg.call .conjunction)

theorem yields_conjunction : Yields IsRead (conjunction g) :=
  yields_booleanOperation (hg.call .inversion)

theorem yields_inversion : Yields IsRead (inversion g) :=
  .alt (.spanning <| .skip (.word _) fun _ => .bind (hg.call .inversion) fun _ hv =>
    .pure ⟨isPart_bare _, .tree hv⟩) <|
  .alt (hg.call .comparison) .none

omit hg in
theorem yields_comparisonOperator : Yields (fun _ => True) comparisonOperator := by
  have hsingle (w : Word) (k : NodeKind) :
      Yields (fun _ => True) (do let _ ← word w; return k : Parser NodeKind) :=
    .skip (.word _) fun _ => .pure trivial
  exact .alt (hsingle _ _) <| .alt (hsingle _ _) <| .alt (hsingle _ _) <| .alt (hsingle _ _) <|
    .alt (hsingle _ _) <| .alt (hsingle _ _) <| .alt (.skip (.word _) fun _ => hsingle _ _) <|
    .alt (hsingle _ _) <| .alt (.skip (.word _) fun _ => hsingle _ _) <| .alt (hsingle _ _) .none

theorem yields_comparison : Yields IsRead (comparison g) := by
  refine .skip .startPlace fun _ => .bind (hg.call .bitwiseOr) fun left hleft => ?_
  refine .bind (Yields.many (P := fun p : NodeKind × Value => IsRead p.2) <|
    .skip yields_comparisonOperator fun _ => .bind (hg.call .bitwiseOr) fun _ hright =>
    .pure hright) fun pairs hpairs => ?_
  split_ifs
  · exact .pure hleft
  · refine .skip .stopPlace fun _ => .pure (.placed ⟨.tree hleft, .list ?_, .list ?_⟩)
    · exact List.forall_mem_map.2 fun p _ => .tree (.bare trivial)
    · exact List.forall_mem_map.2 fun p hp => .tree (hpairs p hp)

omit hg in
theorem yields_operatorOf (table : List (Word × NodeKind)) :
    Yields (fun _ => True) (operatorOf table) := .skip (.anyWord _) fun _ => .pure trivial

omit hg in
/-- Each operator puts a node around the operand on its left. -/
theorem yields_leftGrouped {operators : List (Word × NodeKind)} {operand : Parser Value}
    (h : Yields IsRead operand) : Yields IsRead (leftGrouped operators operand) :=
  .skip .startPlace fun _ => .bind h fun _ hfirst =>
    .grow (fun _ hleft => .skip (yields_operatorOf _) fun _ => .bind h fun _ hright =>
      .skip .stopPlace fun _ => .pure (.placed ⟨.tree hleft, isPart_bare _, .tree hright⟩)) hfirst

theorem yields_bitwiseOr : Yields IsRead (bitwiseOr g) := yields_leftGrouped (hg.call .bitwiseXor)

theorem yields_bitwiseXor : Yields IsRead (bitwiseXor g) := yields_leftGrouped (hg.call .bitwiseAnd)

theorem yields_bitwiseAnd : Yields IsRead (bitwiseAnd g) := yields_leftGrouped (hg.call .shift)

theorem yields_shiftExpression : Yields IsRead (shiftExpression g) :=
  yields_leftGrouped (hg.call .sum)

theorem yields_sumExpression : Yields IsRead (sumExpression g) := yields_leftGrouped (hg.call .term)

theorem yields_termExpression : Yields IsRead (termExpression g) :=
  yields_leftGrouped (hg.call .factor)

theorem yields_powerExpression : Yields IsRead (powerExpression g) := by
  refine .skip .startPlace fun _ => .bind (hg.call .awaitPrimary) fun base hbase => ?_
  refine .bind (.optional <| .skip (.word _) fun _ => hg.call .factor) fun exponent hexponent => ?_
  cases exponent with
  | none => exact .pure hbase
  | some v =>
    exact .skip .stopPlace fun _ =>
      .pure (.placed ⟨.tree hbase, isPart_bare _, .tree (hexponent v rfl)⟩)

theorem yields_factorExpression : Yields IsRead (factorExpression g) :=
  .alt (.spanning <| .skip (yields_operatorOf _) fun _ => .bind (hg.call .factor) fun _ hv =>
    .pure ⟨isPart_bare _, .tree hv⟩) <|
  .alt (yields_powerExpression hg) .none

/-! ## Primaries -/

theorem yields_awaitPrimary : Yields IsRead (awaitPrimary g) :=
  .alt (.spanning <| .skip (.word _) fun _ => .bind (hg.call .primary) fun _ hv =>
    .pure (.tree hv)) <|
  .alt (hg.call .primary) .none

theorem yields_slice : Yields IsRead (slice g) := by
  have hbound : Yields IsItem (orNull (g.call .expression)) :=
    Yields.orNullItem (hg.call .expression)
  exact .alt (.spanning <| .bind hbound fun _ hlower => .skip (.word _) fun _ =>
      .bind hbound fun _ hupper =>
      .bind (.orNull (.skip (.word _) fun _ => hbound) .null) fun _ hstep =>
      .pure ⟨hlower.isPart, hupper.isPart, hstep.isPart⟩) <|
    .alt (hg.call .namedExpression) .none

theorem yields_slices : Yields IsRead (slices g) :=
  .alt (.bind (yields_slice hg) fun _ hs => .skip (.notAheadWord _) fun _ => .pure hs) <|
  .alt (.spanning <| .bind (Yields.item <| .alt (yields_slice hg) <|
      .alt (yields_starredExpression hg) .none).commaList fun _ hfound =>
    .pure ⟨.list hfound, isPart_bare _⟩) .none

omit hg in
/-- The lists in the fields of an optional tree. -/
theorem isPart_itemsOf {a : Option Value} (h : ∀ v ∈ a, IsRead v) (field : String) :
    IsPart (.list ((a.map fun v => itemsOf v field).getD [])) := by
  cases a with
  | none => exact isPart_nil
  | some v => exact .list ((h v rfl).itemsOf field)

omit hg in
theorem isRead_callNode {func : Value} {arguments : Option Value} {start stop : Place}
    (hfunc : IsRead func) (h : ∀ v ∈ arguments, IsRead v) :
    IsRead (callNode func arguments start stop) :=
  .placed ⟨.tree hfunc, isPart_itemsOf h _, isPart_itemsOf h _⟩

/-- What the arguments between brackets amount to. -/
theorem yields_callArguments :
    Yields (fun a => ∀ v ∈ a, IsRead v)
      (enclosed .openParen .closeParen (optional (g.call .arguments))) :=
  .enclosed (Yields.optional (hg.call .arguments))

variable {start : Place} {v : Value} (hv : IsRead v)

include hv

omit hg in
theorem yields_attributeTrailer : Yields IsRead (attributeTrailer start v) :=
  .skip (.word _) fun _ => .skip .name fun _ => .skip .stopPlace fun _ =>
    .pure (.placed ⟨.tree hv, .constant rfl, isPart_bare _⟩)

theorem yields_generatorTrailer : Yields IsRead (generatorTrailer g start v) :=
  .bind (hg.call .generator) fun _ ha => .skip .stopPlace fun _ =>
    .pure (.placed ⟨.tree hv, .list (List.forall_mem_singleton.2 (.tree ha)), isPart_nil⟩)

theorem yields_callTrailer : Yields IsRead (callTrailer g start v) :=
  .bind (yields_callArguments hg) fun _ ha => .skip .stopPlace fun _ =>
    .pure (isRead_callNode hv ha)

theorem yields_subscriptTrailer : Yields IsRead (subscriptTrailer g start v) :=
  .bind (.enclosed (yields_slices hg)) fun _ hs => .skip .stopPlace fun _ =>
    .pure (.placed ⟨.tree hv, .tree hs, isPart_bare _⟩)

omit hv

theorem yields_primary : Yields IsRead (primary g) :=
  .skip .startPlace fun _ => .bind (hg.call .atom) fun _ hfirst =>
    .grow (fun _ hv => .alt (yields_attributeTrailer hv) <| .alt (yields_generatorTrailer hg hv) <|
      .alt (yields_callTrailer hg hv) <| .alt (yields_subscriptTrailer hg hv) .none) hfirst

end Parser

end SourceDocs.Source
