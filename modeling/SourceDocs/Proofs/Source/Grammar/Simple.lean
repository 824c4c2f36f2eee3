import SourceDocs.Proofs.Source.Grammar.Atom
import SourceDocs.Source.Grammar.Simple

/-!
# Simple statements are trees

Every rule for statements that stand on one line finds trees: assignments, imports, and the
statements that begin with a keyword of their own.
-/

namespace SourceDocs.Source

open SourceDocs.Tree

namespace Parser

variable {g : Grammar} (hg : g.Sound)

include hg

/-! ## Assignments -/

theorem yields_annotatedAssignment {target : Parser Value} (h : Yields IsRead target)
    (simple : Int) : Yields IsRead (annotatedAssignment g target simple) :=
  .spanning <| .bind h fun _ ht => .skip (.word _) fun _ =>
    .bind (hg.call .expression) fun _ hannotation =>
    .bind (.orNullItem (.skip (.word _) fun _ => yields_yieldOrStar hg)) fun _ hv =>
    .pure ⟨.tree ht, .tree hannotation, hv.isPart, .constant rfl⟩

theorem yields_targetEquals : Yields IsItem (targetEquals g) :=
  .bind (yields_starTargets hg) fun _ ht => .skip (.word _) fun _ => .pure (.tree ht)

theorem yields_assignment : Yields IsRead (assignment g) := by
  refine .alt ?named <| .alt ?member <| .alt ?plain <| .alt ?augmented .none
  case named => exact yields_annotatedAssignment hg (.nameIn _) _
  case member =>
    exact yields_annotatedAssignment hg
      (.alt (.enclosed (hg.call .singleTarget)) <| .alt (yields_memberTarget hg _) .none) _
  case plain =>
    exact .spanning <| .bind (yields_targetEquals hg).many1 fun _ htargets =>
      .bind (yields_yieldOrStar hg) fun _ hv => .skip (.notAheadWord _) fun _ =>
      .pure ⟨.list htargets, .tree hv, .constant rfl⟩
  case augmented =>
    refine .skip .startPlace fun _ =>
      .committed (P := fun p : Value × NodeKind => IsRead p.1) ?_ (fun p htarget => ?_) .diagnosis
    · exact .bind (hg.call .singleTarget) fun _ htarget => .skip (yields_operatorOf _) fun _ =>
        .pure htarget
    · exact .bind (yields_yieldOrStar hg) fun _ hv => .skip .stopPlace fun _ =>
        .pure (.placed ⟨.tree htarget, isPart_bare _, .tree hv⟩)

/-! ## Imports -/

omit hg in
theorem yields_identifier : Yields IsItem (do return identifier (← name)) :=
  .skip .name fun _ => .pure (.text _)

omit hg in
theorem yields_dottedName : Yields IsItem dottedName :=
  .skip (yields_identifier.separated (.word _)) fun _ => .pure (.text _)

omit hg in
theorem yields_importedName {x : Parser Value} (hx : Yields IsItem x) :
    Yields IsRead (importedName x) :=
  .spanning <| .bind hx fun _ himported =>
    .bind (.orNull (.skip (.word _) fun _ => yields_identifier) .null) fun _ hother =>
    .pure ⟨himported.isPart, hother.isPart⟩

omit hg in
theorem yields_importedNames : Yields (fun found => ∀ v ∈ found, IsItem v) importedNames :=
  (yields_importedName yields_identifier).item.separated (.word _)

omit hg in
theorem yields_importTargets : Yields (fun found => ∀ v ∈ found, IsItem v) importTargets :=
  .alt (.enclosed <| .bind yields_importedNames fun _ hfound => .skip (.optionalWord _) fun _ =>
    .pure hfound) <|
  .alt (.bind yields_importedNames fun _ hfound => .skip (.notAheadWord _) fun _ =>
    .pure hfound) <|
  .alt (.bind (.spanning <| .skip (.word _) fun _ => .pure ⟨.constant rfl, .constant rfl⟩)
    fun _ hv => .pure (List.forall_mem_singleton.2 (.tree hv))) <|
  .alt .diagnosis .none

omit hg in
theorem yields_importStatement : Yields IsRead importStatement := by
  have hdot : Yields (fun _ => True) (anyWord [.dot, .dots]) := .anyWord _
  refine .alt ?plain <| .alt ?named <| .alt ?relative .none
  case plain =>
    exact .spanning <| .skip (.word _) fun _ =>
      .bind ((yields_importedName yields_dottedName).item.separated (.word _)) fun _ hfound =>
      .pure (.list hfound)
  case named =>
    exact .spanning <| .skip (.word _) fun _ =>
      .skip (.skip hdot.many fun _ => .pure (P := fun _ => True) trivial) fun _ =>
      .bind yields_dottedName fun _ hm => .skip (.word _) fun _ =>
      .bind yields_importTargets fun _ hfound => .pure ⟨hm.isPart, .list hfound, .constant rfl⟩
  case relative =>
    exact .spanning <| .skip (.word _) fun _ =>
      .skip (.skip hdot.many1 fun _ => .pure (P := fun _ => True) trivial) fun _ =>
      .skip (.word _) fun _ => .bind yields_importTargets fun _ hfound =>
      .pure ⟨.constant rfl, .list hfound, .constant rfl⟩

/-! ## Statements with a keyword of their own -/

omit hg in
theorem yields_wordStatement (w : Word) (kind : NodeKind) : Yields IsRead (wordStatement w kind) :=
  .spanning <| .skip (.word _) fun _ => .pure trivial

omit hg in
theorem yields_scopeStatement (w : Word) (kind : NodeKind) :
    Yields IsRead (scopeStatement w kind) :=
  .spanning <| .skip (.word _) fun _ => .bind (yields_identifier.separated (.word _))
    fun _ hfound => .pure (.list hfound)

theorem yields_returnStatement : Yields IsRead (returnStatement g) :=
  .spanning <| .skip (.word _) fun _ => .bind (.orNullItem (hg.call .starExpressions))
    fun _ hv => .pure hv.isPart

theorem yields_raiseStatement : Yields IsRead (raiseStatement g) :=
  .alt (.spanning <| .skip (.word _) fun _ => .bind (hg.call .expression) fun _ hv =>
    .bind (.orNullItem (.skip (.word _) fun _ => hg.call .expression)) fun _ hcause =>
    .pure ⟨.tree hv, hcause.isPart⟩) <|
  .alt (yields_wordStatement _ _) .none

theorem yields_deleteStatement : Yields IsRead (deleteStatement g) := by
  have hend : Yields (fun _ => True)
      (firstOf [do let _ ← word .semicolon, do let _ ← ofKind .newline]) :=
    .alt (.skip (.word _) fun _ => .pure trivial) <|
    .alt (.skip (.ofKind _) fun _ => .pure trivial) .none
  exact .alt (.spanning <| .skip (.word _) fun _ => .bind (yields_deletionTargets hg)
    fun _ htargets => .skip hend.ahead fun _ => .pure (.list htargets)) <|
    .alt .diagnosis .none

theorem yields_assertStatement : Yields IsRead (assertStatement g) :=
  .spanning <| .skip (.word _) fun _ => .bind (hg.call .expression) fun _ htest =>
    .bind (.orNullItem (.skip (.word _) fun _ => hg.call .expression)) fun _ hmessage =>
    .pure ⟨.tree htest, hmessage.isPart⟩

omit hg in
theorem yields_expressionStatement {x : Parser Value} (hx : Yields IsRead x) :
    Yields IsRead (expressionStatement x) :=
  .spanning <| .bind hx fun _ hv => .pure (.tree hv)

theorem yields_simpleStatement : Yields IsRead (simpleStatement g) := by
  have hguarded (ws : List Word) {x : Parser Value} (hx : Yields IsRead x) :
      Yields IsRead (do aheadWord ws; x) := .skip (.aheadWord _) fun _ => hx
  exact .alt (yields_assignment hg) <|
    .alt (yields_expressionStatement (hg.call .starExpressions)) <|
    .alt (hguarded _ (yields_returnStatement hg)) <|
    .alt (hguarded _ yields_importStatement) <|
    .alt (hguarded _ (yields_raiseStatement hg)) <|
    .alt (yields_wordStatement _ _) <|
    .alt (hguarded _ (yields_deleteStatement hg)) <|
    .alt (hguarded _ (yields_expressionStatement (yields_yieldExpression hg))) <|
    .alt (hguarded _ (yields_assertStatement hg)) <|
    .alt (yields_wordStatement _ _) <|
    .alt (yields_wordStatement _ _) <|
    .alt (hguarded _ (yields_scopeStatement _ _)) <|
    .alt (hguarded _ (yields_scopeStatement _ _)) .none

theorem yields_simpleStatements :
    Yields (fun found => ∀ v ∈ found, IsRead v) (simpleStatements g) :=
  .alt (.bind (hg.call .simpleStatement) fun _ hs => .skip (.notAheadWord _) fun _ =>
    .skip (.ofKind _) fun _ => .pure (List.forall_mem_singleton.2 hs)) <|
  .alt (.bind (Yields.separated (hg.call .simpleStatement) (.word _)) fun _ hfound =>
    .skip (.optionalWord _) fun _ => .skip (.ofKind _) fun _ => .pure hfound) .none

end Parser

end SourceDocs.Source
