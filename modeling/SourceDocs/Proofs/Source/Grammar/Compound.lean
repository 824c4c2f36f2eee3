import SourceDocs.Proofs.Source.Grammar.Pattern
import SourceDocs.Proofs.Source.Grammar.Simple
import SourceDocs.Source.Grammar.Compound

/-!
# Statements are trees

Every rule for statements with blocks finds trees, a block is a list of trees, and a whole file is
the tree of a module (`yields_file`).
-/

namespace SourceDocs.Source

open SourceDocs.Tree

namespace Parser

variable {g : Grammar} (hg : g.Sound)

include hg

/-! ## Blocks -/

theorem yields_blockItems : Yields IsBlock (blockItems g) := hg.call .block

theorem yields_block : Yields IsBlock (block g) :=
  .alt (.skip (.ofKind _) fun _ => .skip (.ofKind _) fun _ =>
    .bind (hg.call .statements) fun _ hbody => .skip (.ofKind _) fun _ => .pure hbody) <|
  .alt (.bind (yields_simpleStatements hg) fun _ hfound => .pure (.list hfound)) <|
  .alt .diagnosis .none

theorem yields_elseBlock : Yields IsBlock (elseBlock g) :=
  .alt .diagnosis <|
  .alt (.skip (.word _) fun _ => .skip (.required _) fun _ => yields_blockItems hg) .none

theorem yields_finallyBlock : Yields IsBlock (finallyBlock g) :=
  .alt .diagnosis <|
  .alt (.skip (.word _) fun _ => .skip (.required _) fun _ => yields_blockItems hg) .none

omit hg in
theorem yields_orEmpty {x : Parser Value} (hx : Yields IsBlock x) : Yields IsBlock (orEmpty x) := by
  refine .bind hx.optional fun found hfound => .pure ?_
  cases found with
  | none => exact .list (List.forall_mem_nil _)
  | some v => exact hfound v rfl

/-! ## Conditions and loops -/

theorem yields_conditionFrom (w : Word) : Yields IsRead (conditionFrom g w) := by
  have hhead : Yields IsRead (do let _ ← word w; g.call .namedExpression) :=
    .skip (.word _) fun _ => hg.call .namedExpression
  exact .alt .diagnosis <|
    .alt (.spanning <| .bind hhead fun _ htest => .skip (.word _) fun _ =>
      .bind (yields_blockItems hg) fun _ hbody => .bind (hg.call .elifClause) fun _ hother =>
      .pure ⟨.tree htest, hbody.isPart, .list (List.forall_mem_singleton.2 (.tree hother))⟩) <|
    .alt (.spanning <| .bind hhead fun _ htest => .skip (.word _) fun _ =>
      .bind (yields_blockItems hg) fun _ hbody =>
      .bind (yields_orEmpty (yields_elseBlock hg)) fun _ horelse =>
      .pure ⟨.tree htest, hbody.isPart, horelse.isPart⟩) .none

theorem yields_whileStatement : Yields IsRead (whileStatement g) :=
  .alt .diagnosis <|
  .alt (.spanning <|
    .bind (.skip (.word _) fun _ => hg.call .namedExpression) fun _ htest =>
    .skip (.word _) fun _ => .bind (yields_blockItems hg) fun _ hbody =>
    .bind (yields_orEmpty (yields_elseBlock hg)) fun _ horelse =>
    .pure ⟨.tree htest, hbody.isPart, horelse.isPart⟩) .none

theorem yields_forStatement : Yields IsRead (forStatement g) := by
  refine .skip .startPlace fun start => ?_
  extract_lets head rest
  have hhead : Yields IsRead head :=
    .skip (.word _) fun _ => .bind (yields_starTargets hg) fun _ htarget =>
      .skip (.word _) fun _ => .pure htarget
  have hrest (kind : NodeKind) (target : Value) (htarget : IsRead target) :
      Yields IsRead (rest kind target) :=
    .bind (hg.call .starExpressions) fun _ hiter => .skip (.word _) fun _ =>
      .bind (yields_blockItems hg) fun _ hbody =>
      .bind (yields_orEmpty (yields_elseBlock hg)) fun _ horelse => .skip .stopPlace fun _ =>
      .pure (.placed ⟨.tree htarget, .tree hiter, hbody.isPart, horelse.isPart, .constant rfl⟩)
  exact .alt .diagnosis <|
    .alt (.committed hhead (hrest _)
      (.committed (.skip (.word _) fun _ => hhead) (hrest _) .diagnosis)) .none

/-! ## Contexts -/

theorem yields_contextItem : Yields IsRead (contextItem g) :=
  .alt (.bind (hg.call .expression) fun _ hv => .skip (.word _) fun _ =>
    .bind (hg.call .starTarget) fun _ htarget => .skip (.aheadWord _) fun _ =>
    .pure (.bare ⟨.tree hv, .tree htarget⟩)) <|
  .alt .diagnosis <|
  .alt (.bind (hg.call .expression) fun _ hv => .pure (.bare ⟨.tree hv, .constant rfl⟩)) .none

theorem yields_withStatement : Yields IsRead (withStatement g) := by
  refine .skip .startPlace fun start => ?_
  extract_lets items inBrackets rest asyncRest
  have hitems : Yields (fun found => ∀ v ∈ found, IsItem v) items :=
    (yields_contextItem hg).item.separated (.word _)
  have hinBrackets : Yields (fun found => ∀ v ∈ found, IsItem v) inBrackets :=
    .enclosed (yields_contextItem hg).item.commaList
  have hrest (kind : NodeKind) {x : Parser (List Value)}
      (hx : Yields (fun found => ∀ v ∈ found, IsItem v) x) : Yields IsRead (rest kind x) :=
    .skip (.word _) fun _ => .bind hx fun _ hfound => .skip (.word _) fun _ =>
      .bind (yields_blockItems hg) fun _ hbody => .skip .stopPlace fun _ =>
      .pure (.placed ⟨.list hfound, hbody.isPart, .constant rfl⟩)
  exact .alt .diagnosis <| .alt (hrest _ hinBrackets) <| .alt (hrest _ hitems) <|
    .alt (.skip (.word _) fun _ => hrest _ hinBrackets) <|
    .alt (.skip (.word _) fun _ => hrest _ hitems) <| .alt .diagnosis .none

/-! ## Handlers -/

omit hg in
theorem yields_boundName : Yields IsItem boundName :=
  .orNull (.skip (.word _) fun _ => yields_identifier) .null

theorem yields_handlerHead (starred : Bool) :
    Yields (fun head => ∀ v ∈ head, IsPart v) (handlerHead g starred) := by
  have hrest : Yields (fun head => ∀ v ∈ head, IsPart v) (do
      let v ← g.call .expression
      let n ← boundName
      return [v, n]) :=
    .bind (hg.call .expression) fun _ hv => .bind yields_boundName fun _ hn =>
      .pure (List.forall_mem_cons.2 ⟨.tree hv, List.forall_mem_singleton.2 hn.isPart⟩)
  refine .skip (.word _) fun _ => ?_
  cases starred with
  | false => exact hrest
  | true => exact .skip (.word _) fun _ => hrest

theorem yields_typedHandler (starred : Bool) : Yields IsRead (typedHandler g starred) :=
  .spanning <| .bind (yields_handlerHead hg starred) fun _ hhead => .skip (.word _) fun _ =>
    .bind (yields_blockItems hg) fun _ hbody => .pure <| List.forall_iff_forall_mem.2 <|
    List.forall_mem_append.2 ⟨hhead, List.forall_mem_singleton.2 hbody.isPart⟩

theorem yields_handler : Yields IsRead (handler g) :=
  .alt .diagnosis <| .alt (yields_typedHandler hg _) <|
  .alt (.spanning <| .skip (.word _) fun _ => .skip (.word _) fun _ =>
    .bind (yields_blockItems hg) fun _ hbody =>
    .pure ⟨.constant rfl, .constant rfl, hbody.isPart⟩) <|
  .alt .diagnosis .none

theorem yields_groupHandler : Yields IsRead (groupHandler g) :=
  .alt .diagnosis <| .alt (yields_typedHandler hg _) <| .alt .diagnosis .none

theorem yields_tryStatement : Yields IsRead (tryStatement g) := by
  unfold tryStatement
  extract_lets head withHandlers
  have hhead : Yields IsBlock head :=
    .skip (.word _) fun _ => .skip (.required _) fun _ => yields_blockItems hg
  have hhandlers (kind : NodeKind) {one : Parser Value} (h : Yields IsRead one) :
      Yields IsRead (withHandlers kind one) :=
    .spanning <| .bind hhead fun _ hbody => .bind h.item.many1 fun _ hfound =>
      .bind (yields_orEmpty (yields_elseBlock hg)) fun _ horelse =>
      .bind (yields_orEmpty (yields_finallyBlock hg)) fun _ hlast =>
      .pure ⟨hbody.isPart, .list hfound, horelse.isPart, hlast.isPart⟩
  exact .alt .diagnosis <|
    .alt (.spanning <| .bind hhead fun _ hbody => .bind (yields_finallyBlock hg) fun _ hlast =>
      .pure ⟨hbody.isPart, isPart_nil, isPart_nil, hlast.isPart⟩) <|
    .alt (hhandlers _ (yields_handler hg)) <| .alt (hhandlers _ (yields_groupHandler hg)) .none

/-! ## Cases -/

theorem yields_matchSubject : Yields IsRead (matchSubject g) :=
  .alt (.spanning <| .bind (yields_starNamedExpression hg) fun _ hfirst =>
    .skip (.word _) fun _ => .bind (yields_starNamedExpressions hg).optional fun _ hrest =>
    .pure ⟨.list (forall_mem_cons_getD hfirst hrest), isPart_bare _⟩) <|
  .alt (hg.call .namedExpression) .none

theorem yields_caseBlock : Yields IsRead (caseBlock g) := by
  unfold caseBlock
  extract_lets head
  have hhead : Yields (fun values => ∀ v ∈ values, IsPart v) head :=
    .skip (.word _) fun _ => .bind (yields_patterns hg) fun _ hp =>
      .bind (.orNullItem (.skip (.word _) fun _ => hg.call .namedExpression)) fun _ hguard =>
      .pure (List.forall_mem_cons.2 ⟨.tree hp, List.forall_mem_singleton.2 hguard.isPart⟩)
  exact .alt .diagnosis <|
    .alt (.bind hhead fun _ hvalues => .skip (.word _) fun _ =>
      .bind (yields_blockItems hg) fun _ hbody =>
      .pure <| .bare <| List.forall_iff_forall_mem.2 <|
        List.forall_mem_append.2 ⟨hvalues, List.forall_mem_singleton.2 hbody.isPart⟩) .none

theorem yields_matchStatement : Yields IsRead (matchStatement g) :=
  .alt (.spanning <| .bind (.skip (.word _) fun _ => yields_matchSubject hg) fun _ hsubject =>
    .skip (.word _) fun _ => .skip (.ofKind _) fun _ => .skip (.ofKind _) fun _ =>
    .bind (yields_caseBlock hg).item.many1 fun _ hcases => .skip (.ofKind _) fun _ =>
    .pure ⟨.tree hsubject, .list hcases⟩) <|
  .alt .diagnosis .none

/-! ## Definitions -/

theorem yields_decorators : Yields (fun found => ∀ v ∈ found, IsItem v) (decorators g) :=
  Yields.many1 <| .skip (.word _) fun _ => .bind (hg.call .namedExpression) fun _ hv =>
    .skip (.ofKind _) fun _ => .pure (.tree hv)

theorem yields_decorated {definition : List Value → Parser Value}
    (h : ∀ decorators, (∀ v ∈ decorators, IsItem v) → Yields IsRead (definition decorators)) :
    Yields IsRead (decorated g definition) :=
  .alt (.bind (yields_decorators hg) h) <| .alt (h [] (List.forall_mem_nil _)) .none

variable {decorators : List Value} (hdecorators : ∀ v ∈ decorators, IsItem v)

include hdecorators

theorem yields_functionDefinition : Yields IsRead (functionDefinition g decorators) := by
  unfold functionDefinition
  extract_lets returns params definition
  have hreturns : Yields IsItem returns :=
    .orNullItem (.skip (.word _) fun _ => hg.call .expression)
  have hparams : Yields IsRead params := by
    refine .bind (yields_parameters hg .function).optional fun found hfound => .pure ?_
    cases found with
    | none => exact isRead_noParameters
    | some v => exact hfound v rfl
  have hdefinition (kind : NodeKind) {start : Parser Unit} (h : Yields (fun _ => True) start) :
      Yields IsRead (definition kind start) :=
    .spanning <| .skip h fun _ => .skip (.word _) fun _ => .skip .name fun _ =>
      .skip (.required _) fun _ => .bind hparams fun _ hp => .skip (.word _) fun _ =>
      .bind hreturns fun _ hr => .skip (.required _) fun _ =>
      .bind (yields_blockItems hg) fun _ hbody =>
      .pure ⟨.constant rfl, .tree hp, hbody.isPart, .list hdecorators, hr.isPart, .constant rfl⟩
  exact .alt .diagnosis <| .alt (hdefinition _ (.pure trivial)) <|
    .alt (hdefinition _ (.skip (.word _) fun _ => .pure trivial)) .none

theorem yields_classDefinition : Yields IsRead (classDefinition g decorators) := by
  unfold classDefinition
  extract_lets head
  have hhead : Yields (fun r : Token × Option Value => ∀ v ∈ r.2, IsRead v) head := by
    refine .skip (.word _) fun _ => .skip .name fun _ =>
      .bind (yields_callArguments hg).optional fun found hfound => .pure ?_
    cases found with
    | none => exact nofun
    | some a => exact hfound a rfl
  exact .alt .diagnosis <|
    .alt (.spanning <| .bind hhead fun _ ha => .skip (.word _) fun _ =>
      .bind (yields_blockItems hg) fun _ hbody =>
      .pure ⟨.constant rfl, isPart_itemsOf ha _, isPart_itemsOf ha _, hbody.isPart,
        .list hdecorators⟩) .none

omit hdecorators

/-! ## Statements -/

theorem yields_compoundStatement : Yields IsRead (compoundStatement g) := by
  have hguarded (ws : List Word) {x : Parser Value} (hx : Yields IsRead x) :
      Yields IsRead (do aheadWord ws; x) := .skip (.aheadWord _) fun _ => hx
  exact .alt (hguarded _ (yields_decorated hg fun _ => yields_functionDefinition hg)) <|
    .alt (hguarded _ (yields_conditionFrom hg _)) <|
    .alt (hguarded _ (yields_decorated hg fun _ => yields_classDefinition hg)) <|
    .alt (hguarded _ (yields_withStatement hg)) <|
    .alt (hguarded _ (yields_forStatement hg)) <|
    .alt (hguarded _ (yields_tryStatement hg)) <|
    .alt (hguarded _ (yields_whileStatement hg)) <|
    .alt (yields_matchStatement hg) .none

theorem yields_statement : Yields IsBlock (statement g) :=
  .alt (.bind (yields_compoundStatement hg) fun _ hs =>
    .pure (.list (List.forall_mem_singleton.2 hs))) <|
  .alt (.bind (yields_simpleStatements hg) fun _ hfound => .pure (.list hfound)) .none

theorem yields_statements : Yields IsBlock (statements g) := by
  refine .bind (Yields.many1 (hg.call .statement)) fun found hfound => .pure (.list fun s hs => ?_)
  obtain ⟨block, hblock, hmem⟩ := List.mem_flatMap.1 hs
  exact IsBlock.items (hfound block hblock) s hmem

theorem yields_file : Yields IsRead (file g) :=
  .bind (yields_orEmpty (hg.call .statements)) fun _ hbody => .skip (.ofKind _) fun _ =>
    .pure (.bare ⟨hbody.isPart, isPart_nil⟩)

end Parser

end SourceDocs.Source
