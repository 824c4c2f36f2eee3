import SourceDocs.Proofs.Source.Grammar.Expression
import SourceDocs.Source.Grammar.Target

/-!
# Atoms and targets are trees

Every rule for atoms, comprehensions, displays and the arguments of calls finds trees, and so does
every rule for what an assignment, a loop or a deletion may act on.
-/

namespace SourceDocs.Source

open SourceDocs.Tree

namespace Parser

variable {g : Grammar} (hg : g.Sound)

include hg

/-! ## Comprehensions -/

theorem yields_starTargets : Yields IsRead (starTargets g) := .tupleOf (hg.call .starTarget)

theorem yields_comprehensionLoop : Yields IsRead (comprehensionLoop g) := by
  have hhead : Yields IsRead (do
      let _ ← word .kFor
      let target ← starTargets g
      let _ ← word .kIn
      return target) :=
    .skip (.word _) fun _ => .bind (yields_starTargets hg) fun _ htarget =>
      .skip (.word _) fun _ => .pure htarget
  have hrest (isAsync : Int) (target : Value) (htarget : IsRead target) : Yields IsRead (do
      let iter ← g.call .disjunction
      let ifs ← many (do let _ ← word .kIf; g.call .disjunction)
      return bare .comprehension [target, iter, .list ifs, .int isAsync]) :=
    .bind (hg.call .disjunction) fun _ hiter =>
      .bind (Yields.many (.skip (.word _) fun _ => Yields.item (hg.call .disjunction)))
        fun _ hifs => .pure (.bare ⟨.tree htarget, .tree hiter, .list hifs, .constant rfl⟩)
  exact .committed (.skip (.word _) fun _ => hhead) (hrest 1)
    (.committed hhead (hrest 0) .diagnosis)

theorem yields_comprehensionLoops :
    Yields (fun found => ∀ v ∈ found, IsItem v) (comprehensionLoops g) :=
  (yields_comprehensionLoop hg).item.many1

theorem yields_comprehension {kind : NodeKind} {opening closing : Word} {x : Parser Value}
    (hx : Yields IsRead x) : Yields IsRead (comprehension g kind opening closing x) :=
  .alt (.spanning <| .enclosed <| .bind hx fun _ hv =>
    .bind (yields_comprehensionLoops hg) fun _ hloops => .pure ⟨.tree hv, .list hloops⟩) <|
  .alt .diagnosis .none

theorem yields_argumentExpression : Yields IsRead (argumentExpression g) :=
  .alt (yields_assignmentExpression hg) <| .alt (yields_unnamedExpression hg) .none

theorem yields_generatorExpression : Yields IsRead (generatorExpression g) :=
  yields_comprehension hg (yields_argumentExpression hg)

/-! ## Displays -/

omit hg in
/-- What holds of everything in an optional list. -/
theorem forall_mem_getD {α : Type} {P : α → Prop} {found : Option (List α)}
    (h : ∀ vs ∈ found, ∀ v ∈ vs, P v) : ∀ v ∈ found.getD [], P v := by
  cases found with
  | none => exact List.forall_mem_nil _
  | some vs => exact h vs rfl

omit hg in
/-- The list that optional items amount to. -/
theorem isPart_getD {found : Option (List Value)} (h : ∀ vs ∈ found, ∀ v ∈ vs, IsItem v) :
    IsPart (.list (found.getD [])) := .list (forall_mem_getD h)

theorem yields_listDisplay : Yields IsRead (listDisplay g) :=
  .spanning <| .bind (.enclosed (yields_starNamedExpressions hg).optional) fun _ hfound =>
    .pure ⟨isPart_getD hfound, isPart_bare _⟩

omit hg in
/-- An item in front of optional ones. -/
theorem forall_mem_cons_getD {first : Value} {rest : Option (List Value)} (hfirst : IsRead first)
    (h : ∀ vs ∈ rest, ∀ v ∈ vs, IsItem v) : ∀ v ∈ first :: rest.getD [], IsItem v :=
  List.forall_mem_cons.2 ⟨.tree hfirst, forall_mem_getD h⟩

theorem yields_tupleDisplay : Yields IsRead (tupleDisplay g) := by
  refine .spanning <| .bind (.enclosed <| .optional (P := fun vs => ∀ v ∈ vs, IsItem v) ?_)
    fun _ hfound => .pure ⟨isPart_getD hfound, isPart_bare _⟩
  exact .bind (yields_starNamedExpression hg) fun _ hfirst => .skip (.word _) fun _ =>
    .bind (yields_starNamedExpressions hg).optional fun _ hrest =>
    .pure (forall_mem_cons_getD hfirst hrest)

theorem yields_setDisplay : Yields IsRead (setDisplay g) :=
  .spanning <| .bind (.enclosed (yields_starNamedExpressions hg)) fun _ hfound =>
    .pure (.list hfound)

theorem yields_keyValue : Yields (fun e => IsRead e.1 ∧ IsRead e.2) (keyValue g) :=
  .bind (hg.call .expression) fun _ hk => .skip (.word _) fun _ =>
    .bind (hg.call .expression) fun _ hv => .pure ⟨hk, hv⟩

theorem yields_entry : Yields IsPair (entry g) :=
  .alt (.skip (.word _) fun _ => .bind (hg.call .bitwiseOr) fun _ hv => .pure ⟨.null, .tree hv⟩) <|
  .alt ((yields_keyValue hg).mono fun _ h => ⟨.tree h.1, .tree h.2⟩) .none

theorem yields_badEntryValue {P : Value → Prop} : Yields P (badEntryValue g) :=
  .alt (.skip (hg.call .expression) fun _ => .skip (.word _) fun _ => .skip (.word _) fun _ =>
    .skip (hg.call .bitwiseOr) fun _ => .faultAt) <|
  .alt (.skip (hg.call .expression) fun _ => .skip (.word _) fun _ =>
    .skip (.aheadWord _) fun _ => .faultAt) .none

theorem yields_badEntries {P : Value → Prop} : Yields P (badEntries g) :=
  .alt (.skip ((yields_entry hg).separated (.word _)) fun _ => .skip (.word _) fun _ =>
    .alt (.skip (hg.call .expression) fun _ => .skip (.notAheadWord _) fun _ => .faultAt) <|
    .alt (yields_badEntryValue hg) .none) <|
  .alt (yields_badEntryValue hg) .none

theorem yields_dictDisplay : Yields IsRead (dictDisplay g) :=
  .alt (.spanning <| .bind (.enclosed (yields_entry hg).commaList.optional) fun _ hfound =>
    .pure ⟨isPart_fst (forall_mem_getD hfound), isPart_snd (forall_mem_getD hfound)⟩) <|
  .alt (.enclosed (yields_badEntries hg)) .none

theorem yields_dictComprehension : Yields IsRead (dictComprehension g) :=
  .alt (.spanning <| .enclosed <| .bind (yields_keyValue hg) fun _ hkv =>
    .bind (yields_comprehensionLoops hg) fun _ hloops =>
    .pure ⟨.tree hkv.1, .tree hkv.2, .list hloops⟩) <|
  .alt .diagnosis .none

theorem yields_group : Yields IsRead (group g) :=
  .alt (.enclosed <| .alt (yields_yieldExpression hg) <| .alt (hg.call .namedExpression) .none) <|
  .alt .diagnosis .none

/-! ## Atoms -/

theorem yields_strings : Yields IsRead (strings g) := by
  refine .skip (Yields.ofKind _).many1 fun tokens => ?_
  have htree := gives_stringLiteral hg.embedded tokens
  split
  next v hread => exact .pure (htree v hread)
  next => exact .faultHere
  next => exact .faultAt
  next => exact fun _ _ _ _ => trivial

omit hg in
theorem yields_number : Yields IsRead number := by
  refine .skip (.ofKind _) fun t => ?_
  split
  next v hread => exact .pure (.placed ⟨.constant (isConstant_numberLiteral hread), .constant rfl⟩)
  next => exact .faultAt

omit hg in
theorem yields_constantWord : Yields IsRead constantWord := by
  refine .skip (.anyWord _) fun t => .pure (.placed ⟨.constant ?_, .constant rfl⟩)
  split <;> rfl

theorem yields_atom : Yields IsRead (atom g) := by
  refine .skip .peek fun t => ?_
  split
  · exact .nameIn _
  · exact hg.call .strings
  · exact yields_number
  split
  any_goals exact yields_constantWord
  · exact .alt (hg.call .tuple) <| .alt (yields_group hg) <| .alt (hg.call .generator) .none
  · exact .alt (hg.call .list) <| .alt (yields_comprehension hg (hg.call .namedExpression)) .none
  · exact .alt (yields_dictDisplay hg) <| .alt (yields_setDisplay hg) <|
      .alt (yields_dictComprehension hg) <|
      .alt (yields_comprehension hg (hg.call .namedExpression)) .none
  · exact .skip .advance fun _ => .pure (.placed ⟨.constant rfl, .constant rfl⟩)
  · exact .fail

/-! ## Arguments -/

theorem yields_keywordArgument : Yields IsRead (keywordArgument g) :=
  .spanning <| .skip .name fun _ => .skip (.word _) fun _ => .bind (hg.call .expression) fun _ hv =>
    .pure ⟨.constant rfl, .tree hv⟩

theorem yields_keywordOrStarred : Yields IsRead (keywordOrStarred g) :=
  .alt .diagnosis <| .alt (yields_keywordArgument hg) <| .alt (yields_starredExpression hg) .none

theorem yields_keywordOrDoubleStarred : Yields IsRead (keywordOrDoubleStarred g) :=
  .alt .diagnosis <| .alt (yields_keywordArgument hg) <|
  .alt (.spanning <| .skip (.word _) fun _ => .bind (hg.call .expression) fun _ hv =>
    .pure ⟨.constant rfl, .tree hv⟩) .none

theorem yields_keywordArguments :
    Yields (fun found => ∀ v ∈ found, IsItem v) (keywordArguments g) := by
  have hstarred := (yields_keywordOrStarred hg).item.separated (.word .comma)
  have hdoubleStarred := (yields_keywordOrDoubleStarred hg).item.separated (.word .comma)
  exact .alt (.bind hstarred fun _ ha => .skip (.word _) fun _ => .bind hdoubleStarred fun _ hb =>
      .pure (List.forall_mem_append.2 ⟨ha, hb⟩)) <|
    .alt hstarred <| .alt hdoubleStarred .none

theorem yields_positionalArguments : Yields IsRead (positionalArguments g) := by
  have hfilter {vs : List Value} (test : Value → Bool) (h : ∀ v ∈ vs, IsItem v) :
      ∀ v ∈ vs.filter test, IsItem v := fun v hv => h v (List.mem_filter.1 hv).1
  refine .alt (.spanning ?mixed) <| .alt (.spanning ?named) .none
  case mixed =>
    refine .bind (Yields.separated (P := IsItem) ?_ (.word _)) fun _ ha =>
      .bind (.optional (.skip (.word _) fun _ => yields_keywordArguments hg)) fun _ hb => .pure ?_
    · exact .alt (yields_starredExpression hg).item <|
        .alt (.bind (yields_argumentExpression hg) fun _ hv => .skip (.notAheadWord _) fun _ =>
          .pure (.tree hv)) .none
    · have hnamed := forall_mem_getD hb
      exact ⟨.constant rfl, .list (List.forall_mem_append.2 ⟨ha, hfilter _ hnamed⟩),
        .list (hfilter _ hnamed)⟩
  case named =>
    exact .bind (yields_keywordArguments hg) fun _ hb =>
      .pure ⟨.constant rfl, .list (hfilter _ hb), .list (hfilter _ hb)⟩

theorem yields_arguments : Yields IsRead (arguments g) :=
  .alt (.bind (hg.call .positionalArguments) fun _ ha => .skip (.optionalWord _) fun _ =>
    .skip (.aheadWord _) fun _ => .pure ha) <|
  .alt .diagnosis .none

/-! ## Targets -/

omit hg in
/-- What is found in front of certain words. -/
theorem yields_before {x : Parser Value} (hx : Yields IsRead x) (ws : List Word) :
    Yields IsRead (do
      let v ← x
      aheadWord ws
      return v) :=
  .bind hx fun _ hv => .skip (.aheadWord _) fun _ => .pure hv

theorem yields_targetPrimary : Yields IsRead (targetPrimary g) :=
  .skip .startPlace fun _ => .bind (yields_before (hg.call .atom) _) fun _ hfirst =>
    .grow (fun _ hv => .alt (yields_before (yields_attributeTrailer hv) _) <|
      .alt (yields_before (yields_subscriptTrailer hg hv) _) <|
      .alt (yields_before (yields_generatorTrailer hg hv) _) <|
      .alt (yields_before (yields_callTrailer hg hv) _) .none) hfirst

theorem yields_memberTarget (context : NodeKind) : Yields IsRead (memberTarget g context) :=
  .skip .startPlace fun _ =>
    .alt (.bind (hg.call .targetPrimary) fun _ hv => .skip (.word _) fun _ => .skip .name fun _ =>
      .skip (.notAheadWord _) fun _ => .skip .stopPlace fun _ =>
      .pure (.placed ⟨.tree hv, .constant rfl, isPart_bare _⟩)) <|
    .alt (.bind (hg.call .targetPrimary) fun _ hv => .bind (.enclosed (yields_slices hg))
      fun _ hs => .skip (.notAheadWord _) fun _ => .skip .stopPlace fun _ =>
      .pure (.placed ⟨.tree hv, .tree hs, isPart_bare _⟩)) .none

theorem yields_starTarget : Yields IsRead (starTarget g) :=
  .alt (.spanning <| .skip (.word _) fun _ => .skip (.notAheadWord _) fun _ =>
    .bind (hg.call .starTarget) fun _ hv => .pure ⟨.tree (hv.withContext _), isPart_bare _⟩) <|
  .alt (hg.call .starAtomTarget) .none

theorem yields_tupleTargets : Yields (fun found => ∀ v ∈ found, IsItem v) (tupleTargets g) := by
  refine .bind (hg.call .starTarget) fun _ hfirst =>
    .bind (Yields.many (.skip (.word _) fun _ => Yields.item (hg.call .starTarget)))
      fun _ hrest => ?_
  have hall := List.forall_mem_cons.2 ⟨IsItem.tree hfirst, hrest⟩
  split_ifs
  · exact .skip (.word _) fun _ => .pure hall
  · exact .skip (.optionalWord _) fun _ => .pure hall

theorem yields_atomTarget : Yields IsRead (atomTarget g) :=
  .alt (.nameIn _) <|
  .alt (.bind (.enclosed (hg.call .starAtomTarget)) fun _ hv => .pure (hv.withContext _)) <|
  .alt (.spanning <| .bind (.enclosed (yields_tupleTargets hg).optional) fun _ hfound =>
    .pure ⟨isPart_getD hfound, isPart_bare _⟩) <|
  .alt (.spanning <| .bind (.enclosed (Yields.item (hg.call .starTarget)).commaList.optional)
    fun _ hfound => .pure ⟨isPart_getD hfound, isPart_bare _⟩) .none

theorem yields_starAtomTarget : Yields IsRead (starAtomTarget g) :=
  .alt (yields_memberTarget hg _) <| .alt (yields_atomTarget hg) .none

theorem yields_singleTarget : Yields IsRead (singleTarget g) :=
  .alt (yields_memberTarget hg _) <| .alt (.nameIn _) <|
  .alt (.enclosed (hg.call .singleTarget)) .none

theorem yields_deletionTargets :
    Yields (fun found => ∀ v ∈ found, IsItem v) (deletionTargets g) :=
  (Yields.item (hg.call .deletionTarget)).commaList

theorem yields_deletionTarget : Yields IsRead (deletionTarget g) :=
  .alt (yields_memberTarget hg _) <|
  .alt (.nameIn _) <|
  .alt (.bind (.enclosed (hg.call .deletionTarget)) fun _ hv => .pure (hv.withContext _)) <|
  .alt (.spanning <| .bind (.enclosed (yields_deletionTargets hg).optional) fun _ hfound =>
    .pure ⟨isPart_getD hfound, isPart_bare _⟩) <|
  .alt (.spanning <| .bind (.enclosed (yields_deletionTargets hg).optional) fun _ hfound =>
    .pure ⟨isPart_getD hfound, isPart_bare _⟩) .none

theorem yields_badAnnotatedTarget : Yields IsRead (badAnnotatedTarget g) :=
  .alt (hg.call .list) <| .alt (hg.call .tuple) <|
  .alt (.enclosed (hg.call .badAnnotatedTarget)) .none

end Parser

end SourceDocs.Source
