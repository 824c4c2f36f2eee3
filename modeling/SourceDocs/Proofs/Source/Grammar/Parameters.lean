import SourceDocs.Proofs.Source.Parser
import SourceDocs.Source.Grammar.Parameters

/-!
# Parameters are trees

Parameters with their annotations and defaults are trees, and so is the node of all parameters of a
function or a lambda expression (`yields_parameters`).
-/

namespace SourceDocs.Source

open SourceDocs.Tree

namespace Parser

/-- The values of the parameters from a star on are items. -/
structure StarredParameters.Sound (s : StarredParameters) : Prop where
  collecting : IsItem s.collecting
  named : ∀ p ∈ s.named, IsPair p
  collectingNamed : IsItem s.collectingNamed

/-! ## The node of all parameters -/

theorem isRead_parametersNode {byPosition plain earlierDefaults : List Value}
    {defaults : List (Value × Value)} {starred : Option StarredParameters}
    (hbyPosition : ∀ v ∈ byPosition, IsItem v) (hplain : ∀ v ∈ plain, IsItem v)
    (hdefaults : ∀ p ∈ defaults, IsPair p) (hearlier : ∀ v ∈ earlierDefaults, IsItem v)
    (hstarred : ∀ s ∈ starred, s.Sound) :
    IsRead (parametersNode byPosition plain defaults earlierDefaults starred) := by
  have hs : (starred.getD {}).Sound := by
    cases starred with
    | none => exact ⟨.null, List.forall_mem_nil _, .null⟩
    | some s => exact hstarred s rfl
  have happend {xs ys : List Value} (hxs : ∀ v ∈ xs, IsItem v) (hys : ∀ v ∈ ys, IsItem v) :
      IsPart (.list (xs ++ ys)) := .list (List.forall_mem_append.2 ⟨hxs, hys⟩)
  exact .bare ⟨.list hbyPosition,
    happend hplain (List.forall_mem_map.2 fun p hp => (hdefaults p hp).1), hs.collecting.isPart,
    isPart_fst hs.named, isPart_snd hs.named, hs.collectingNamed.isPart,
    happend hearlier (List.forall_mem_map.2 fun p hp => (hdefaults p hp).2)⟩

theorem isRead_noParameters : IsRead noParameters := by
  have hnil := List.forall_mem_nil IsItem
  exact isRead_parametersNode hnil hnil (List.forall_mem_nil _) hnil fun _ hs => nomatch hs

/-! ## Single parameters -/

variable {g : Grammar} (hg : g.Sound) (form : ParameterForm)

include hg

theorem yields_parameter : Yields IsRead (parameter g form) := by
  refine .spanning (.skip .name fun t => ?_)
  cases form with
  | function =>
    exact .bind (.orNullItem (.skip (.word _) fun _ => hg.call .expression)) fun _ hannotation =>
      .pure ⟨.constant rfl, hannotation.isPart, .constant rfl⟩
  | lambda => exact .pure ⟨.constant rfl, .constant rfl, .constant rfl⟩

theorem yields_starAnnotatedParameter : Yields IsRead (starAnnotatedParameter g) :=
  .spanning <| .skip .name fun _ => .skip (.word _) fun _ =>
    .bind (hg.call .starExpression) fun _ hannotation =>
    .pure ⟨.constant rfl, .tree hannotation, .constant rfl⟩

omit hg in
theorem yields_parameterEnd : Yields (fun _ => True) (parameterEnd form) :=
  .alt (.skip (.word _) fun _ => .pure trivial) (.alt (.aheadWord _) .none)

theorem yields_defaultValue : Yields IsRead (defaultValue g) :=
  .skip (.word _) fun _ => .alt (hg.call .expression) (.alt .diagnosis .none)

theorem yields_plainParameter : Yields IsItem (plainParameter g form) :=
  .bind (yields_parameter hg form) fun _ hp => .skip (yields_parameterEnd form) fun _ =>
    .pure (.tree hp)

theorem yields_defaultParameter : Yields IsPair (defaultParameter g form) :=
  .bind (yields_parameter hg form) fun _ hp => .bind (yields_defaultValue hg) fun _ hd =>
    .skip (yields_parameterEnd form) fun _ => .pure ⟨.tree hp, .tree hd⟩

theorem yields_namedParameter : Yields IsPair (namedParameter g form) :=
  .bind (yields_parameter hg form) fun _ hp => .bind (yields_defaultValue hg).orNullItem fun _ hd =>
    .skip (yields_parameterEnd form) fun _ => .pure ⟨.tree hp, hd⟩

/-! ## Parameters before a slash -/

omit hg in
theorem yields_slash : Yields (fun _ => True) (slash form) :=
  .skip (.word _) fun _ => yields_parameterEnd form

theorem yields_plainBeforeSlash :
    Yields (fun found => ∀ v ∈ found, IsItem v) (plainBeforeSlash g form) :=
  .bind (yields_plainParameter hg form).many1 fun _ hfound => .skip (yields_slash form) fun _ =>
    .pure hfound

theorem yields_defaultsBeforeSlash :
    Yields (fun found => (∀ v ∈ found.1, IsItem v) ∧ ∀ p ∈ found.2, IsPair p)
      (defaultsBeforeSlash g form) :=
  .bind (yields_plainParameter hg form).many fun _ hplain =>
    .bind (yields_defaultParameter hg form).many1 fun _ hdefaults =>
    .skip (yields_slash form) fun _ => .pure ⟨hplain, hdefaults⟩

/-! ## Parameters from a star on -/

theorem yields_collectingNamed : Yields IsItem (collectingNamed g form) :=
  .alt .diagnosis <| .alt (.skip (.word _) fun _ => yields_plainParameter hg form) .none

theorem yields_starredParameters :
    Yields StarredParameters.Sound (starredParameters g form) := by
  have hrest := (yields_collectingNamed hg form).orNull .null
  have hnamed := yields_namedParameter hg form
  refine .alt .diagnosis <| .alt ?plain <| .alt ?annotated <| .alt ?byName <| .alt ?last .none
  case plain =>
    exact .skip (.word _) fun _ => .bind (yields_plainParameter hg form) fun _ hcollecting =>
      .bind hnamed.many fun _ hn => .bind hrest fun _ hr => .pure ⟨hcollecting, hn, hr⟩
  case annotated =>
    cases form with
    | function =>
      exact .skip (.word _) fun _ => .bind (yields_starAnnotatedParameter hg) fun _ hcollecting =>
        .skip (yields_parameterEnd _) fun _ => .bind hnamed.many fun _ hn =>
        .bind hrest fun _ hr => .pure ⟨.tree hcollecting, hn, hr⟩
    | lambda => exact .fail
  case byName =>
    exact .skip (.word _) fun _ => .skip (.word _) fun _ => .bind hnamed.many1 fun _ hn =>
      .bind hrest fun _ hr => .pure ⟨.null, hn, hr⟩
  case last =>
    exact .bind (yields_collectingNamed hg form) fun _ hr =>
      .pure ⟨.null, List.forall_mem_nil _, hr⟩

/-! ## All parameters -/

theorem yields_parameters : Yields IsRead (parameters g form) := by
  have hplain := yields_plainParameter hg form
  have hdefault := yields_defaultParameter hg form
  have hstarred := yields_starredParameters hg form
  have hnil := List.forall_mem_nil IsItem
  have hnone := List.forall_mem_nil IsPair
  refine .alt .diagnosis <| .alt ?plainSlash <| .alt ?defaultsSlash <| .alt ?plain <|
    .alt ?defaults <| .alt ?starred .none
  case plainSlash =>
    exact .bind (yields_plainBeforeSlash hg form) fun _ hbefore => .bind hplain.many fun _ hp =>
      .bind hdefault.many fun _ hd => .bind hstarred.optional fun _ hs =>
      .pure (isRead_parametersNode hbefore hp hd hnil hs)
  case defaultsSlash =>
    refine .bind (yields_defaultsBeforeSlash hg form) fun found hfound => ?_
    refine .bind hdefault.many fun _ hd => .bind hstarred.optional fun _ hs => .pure ?_
    have hfirst : ∀ v ∈ found.2.map Prod.fst, IsItem v :=
      List.forall_mem_map.2 fun p hp => (hfound.2 p hp).1
    have hsecond : ∀ v ∈ found.2.map Prod.snd, IsItem v :=
      List.forall_mem_map.2 fun p hp => (hfound.2 p hp).2
    exact isRead_parametersNode (List.forall_mem_append.2 ⟨hfound.1, hfirst⟩) hnil hd hsecond hs
  case plain =>
    exact .bind hplain.many1 fun _ hp => .bind hdefault.many fun _ hd =>
      .bind hstarred.optional fun _ hs => .pure (isRead_parametersNode hnil hp hd hnil hs)
  case defaults =>
    exact .bind hdefault.many1 fun _ hd => .bind hstarred.optional fun _ hs =>
      .pure (isRead_parametersNode hnil hnil hd hnil hs)
  case starred =>
    exact .bind hstarred fun _ hs => .pure (isRead_parametersNode hnil hnil hnone hnil
      fun _ h => Option.some.inj h ▸ hs)

end Parser

end SourceDocs.Source
