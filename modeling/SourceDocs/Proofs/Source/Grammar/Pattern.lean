import SourceDocs.Proofs.Source.Grammar.Atom
import SourceDocs.Source.Grammar.Pattern

/-!
# Patterns are trees

Every rule for the patterns of a match statement finds trees.  The value of a singleton pattern is
taken out of the constant that it is written as.
-/

namespace SourceDocs.Source

open SourceDocs.Tree

namespace Parser

variable {g : Grammar} (hg : g.Sound)

/-! ## Literals and names -/

theorem yields_captureName : Yields IsItem captureName :=
  .skip (.notAheadWord _) fun _ => .skip .name fun _ => .skip (.notAheadWord _) fun _ =>
    .pure (.text _)

theorem yields_signedNumber {one : Parser Value} (h : Yields IsRead one) :
    Yields IsRead (signedNumber one) :=
  .alt h <| .alt (.spanning <| .skip (.word _) fun _ => .bind h fun _ hv =>
    .pure ⟨isPart_bare _, .tree hv⟩) .none

theorem yields_partNumber (imaginary : Bool) : Yields IsRead (partNumber imaginary) := by
  refine .bind yields_number fun v hv => ?_
  extract_lets isComplex
  split_ifs
  · exact .pure hv
  · exact .faultAt

theorem yields_complexNumber : Yields IsRead complexNumber :=
  .spanning <| .bind (yields_signedNumber (yields_partNumber _)) fun _ hreal =>
    .skip (yields_operatorOf _) fun _ => .bind (yields_partNumber _) fun _ himaginary =>
    .pure ⟨.tree hreal, isPart_bare _, .tree himaginary⟩

/-- Each dot and name puts a node around what stands before it. -/
theorem yields_attributeChain (least : Nat) : Yields IsRead (attributeChain least) := by
  refine .skip .startPlace fun _ => .bind (.nameIn _) fun first hfirst => ?_
  refine .bind (.grow (P := fun p : Value × Nat => IsRead p.1) (fun p hp => ?_) hfirst)
    fun p hp => ?_
  · exact .skip (.word _) fun _ => .skip .name fun _ => .skip .stopPlace fun _ =>
      .pure (.placed ⟨.tree hp, .constant rfl, isPart_bare _⟩)
  · dsimp only
    split_ifs
    · exact .fail
    · exact .pure hp

include hg

theorem yields_literalValue : Yields IsRead (literalValue g) :=
  .alt (.bind (yields_signedNumber yields_number) fun _ hv => .skip (.notAheadWord _) fun _ =>
    .pure hv) <|
  .alt yields_complexNumber <| .alt (hg.call .strings) .none

theorem yields_literalPattern : Yields IsRead (literalPattern g) :=
  .alt (.spanning <| .bind (yields_literalValue hg) fun _ hv => .pure (.tree hv)) <|
  .alt (.spanning <| .bind yields_constantWord fun _ hv => .pure (hv.fieldOf _)) .none

/-! ## Sequences, mappings and classes -/

theorem yields_sequenceItem :
    Yields IsRead (firstOf [g.call .starPattern, g.call .pattern]) :=
  .alt (hg.call .starPattern) <| .alt (hg.call .pattern) .none

theorem yields_sequenceItems : Yields (fun found => ∀ v ∈ found, IsItem v) (sequenceItems g) :=
  (yields_sequenceItem hg).item.commaList

theorem yields_openSequence : Yields (fun found => ∀ v ∈ found, IsItem v) (openSequence g) :=
  .bind (yields_sequenceItem hg) fun _ hfirst => .skip (.word _) fun _ =>
    .bind (yields_sequenceItems hg).optional fun _ hrest =>
    .pure (forall_mem_cons_getD hfirst hrest)

theorem yields_keyPattern : Yields IsPair (keyPattern g) :=
  .bind (.alt (yields_literalValue hg) <| .alt yields_constantWord <|
    .alt (yields_attributeChain _) .none) fun _ hkey => .skip (.word _) fun _ =>
    .bind (hg.call .pattern) fun _ hv => .pure ⟨.tree hkey, .tree hv⟩

theorem yields_mappingPattern : Yields IsRead (mappingPattern g) := by
  have hrest : Yields IsItem restName := .skip (.word _) fun _ => yields_captureName
  have hentries := (yields_keyPattern hg).separated (.word .comma)
  have hnone := List.forall_mem_nil IsPair
  refine .spanning <| .alt (.enclosed ?empty) <| .alt (.enclosed ?rest) <|
    .alt (.enclosed ?both) <| .alt (.enclosed ?entries) .none
  case empty => exact .pure ⟨isPart_fst hnone, isPart_snd hnone, .constant rfl⟩
  case rest =>
    exact .bind hrest fun _ hr => .skip (.optionalWord _) fun _ =>
      .pure ⟨isPart_fst hnone, isPart_snd hnone, hr.isPart⟩
  case both =>
    exact .bind hentries fun _ he => .skip (.word _) fun _ => .bind hrest fun _ hr =>
      .skip (.optionalWord _) fun _ => .pure ⟨isPart_fst he, isPart_snd he, hr.isPart⟩
  case entries =>
    exact .bind hentries fun _ he => .skip (.optionalWord _) fun _ =>
      .pure ⟨isPart_fst he, isPart_snd he, .constant rfl⟩

theorem yields_positionalPatterns :
    Yields (fun found => ∀ v ∈ found, IsItem v) (positionalPatterns g) :=
  Yields.separated (Yields.item (hg.call .pattern)) (.word _)

theorem yields_keywordPatterns :
    Yields (fun found => ∀ p ∈ found, IsPair p) (keywordPatterns g) :=
  Yields.separated (.skip .name fun _ => .skip (.word _) fun _ =>
    .bind (hg.call .pattern) fun _ hv => .pure ⟨.text _, .tree hv⟩) (.word _)

theorem yields_classPattern : Yields IsRead (classPattern g) := by
  unfold classPattern
  extract_lets build inBrackets
  have hinBrackets {x : Parser (List Value × List (Value × Value))}
      (hx : Yields (fun r => (∀ v ∈ r.1, IsItem v) ∧ ∀ p ∈ r.2, IsPair p) x) :
      Yields IsRead (inBrackets x) :=
    .spanning <| .bind (yields_attributeChain _) fun _ hcls => .bind (.enclosed hx) fun _ hr =>
      .pure ⟨.tree hcls, .list hr.1, isPart_fst hr.2, isPart_snd hr.2⟩
  have hpositional := yields_positionalPatterns hg
  have hkeyword := yields_keywordPatterns hg
  have hnil := List.forall_mem_nil IsItem
  have hnone := List.forall_mem_nil IsPair
  refine .alt (hinBrackets ?empty) <| .alt (hinBrackets ?positional) <|
    .alt (hinBrackets ?named) <| .alt (hinBrackets ?both) <| .alt .diagnosis .none
  case empty => exact .pure ⟨hnil, hnone⟩
  case positional =>
    exact .bind hpositional fun _ hp => .skip (.optionalWord _) fun _ => .pure ⟨hp, hnone⟩
  case named =>
    exact .bind hkeyword fun _ hk => .skip (.optionalWord _) fun _ => .pure ⟨hnil, hk⟩
  case both =>
    exact .bind hpositional fun _ hp => .skip (.word _) fun _ => .bind hkeyword fun _ hk =>
      .skip (.optionalWord _) fun _ => .pure ⟨hp, hk⟩

/-! ## All patterns -/

theorem yields_closedPattern : Yields IsRead (closedPattern g) :=
  .alt (yields_literalPattern hg) <|
  .alt (.spanning <| .bind yields_captureName fun _ hn => .pure ⟨.constant rfl, hn.isPart⟩) <|
  .alt (.spanning <| .skip (.word _) fun _ => .pure ⟨.constant rfl, .constant rfl⟩) <|
  .alt (.spanning <| .bind (yields_attributeChain _) fun _ hv => .skip (.notAheadWord _) fun _ =>
    .pure (.tree hv)) <|
  .alt (.enclosed (hg.call .pattern)) <|
  .alt (.spanning <| .bind (.enclosed (yields_sequenceItems hg).optional) fun _ hfound =>
    .pure (isPart_getD hfound)) <|
  .alt (.spanning <| .bind (.enclosed (yields_openSequence hg).optional) fun _ hfound =>
    .pure (isPart_getD hfound)) <|
  .alt (yields_mappingPattern hg) <| .alt (yields_classPattern hg) .none

omit hg in
theorem yields_starPattern : Yields IsRead starPattern :=
  .alt (.spanning <| .skip (.word _) fun _ => .bind yields_captureName fun _ hn =>
    .pure hn.isPart) <|
  .alt (.spanning <| .skip (.word _) fun _ => .skip (.word _) fun _ => .pure (.constant rfl)) .none

theorem yields_orPattern : Yields IsRead (orPattern g) := by
  refine .skip .startPlace fun _ =>
    .bind (Yields.separated (hg.call .closedPattern) (.word _)) fun found hfound => ?_
  split
  · exact .pure (hfound _ List.mem_cons_self)
  · exact .skip .stopPlace fun _ => .pure (.placed (.list fun v hv => .tree (hfound v hv)))

theorem yields_pattern : Yields IsRead (pattern g) :=
  .alt (.spanning <| .bind (yields_orPattern hg) fun _ hp => .skip (.word _) fun _ =>
    .bind yields_captureName fun _ hn => .pure ⟨.tree hp, hn.isPart⟩) <|
  .alt .diagnosis <| .alt (yields_orPattern hg) .none

theorem yields_patterns : Yields IsRead (patterns g) :=
  .alt (.spanning <| .bind (yields_openSequence hg) fun _ hfound => .pure (.list hfound)) <|
  .alt (hg.call .pattern) .none

end Parser

end SourceDocs.Source
