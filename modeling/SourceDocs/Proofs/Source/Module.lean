import SourceDocs.Proofs.Source.Grammar.Compound
import SourceDocs.Source.Grammar

/-!
# Source files are read into trees

Each rule finds what it should if the rules that it calls do, so all of them do, however deep they
nest, and whatever string literals are nested in them.  What is read of a source file is a tree
(`gives_parseModule`), and so is what is read of a text.
-/

namespace SourceDocs.Source

open SourceDocs.Tree SourceDocs.Source.Parser

/-! ## Rules -/

theorem Rule.yields_parser {g : Grammar} (hg : g.Sound) (r : Rule) :
    Yields r.Finds (r.parser g) := by
  cases r with
  | statements => exact yields_statements hg
  | statement => exact yields_statement hg
  | simpleStatement => exact yields_simpleStatement hg
  | block => exact yields_block hg
  | elifClause => exact yields_conditionFrom hg _
  | starExpressions => exact yields_starExpressions hg
  | starExpression => exact yields_starExpression hg
  | expression => exact yields_expression hg
  | namedExpression => exact yields_namedExpression hg
  | badNamedExpression => exact yields_badNamedExpression hg
  | disjunction => exact yields_disjunction hg
  | conjunction => exact yields_conjunction hg
  | inversion => exact yields_inversion hg
  | comparison => exact yields_comparison hg
  | bitwiseOr => exact yields_bitwiseOr hg
  | bitwiseXor => exact yields_bitwiseXor hg
  | bitwiseAnd => exact yields_bitwiseAnd hg
  | shift => exact yields_shiftExpression hg
  | sum => exact yields_sumExpression hg
  | term => exact yields_termExpression hg
  | factor => exact yields_factorExpression hg
  | awaitPrimary => exact yields_awaitPrimary hg
  | primary => exact yields_primary hg
  | atom => exact yields_atom hg
  | strings => exact yields_strings hg
  | list => exact yields_listDisplay hg
  | tuple => exact yields_tupleDisplay hg
  | generator => exact yields_generatorExpression hg
  | arguments => exact yields_arguments hg
  | positionalArguments => exact yields_positionalArguments hg
  | lambda => exact yields_lambdaExpression hg
  | starTarget => exact yields_starTarget hg
  | starAtomTarget => exact yields_starAtomTarget hg
  | targetPrimary => exact yields_targetPrimary hg
  | singleTarget => exact yields_singleTarget hg
  | deletionTarget => exact yields_deletionTarget hg
  | badAnnotatedTarget => exact yields_badAnnotatedTarget hg
  | pattern => exact yields_pattern hg
  | closedPattern => exact yields_closedPattern hg
  | starPattern => exact yields_starPattern

/-- Rules find what they should, however deep they nest. -/
theorem Rule.yields_run {embedded : Place → Text → Except Fault Value}
    (hembedded : ∀ place t, Gives IsRead (embedded place t)) (depth : Nat) (r : Rule) :
    Yields r.Finds (Rule.run embedded depth r) := by
  induction depth generalizing r with
  | zero => exact .fail
  | succ depth ih => exact .remembered (r.yields_parser ⟨ih, hembedded⟩)

/-! ## Reading -/

/-- What is read of tokens is what the parser finds at the first reading. -/
theorem gives_parseTokens {P : Value → Prop} {x : Parser Value} (hx : Yields P x)
    (tokens : Tokens) : Gives P (parseTokens x tokens) := by
  have hend := hx ⟨tokens, false⟩ ⟨0, 0, ∅⟩ rfl remembered_empty
  unfold parseTokens
  dsimp only
  -- Only the first reading gives a value; whatever the second one finds is a fault.
  split
  next v p hfirst =>
    rw [hfirst] at hend
    exact .ok hend.1
  next => exact .error
  next => split <;> exact .error

/-- String literals may be nested in each other. -/
theorem gives_readEmbedded (depth : Nat) (place : Place) (t : Text) :
    Gives IsRead (readEmbedded depth place t) := by
  induction depth generalizing place t with
  | zero => exact .error
  | succ depth ih => exact gives_parseTokens (Rule.yields_run ih _ .starExpressions) _

theorem gives_readText {P : Value → Prop} {x : Grammar → Parser Value}
    (hx : ∀ g : Grammar, g.Sound → Yields P (x g)) (t : Text) : Gives P (readText x t) :=
  gives_parseTokens (hx _ ⟨Rule.yields_run (gives_readEmbedded _) _, gives_readEmbedded _⟩) _

theorem gives_readBytes {P : Value → Prop} {x : Grammar → Parser Value}
    (hx : ∀ g : Grammar, g.Sound → Yields P (x g)) (bytes : List UInt8) :
    Gives P (readBytes x bytes) := by
  unfold readBytes
  split
  · exact .error
  · split
    next => exact .error
    next v hread => exact .ok (gives_readText hx _ v hread)

/-- The module in a source file is a tree that is read. -/
theorem isRead_of_parseModule {bytes : List UInt8} {tree : Value}
    (h : parseModule bytes = .ok tree) : IsRead tree :=
  gives_readBytes (fun _ => yields_file) bytes tree h

/-- The module in a source file is a tree. -/
theorem gives_parseModule (bytes : List UInt8) : Gives IsTree (parseModule bytes) :=
  fun _ h => (isRead_of_parseModule h).isTree

end SourceDocs.Source
