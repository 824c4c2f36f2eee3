import SourceDocs.Source.Tree
import SourceDocs.Text.Lines

/-!
# Documentation texts

The documentation of a module, a class or a function is the text that its body begins with, without
the indentation that its lines share.
-/

namespace SourceDocs.Source

/-- Replaces tabs by blanks up to the next multiple of eight columns. -/
def expandTabs : Nat → Text → Text
  | _, [] => []
  | column, c :: rest =>
    match c.toChar with
    | '\t' => List.replicate (8 - column % 8) (CodePoint.ofChar ' ') ++ expandTabs 0 rest
    | '\n' | '\r' => c :: expandTabs 0 rest
    | _ => c :: expandTabs (column + 1) rest

/-- The least indentation of the lines that are not blank. -/
def margin (lines : List Text) : Option Nat :=
  (lines.filterMap fun line =>
    let content := Lines.trimLeft line
    if content.isEmpty then none else some (line.length - content.length)).min?

/-- Removes the indentation that the lines of a text share, and empty lines around it.  The first
line has no part in the indentation. -/
def withoutMargin (t : Text) : Text :=
  match Lines.splitAt '\n' (expandTabs 0 t) with
  | [] => []
  | first :: rest =>
    let rest := match margin rest with
      | some n => rest.map (List.drop n)
      | none => rest
    let lines := Lines.trimLeft first :: rest
    let lines := (lines.reverse.dropWhile List.isEmpty).reverse
    Text.join "\n" (lines.dropWhile List.isEmpty)

/-- The documentation of a node: null if its body does not begin with a text. -/
def documentation (v : Value) : Value :=
  match itemsOf v "body" with
  | first :: _ =>
    if first.isKind .expr then
      let value := fieldOf first "value"
      match value.kind?, value.field? "value" with
      | some .constant, some (.text t) => .text (withoutMargin t)
      | _, _ => .null
    else .null
  | [] => .null

end SourceDocs.Source
