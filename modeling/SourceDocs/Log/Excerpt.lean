import SourceDocs.Text.Lines

/-!
# Excerpts of source files

An excerpt shows lines of a file with their numbers; one of them may be marked.  Numbers are padded
to the width of the last one.
-/

namespace SourceDocs.Excerpt

/-- How many lines are shown before and behind a marked one. -/
def contextLines : Int := 3

/-- Pads a text with blanks on the left. -/
def padLeft (width : Nat) (t : Text) : Text :=
  List.replicate (width - t.length) (CodePoint.ofChar ' ') ++ t

/-- The line with a number; numbers below one count from the end. -/
def lineAt? (lines : List Text) (number : Int) : Option Text :=
  let index := number - 1
  let index := if index < 0 then index + lines.length else index
  if index < 0 then none else lines[index.toNat]?

/-- The numbers from one to another, both included. -/
def numbers (start stop : Int) : List Int :=
  (List.range (stop + 1 - start).toNat).map fun (i : Nat) => start + (i : Int)

/-- One line of an excerpt. -/
def row (width : Nat) (marked : Int) (number : Int) (line : Text) : Text :=
  Text.ofString (if number = marked then "> " else "  ") ++ padLeft width (Text.ofInt number)
    ++ Text.ofString "| " ++ line

/-- The lines from `start` to `stop`; `none` if one of them does not exist. -/
def excerpt (lines : List Text) (start stop marked : Int) : Option Text := do
  let width := (Text.ofInt stop).length
  let rows ← (numbers start stop).mapM fun n => (lineAt? lines n).map (row width marked n)
  return Text.join "\n" rows

/-- The lines around a line, which is marked. -/
def around (lines : List Text) (line : Int) : Option Text :=
  excerpt lines (max 1 (line - contextLines)) (min lines.length (line + contextLines)) line

/-- The lines from `first` to `last`, of which the first is marked. -/
def between (lines : List Text) (first last : Int) : Option Text :=
  excerpt lines first (min last lines.length) first

end SourceDocs.Excerpt
