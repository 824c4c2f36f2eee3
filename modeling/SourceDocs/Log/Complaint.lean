import SourceDocs.World

/-!
# Complaints about source files

What cannot be processed is reported with an excerpt of the file that it stands in, as far as the
file can be read and the line is known.
-/

namespace SourceDocs.Complaint

/-- A line number that counts: zero means that no line is known. -/
def knownLine (line : Option Int) : Option Int := line.filter (· ≠ 0)

/-- An excerpt, all of whose lines must exist. -/
def demanded (excerpt : Option Text) : Action Text :=
  match excerpt with
  | some t => return t
  | none => Action.raise (.misuse .badPosition)

/-- Reports a file that cannot be read into a tree. -/
def aboutSource (path : Path) (f : SyntaxFault) : Action Unit := do
  let lines ← Files.readLines path
  match lines, knownLine f.line with
  | _ :: _, some line =>
    let excerpt ← demanded (Excerpt.around lines line)
    Action.report (.badSource path f.reason (some line) (some excerpt))
  | _, _ => Action.report (.badSource path f.reason none none)

/-- The number in an attribute of a node. -/
def numberOf (node : Value) (name : String) : Option Int :=
  match node.attribute? name with
  | some v => v.asInt?
  | none => none

/-- Reports a node of a type that cannot be described, and the lines it stands on. -/
def aboutLines (path : Path) (typeName : String) (first last : Option Int) : Action Unit := do
  let lines ← Files.readLines path
  match lines, knownLine first with
  | _ :: _, some first =>
    let last := (knownLine last).getD first
    let excerpt ← demanded (Excerpt.between lines first last)
    Action.report (.badNode path typeName (some first) (some excerpt))
  | _, _ => Action.report (.badNode path typeName none none)

/-- Reports a node that cannot be described. -/
def aboutNode (path : Path) (node : Value) : Action Unit :=
  aboutLines path node.typeName (numberOf node "lineno") (numberOf node "end_lineno")

/-- Reports a failure of a collaborator. -/
def aboutFailure (f : Failure) : Action Unit := Action.report (.raised f)

end SourceDocs.Complaint
