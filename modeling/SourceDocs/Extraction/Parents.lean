import SourceDocs.Tree.Traversal

/-!
# Parents

Whoever is shown the nodes of a tree one by one, each with its parent, can note the parents, and
find out later what stands around a node by climbing from parent to parent.
-/

namespace SourceDocs.Extraction

open Tree

/-- The parents that have been noted, by the places of their children. -/
abbrev Parents := List (List Nat × Node)

namespace Parents

/-- Notes the parent of a node, if it has one. -/
def note (ps : Parents) (n : Node) : Option Node → Parents
  | none => ps
  | some parent => (n.place, parent) :: ps

/-- The parent of a node, if it is known. -/
def parent? (ps : Parents) (n : Node) : Option Node := ps.lookup n.place

/-- The nodes above a node, at most so many. -/
def climb (ps : Parents) : Nat → Node → List Node
  | 0, _ => []
  | steps + 1, n =>
    match ps.parent? n with
    | none => []
    | some parent => parent :: ps.climb steps parent

/-- The nodes above a node; there are no more of them than parents have been noted. -/
def above (ps : Parents) (n : Node) : List Node := ps.climb ps.length n

/-- A node with what is above it. -/
def visit (ps : Parents) (n : Node) : Visit := ⟨n.value, (ps.above n).map Node.value⟩

end Parents

end SourceDocs.Extraction
