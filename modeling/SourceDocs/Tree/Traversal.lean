import SourceDocs.Value.Basic

/-!
# Walking trees

A tree is a syntax tree, or a tree of mappings that carry a `type`.  `traverse` visits its nodes
depth first, a node before its children, with an explicit stack of what is still to be visited, so
that the depth of the tree does not matter.  Nodes are told apart by the places where they stand,
for two of them may well look the same.
-/

namespace SourceDocs.Tree

/-- Whether a value is a mapping with a `type`. -/
def isTyped : Value → Bool
  | .mapping entries => (Value.lookupText entries "type").isSome
  | _ => false

/-- The keys under which a mapping says where its node stands. -/
def isPositionKey : Value → Bool
  | .text t => ["loc", "range", "start", "end"].any t.isString
  | _ => false

/-- The values that satisfy a test: a value itself, or the items of a list. -/
def pick (test : Value → Bool) (v : Value) : List Value :=
  match v with
  | .list items => items.filter test
  | v => if test v then [v] else []

/-- The children of a node in source order. -/
def children : Value → List Value
  | .node _ fields _ => fields.flatMap fun f => pick Value.isNode f.2
  | .mapping entries => entries.flatMap fun e => if isPositionKey e.1 then [] else pick isTyped e.2
  | _ => []

/-- A node where it stands: its place is the numbers of the children to go to from the root on, the
last one first. -/
structure Node where
  place : List Nat
  value : Value
deriving Inhabited

namespace Node

/-- The root of a tree. -/
def ofRoot (tree : Value) : Node := ⟨[], tree⟩

/-- The children of a node where they stand. -/
def children (n : Node) : List Node := (Tree.children n.value).mapIdx fun i c => ⟨i :: n.place, c⟩

end Node

/-- A node and its ancestors, the nearest one first. -/
structure Visit where
  node : Value
  ancestors : List Value

/-- The parent of the visited node. -/
def Visit.parent? (v : Visit) : Option Value := v.ancestors.head?

mutual

/-- The number of values in a tree. -/
def size : Value → Nat
  | .list items => 1 + sizeItems items
  | .mapping entries => 1 + sizeEntries entries
  | .node _ fields _ => 1 + sizeFields fields
  | _ => 1

/-- The number of values in the items of a list. -/
def sizeItems : List Value → Nat
  | [] => 0
  | v :: rest => size v + sizeItems rest

/-- The number of values in the entries of a mapping. -/
def sizeEntries : List (Value × Value) → Nat
  | [] => 0
  | (_, v) :: rest => size v + sizeEntries rest

/-- The number of values in the fields of a node. -/
def sizeFields : List (String × Value) → Nat
  | [] => 0
  | (_, v) :: rest => size v + sizeFields rest

end

section

variable {m : Type → Type} [Monad m] {α β : Type}

/-- Puts things on a stack, the last one first, so that the first one comes to lie on top. -/
def putOnTop (bs stack : List β) : List β := bs.reverse.foldl (fun s b => b :: s) stack

/-- Works off a stack in at most so many steps: what lies on top is taken off and handed to the
callback, and then what is below it in the tree is put on top. -/
def workOff (below : β → List β) (callback : β → m Unit) : Nat → List β → m Unit
  | 0, _ => pure ()
  | _, [] => pure ()
  | fuel + 1, b :: rest => do
    callback b
    workOff below callback fuel (putOnTop (below b) rest)

/-- A node and its parent, and the nodes below it with theirs. -/
def pairsBelow (children : α → List α) (c : α × Option α) : List (α × Option α) :=
  (children c.1).map fun v => (v, some c.1)

/-- Visits the nodes below a root, whatever their children are found by, in at most so many steps;
the callback is told the parent of each. -/
def traverseBy (children : α → List α) (callback : α → Option α → m Unit) (steps : Nat) (root : α) :
    m Unit :=
  workOff (pairsBelow children) (fun c => callback c.1 c.2) steps [(root, none)]

/-- Visits all nodes of a tree; there are at most as many as values in it. -/
def traverse (tree : Value) (callback : Node → Option Node → m Unit) : m Unit :=
  traverseBy Node.children callback (size tree) (.ofRoot tree)

end

/-- The nodes of a tree with their parents, in the order in which they are visited. -/
def calls (tree : Value) : List (Node × Option Node) :=
  ((traverse tree fun n parent => modify ((n, parent) :: ·) :
    StateM (List (Node × Option Node)) Unit).run []).2.reverse

end SourceDocs.Tree
