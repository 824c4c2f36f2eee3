import SourceDocs.Json.Scalar
import SourceDocs.Value.Written

/-!
# JSON text in chunks

The JSON text of a value is produced piece by piece from a stack of what is still to be written, so
that the depth of the value does not matter.  Values that JSON does not know are first replaced by a
`Fallback`; the one for syntax trees, `expand`, turns a node into a mapping of its kind, its
fields and its attributes.

`chunks` returns the pieces in document order, and those made before a failure together with it.
-/

namespace SourceDocs.Json

/-- What stands on the stack: a finished piece, or a value still to be written. -/
inductive Frame where
  | piece (t : Text)
  | value (v : Value)

/-- A replacement for values that JSON does not know. -/
abbrev Fallback := Value → Except EncodeFault Value

/-- Whether JSON knows a value: scalars, lists, tuples and mappings. -/
def isKnown : Value → Bool
  | .null | .bool _ | .int _ | .float _ | .text _ | .list _ | .tuple _ | .mapping _ => true
  | _ => false

/-- The mapping of a node: its kind under `type`, then fields and attributes.  A field that is
itself called `type` takes the place of the kind. -/
def nodeEntries (kind : NodeKind) (fields attributes : List (String × Value)) :
    List (Value × Value) :=
  Value.ofEntries <|
    (Value.ofString "type", Value.ofString kind.name) ::
      (fields ++ attributes).map fun f => (Value.ofString f.1, f.2)

/-- The fallback for syntax trees: a node becomes a mapping, bytes the text of the same numbers,
a set the list of its items by written form, and other constants their written form. -/
def expand : Fallback
  | .node kind fields attributes => .ok (.mapping (nodeEntries kind fields attributes))
  | .bytes data _ => .ok (.text (data.map fun b => CodePoint.ofChar (Char.ofNat b.toNat)))
  | .set items _ => .ok (.list (Value.sortedByWritten items))
  | .complex re im => .ok (.text (Value.written (.complex re im)))
  | .ellipsis => .ok (.text (Value.written .ellipsis))
  | v => .error (.unserializable v.typeName)

/-- The fallback that replaces nothing. -/
def identity : Fallback := .ok

/-- The fallback that gives the same value for everything. -/
def constant (v : Value) : Fallback := fun _ => .ok v

/-- The frames of the entries of a mapping. -/
def entryFrames (separator : Text) : List (Value × Value) → Except EncodeFault (List Frame)
  | [] => .ok [.piece (Text.ofString "\x7d")]
  | (key, item) :: rest => do
    let name ← keyText key
    let frames ← entryFrames (Text.ofString ", ") rest
    return .piece (separator ++ quote name ++ Text.ofString ": ") :: .value item :: frames

/-- The frames of the items of a list behind its first one. -/
def itemFrames : List Value → List Frame
  | [] => [.piece (Text.ofString "]")]
  | item :: rest => .piece (Text.ofString ", ") :: .value item :: itemFrames rest

/-- The frames of a list. -/
def listFrames : List Value → List Frame
  | [] => [.piece (Text.ofString "["), .piece (Text.ofString "]")]
  | item :: rest => .piece (Text.ofString "[") :: .value item :: itemFrames rest

/-- The frames that a value is written by, or its text alone if it is a scalar. -/
def expandFrame (fallback : Fallback) (v : Value) : Except EncodeFault (List Frame) :=
  match v with
  | .mapping entries => do
    let frames ← entryFrames [] entries
    return .piece (Text.ofString "\x7b") :: frames
  | .list items => .ok (listFrames items)
  | .tuple items => .ok (listFrames items)
  | v =>
    match scalar? v with
    | some t => t.map fun t => [.piece t]
    | none => do
      let replacement ← fallback v
      if isKnown replacement then return [.value replacement]
      else throw (.unserializable replacement.typeName)

/-- Works the stack off, collecting pieces (the last one first) until it is empty or a value cannot
be written. -/
def work (fallback : Fallback) : Nat → List Frame → List Text → List Text × Option EncodeFault
  | _, [], done => (done, none)
  | 0, _ :: _, done => (done, none)
  | fuel + 1, .piece t :: rest, done => work fallback fuel rest (t :: done)
  | fuel + 1, .value v :: rest, done =>
    match expandFrame fallback v with
    | .ok frames => work fallback fuel (frames ++ rest) done
    | .error e => (done, some e)

mutual

/-- A bound for the number of steps that writing a value takes. -/
def weight : Value → Nat
  | .list items => 4 + weightAll items
  | .tuple items => 4 + weightAll items
  | .set items _ => 5 + weightAll items
  | .mapping entries => 4 + weightEntries entries
  | .node _ fields attributes => 12 + weightFields fields + weightFields attributes
  | _ => 4

/-- The bound for several values. -/
def weightAll : List Value → Nat
  | [] => 0
  | x :: xs => weight x + 2 + weightAll xs

/-- The bound for the entries of a mapping. -/
def weightEntries : List (Value × Value) → Nat
  | [] => 0
  | (_, v) :: rest => weight v + 2 + weightEntries rest

/-- The bound for the fields of a node. -/
def weightFields : List (String × Value) → Nat
  | [] => 0
  | (_, v) :: rest => weight v + 2 + weightFields rest

end

/-- The pieces of a value's JSON text in order, and the failure that ended them. -/
def chunks (fallback : Fallback) (fuel : Nat) (v : Value) : List Text × Option EncodeFault :=
  let (done, fault) := work fallback fuel [.value v] []
  (done.reverse, fault)

/-- The pieces of a syntax tree's JSON text. -/
def treeChunks (v : Value) : List Text × Option EncodeFault := chunks expand (weight v) v

/-- The text of a tree, if all of it can be written. -/
def treeText (v : Value) : Except EncodeFault Text :=
  match treeChunks v with
  | (pieces, none) => .ok pieces.flatten
  | (_, some f) => .error f

/-- The pieces of the text of a value in which nothing is replaced. -/
def plainChunks (v : Value) : List Text × Option EncodeFault := chunks identity (weight v) v

/-- The pieces of the text of a value in which everything that JSON does not know is replaced by the
same value. -/
def chunksReplacing (replacement v : Value) : List Text × Option EncodeFault :=
  chunks (constant replacement) (weight v * (weight replacement + 2)) v

end SourceDocs.Json
