import SourceDocs.Number.Binary64
import SourceDocs.Path
import SourceDocs.Value.NodeKind

/-!
# Values

`Value` is the one type of data that configuration files, package descriptors, record payloads and
syntax trees are made of.  Mappings keep the order in which their keys were added.  A syntax
tree node has a kind, its fields in order, and the attributes that say where it stands in the
source.
-/

namespace SourceDocs

/-- Data of configuration files, descriptors, payloads and syntax trees. -/
inductive Value where
  | null
  | bool (b : Bool)
  | int (n : Int)
  | float (x : Binary64)
  | complex (re im : Binary64)
  | text (t : Text)
  /-- A sequence of bytes; `growable` tells the two kinds of such sequences apart. -/
  | bytes (data : List UInt8) (growable : Bool)
  | ellipsis
  /-- A value of which nothing is known but that it exists. -/
  | object
  /-- A date or a moment in time, in its standard notation; if a time zone is known, the instant is
  given in microseconds. -/
  | moment (written : String) (hasTime : Bool) (instant : Option Int)
  /-- A path of the file system. -/
  | path (p : Path)
  | list (items : List Value)
  | tuple (items : List Value)
  /-- A sequence of another type, of which that is the name. -/
  | sequence (type : String) (items : List Value) (hashable : Bool)
  | set (items : List Value) (frozen : Bool)
  | mapping (entries : List (Value × Value))
  | node (kind : NodeKind) (fields : List (String × Value)) (attributes : List (String × Value))
deriving Inhabited

namespace Value

/-- A text value. -/
def ofString (s : String) : Value := .text (Text.ofString s)

/-- The name of a value's type in messages. -/
def typeName : Value → String
  | .null => "NoneType"
  | .bool _ => "bool"
  | .int _ => "int"
  | .float _ => "float"
  | .complex _ _ => "complex"
  | .text _ => "str"
  | .bytes _ growable => if growable then "bytearray" else "bytes"
  | .ellipsis => "ellipsis"
  | .object => "object"
  | .moment _ hasTime _ => if hasTime then "datetime" else "date"
  | .path _ => "PosixPath"
  | .list _ => "list"
  | .tuple _ => "tuple"
  | .sequence type _ _ => type
  | .set _ frozen => if frozen then "frozenset" else "set"
  | .mapping _ => "dict"
  | .node kind _ _ => kind.name

/-- Whether a value is a syntax tree node. -/
def isNode : Value → Bool
  | .node .. => true
  | _ => false

/-- The kind of a node. -/
def kind? : Value → Option NodeKind
  | .node k _ _ => some k
  | _ => none

/-- Whether a value is a node of a kind. -/
def isKind (v : Value) (k : NodeKind) : Bool := v.kind? = some k

/-- The value of a field of a node. -/
def field? (v : Value) (name : String) : Option Value :=
  match v with
  | .node _ fields _ => fields.lookup name
  | _ => none

/-- The value of an attribute of a node. -/
def attribute? (v : Value) (name : String) : Option Value :=
  match v with
  | .node _ _ attributes => attributes.lookup name
  | _ => none

/-- The attributes that say where a node stands: where it begins, and where it ends. -/
def placeNames : List (String × Bool) :=
  [("lineno", false), ("col_offset", false), ("end_lineno", true), ("end_col_offset", true)]

/-- A node of a kind with the given fields and attributes.  A field that may be left out is then
empty, and so is the end of a node that has a place. -/
def nodeWith (kind : NodeKind) (field place : String → Option Value) : Value :=
  let fields := kind.fields.filterMap fun (name, optional) =>
    ((field name).or (if optional then some .null else none)).map (name, ·)
  let attributes := placeNames.filterMap fun (name, isEnd) =>
    ((place name).or (if kind.isPlaced && isEnd then some .null else none)).map (name, ·)
  .node kind fields attributes

/-- The number that a boolean, an integer or a float is, if it is an integer. -/
def asInt? : Value → Option Int
  | .bool b => some (if b then 1 else 0)
  | .int n => some n
  | .float x => x.toInt?
  | .complex re im => if im.isZero then re.toInt? else none
  | _ => none

mutual

/-- Equality of mapping keys: numbers are equal by value, whatever their types, and sequences of
bytes whatever their kinds; a `nan` equals nothing, and the order of a set does not count. -/
def keyEq : Value → Value → Bool
  | .null, .null => true
  | .text s, .text t => s == t
  | .bytes s _, .bytes t _ => s == t
  | .ellipsis, .ellipsis => true
  | .path p, .path q => p == q
  | .tuple xs, .tuple ys => keysEq xs ys
  | .sequence s xs _, .sequence t ys _ => s == t && keysEq xs ys
  | .moment s _ m, .moment t _ n => if m.isSome && n.isSome then m == n else s == t
  | .set xs _, .set ys _ => xs.length == ys.length && allAmong xs ys
  | x, y =>
    match x.asInt?, y.asInt? with
    | some m, some n => m == n
    | _, _ =>
      match x, y with
      | .float a, .float b => a.eq b
      | .complex a b, .complex c d => a.eq c && b.eq d
      | .float a, .complex c d => d.isZero && a.eq c
      | .complex a b, .float c => b.isZero && a.eq c
      | _, _ => false

/-- Equality of sequences of keys. -/
def keysEq : List Value → List Value → Bool
  | [], [] => true
  | x :: xs, y :: ys => keyEq x y && keysEq xs ys
  | _, _ => false

/-- Whether all of several keys are among others. -/
def allAmong : List Value → List Value → Bool
  | [], _ => true
  | x :: xs, ys => (ys.any fun y => keyEq x y) && allAmong xs ys

end

/-- The value under a key. -/
def lookup (entries : List (Value × Value)) (key : Value) : Option Value :=
  (entries.find? fun e => keyEq e.1 key).map Prod.snd

/-- The value under a text key. -/
def lookupText (entries : List (Value × Value)) (key : String) : Option Value :=
  lookup entries (ofString key)

/-- Puts a value under a key: a present key keeps its place, a new one goes to the end. -/
def insert (entries : List (Value × Value)) (key value : Value) : List (Value × Value) :=
  if entries.any fun e => keyEq e.1 key then
    entries.map fun e => if keyEq e.1 key then (e.1, value) else e
  else entries ++ [(key, value)]

/-- Puts a value under a key, unless something is there already. -/
def setDefault (entries : List (Value × Value)) (key value : Value) : List (Value × Value) :=
  if entries.any fun e => keyEq e.1 key then entries else entries ++ [(key, value)]

/-- The entries put one after the other. -/
def ofEntries (entries : List (Value × Value)) : List (Value × Value) :=
  entries.foldl (fun acc e => insert acc e.1 e.2) []

/-- The items put into a set one after the other: of equal ones the first stays. -/
def distinct (items : List Value) : List Value :=
  items.foldl (fun acc x => if acc.any fun y => keyEq y x then acc else acc ++ [x]) []

/-- The items that a value is listed by: those of a sequence or a set, the characters of a text, the
keys of a mapping. -/
def items? : Value → Option (List Value)
  | .list items | .tuple items | .sequence _ items _ | .set items _ => some items
  | .text t => some (t.map fun c => .text [c])
  | .bytes data _ => some (data.map fun b => .int b.toNat)
  | .mapping entries => some (entries.map Prod.fst)
  | _ => none

/-- Whether a value counts as true: empty things, zeros and null do not. -/
def isTruthy : Value → Bool
  | .null => false
  | .bool b => b
  | .int n => n ≠ 0
  | .float x => !x.isZero
  | .complex re im => !(re.isZero && im.isZero)
  | .text t => !t.isEmpty
  | .bytes data _ => !data.isEmpty
  | .list items => !items.isEmpty
  | .tuple items => !items.isEmpty
  | .sequence _ items _ => !items.isEmpty
  | .set items _ => !items.isEmpty
  | .mapping entries => !entries.isEmpty
  | _ => true

mutual

/-- The value is unusable as a mapping key or set item. -/
def isUnhashable : Value → Bool
  | .list _ => true
  | .mapping _ => true
  | .set _ frozen => !frozen
  | .bytes _ growable => growable
  | .sequence _ _ hashable => !hashable
  | .tuple items => someUnhashable items
  | _ => false

/-- One of several values is unusable as a mapping key or set item. -/
def someUnhashable : List Value → Bool
  | [] => false
  | v :: rest => isUnhashable v || someUnhashable rest

end

end Value

end SourceDocs
