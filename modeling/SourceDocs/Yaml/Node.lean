import SourceDocs.Pattern.Matching
import SourceDocs.Yaml.Lexer

/-!
# Nodes of configuration texts

A node is a scalar, a sequence or a mapping with a tag that tells what it stands for.
`Node.ofTokens` reads the one document of a text.  References are replaced by the nodes that they
refer to; a reference to a node that holds it is kept as such.  A plain scalar without a tag gets
the tag whose pattern it matches.
-/

namespace SourceDocs.Yaml

/-- A tag of the format itself. -/
def coreTag (name : String) : Text := Text.ofString ("tag:yaml.org,2002:" ++ name)

/-- A node. -/
inductive Node where
  | scalar (tag : Text) (value : Text)
  | sequence (tag : Text) (items : List Node)
  | mapping (tag : Text) (entries : List (Node × Node))
  /-- A reference to a node around it. -/
  | enclosing
deriving Inhabited

namespace Node

/-! ## Tags of plain scalars -/

/-- What plain scalars look like, by their tags; the empty scalar is null as well. -/
def plainForms : List (String × String × String) := [
  ("bool", "yYnNtTfFoO",
    "yes|Yes|YES|no|No|NO|true|True|TRUE|false|False|FALSE|on|On|ON|off|Off|OFF"),
  ("float", "-+0123456789.", "[-+]?(?:[0-9][0-9_]*)\\.[0-9_]*(?:[eE][-+][0-9]+)?"),
  ("float", "-+0123456789.", "\\.[0-9][0-9_]*(?:[eE][-+][0-9]+)?"),
  ("float", "-+0123456789.", "[-+]?[0-9][0-9_]*(?::[0-5]?[0-9])+\\.[0-9_]*"),
  ("float", "-+0123456789.", "[-+]?\\.(?:inf|Inf|INF)|\\.(?:nan|NaN|NAN)"),
  ("int", "-+0123456789",
    "[-+]?0b[0-1_]+|[-+]?0[0-7_]+|[-+]?(?:0|[1-9][0-9_]*)|[-+]?0x[0-9a-fA-F_]+"),
  ("int", "-+0123456789", "[-+]?[1-9][0-9_]*(?::[0-5]?[0-9])+"),
  ("merge", "<", "<<"),
  ("null", "~nN", "~|null|Null|NULL"),
  ("timestamp", "0123456789", "[0-9][0-9][0-9][0-9]-[0-9][0-9]-[0-9][0-9]"),
  ("timestamp", "0123456789",
    "[0-9][0-9][0-9][0-9]-[0-9][0-9]?-[0-9][0-9]?(?:[Tt]|[ \\t]+)[0-9][0-9]?:[0-9][0-9]"
    ++ ":[0-9][0-9](?:\\.[0-9]*)?(?:[ \\t]*(?:Z|[-+][0-9][0-9]?(?::[0-9][0-9])?))?"),
  ("value", "=", "="),
  ("yaml", "!&*", "!|&|\\*")]

/-- The patterns of plain scalars with the characters that these may begin with. -/
def plainPatterns : List (String × List Char × Program) :=
  plainForms.filterMap fun (name, starts, form) =>
    match Program.ofText (Text.ofString ("^(?:" ++ form ++ ")$")) with
    | .ok p => some (name, starts.toList, p)
    | .error _ => none

/-- The tag of a plain scalar. -/
def plainTag (value : Text) : Text :=
  match value with
  | [] => coreTag "null"
  | c :: _ =>
    match plainPatterns.find? fun (_, starts, p) =>
        starts.contains c.toChar && p.occursIn value with
    | some (name, _) => coreTag name
    | none => coreTag "str"

/-! ## Reading nodes -/

/-- What a reader of nodes knows. -/
structure ReadState where
  tokens : List Token
  /-- The nodes with anchors; those that are still being read are unknown. -/
  anchors : List (Text × Option Node) := []
  /-- What the handles of tags stand for. -/
  handles : List (Text × Text) := []

/-- A reader of nodes. -/
abbrev Reader := StateT ReadState (Except Fault)

/-- Fails because the text is malformed. -/
def malformed {α : Type} : Reader α := throw .malformed

/-- The next token, without reading it. -/
def peek : Reader Token := do
  match (← get).tokens with
  | .fault f :: _ => throw f
  | t :: _ => return t
  | [] => return .streamEnd

/-- Reads a token. -/
def advance : Reader Unit := modify fun s => { s with tokens := s.tokens.drop 1 }

/-- The node of nothing. -/
def nothing : Node := .scalar (coreTag "null") []

/-- The tag that is written before a node, in full. -/
def fullTag (handle : Option Text) (suffix : Text) : Reader Text := do
  match handle with
  | none => return suffix
  | some h =>
    match (← get).handles.lookup h with
    | some start => return start ++ suffix
    | none => malformed

/-- The anchor and the tag before a node, in either order. -/
def properties : Reader (Option Text × Option Text) := do
  match ← peek with
  | .anchor name =>
    advance
    match ← peek with
    | .tag handle suffix =>
      advance
      return (some name, some (← fullTag handle suffix))
    | _ => return (some name, none)
  | .tag handle suffix =>
    advance
    match ← peek with
    | .anchor name =>
      advance
      return (some name, some (← fullTag handle suffix))
    | _ => return (none, some (← fullTag handle suffix))
  | _ => return (none, none)

/-- Whether a tag leaves it to a node what it stands for. -/
def isOpenTag (tag : Option Text) : Bool :=
  match tag with
  | none => true
  | some t => t.isString "!"

/-- The tag of a collection. -/
def collectionTag (tag : Option Text) (name : String) : Text :=
  if isOpenTag tag then coreTag name else tag.getD []

/-- A scalar node. -/
def ofScalar (tag : Option Text) (plain : Bool) (value : Text) : Node :=
  match tag with
  | none => .scalar (if plain then plainTag value else coreTag "str") value
  | some t => .scalar (if t.isString "!" then plainTag value else t) value

/-- Announces an anchor, which must be new. -/
def announce (anchor : Option Text) : Reader Unit := do
  match anchor with
  | none => return
  | some name =>
    if ((← get).anchors.lookup name).isSome then malformed
    else modify fun s => { s with anchors := (name, none) :: s.anchors }

/-- Binds an anchor to its node. -/
def bindAnchor (anchor : Option Text) (node : Node) : Reader Node := do
  match anchor with
  | none => return node
  | some name =>
    modify fun s => { s with anchors := (name, some node) :: s.anchors }
    return node

/-- Tokens before which an entry of a block sequence is empty. -/
def endsBlockEntry : Token → Bool
  | .blockEntry | .blockEnd => true
  | _ => false

/-- Tokens before which an entry of a sequence without indentation is empty. -/
def endsLooseEntry : Token → Bool
  | .blockEntry | .key | .value | .blockEnd => true
  | _ => false

/-- Tokens before which a key or a value of a block mapping is empty. -/
def endsBlockPart : Token → Bool
  | .key | .value | .blockEnd => true
  | _ => false

/-- Tokens before which a key in a flow collection is empty. -/
def endsFlowKey : Token → Bool
  | .value | .flowEntry | .flowSequenceEnd | .flowMappingEnd => true
  | _ => false

/-- Tokens before which a value in a flow collection is empty. -/
def endsFlowValue : Token → Bool
  | .flowEntry | .flowSequenceEnd | .flowMappingEnd => true
  | _ => false

/-- How the surroundings of a node restrict it. -/
inductive Context where
  | block
  /-- In a block mapping, where a sequence needs no indentation. -/
  | mappingPart
  | flow
deriving DecidableEq

/-- A part of a collection: empty before certain tokens. -/
def part (ends : Token → Bool) (x : Reader Node) : Reader Node := do
  if ends (← peek) then return nothing else x

mutual

/-- Reads a node. -/
def read (context : Context) : Nat → Reader Node
  | 0 => malformed
  | fuel + 1 => do
    match ← peek with
    | .reference name =>
      advance
      match (← get).anchors.lookup name with
      | some (some node) => return node
      | some none => return .enclosing
      | none => malformed
    | _ =>
      let (anchor, tag) ← properties
      let content ← peek
      announce anchor
      match context, content with
      | .mappingPart, .blockEntry =>
        let items ← looseEntries fuel
        bindAnchor anchor (.sequence (collectionTag tag "seq") items)
      | _, .scalar plain value =>
        advance
        bindAnchor anchor (ofScalar tag plain value)
      | _, .flowSequence =>
        advance
        let items ← flowItems true fuel
        bindAnchor anchor (.sequence (collectionTag tag "seq") items)
      | _, .flowMapping =>
        advance
        let entries ← flowEntries true fuel
        bindAnchor anchor (.mapping (collectionTag tag "map") entries)
      | context, t =>
        match context, t with
        | .block, .blockSequence | .mappingPart, .blockSequence =>
          advance
          let items ← blockEntries fuel
          bindAnchor anchor (.sequence (collectionTag tag "seq") items)
        | .block, .blockMapping | .mappingPart, .blockMapping =>
          advance
          let entries ← blockPairs fuel
          bindAnchor anchor (.mapping (collectionTag tag "map") entries)
        | _, _ =>
          if anchor.isSome || tag.isSome then
            bindAnchor anchor (.scalar (if isOpenTag tag then plainTag [] else tag.getD []) [])
          else malformed

/-- The entries of a block sequence up to its end. -/
def blockEntries : Nat → Reader (List Node)
  | 0 => malformed
  | fuel + 1 => do
    match ← peek with
    | .blockEntry =>
      advance
      let item ← part endsBlockEntry (read .block fuel)
      return item :: (← blockEntries fuel)
    | .blockEnd =>
      advance
      return []
    | _ => malformed

/-- The entries of a sequence without indentation. -/
def looseEntries : Nat → Reader (List Node)
  | 0 => malformed
  | fuel + 1 => do
    match ← peek with
    | .blockEntry =>
      advance
      let item ← part endsLooseEntry (read .block fuel)
      return item :: (← looseEntries fuel)
    | _ => return []

/-- The entries of a block mapping up to its end. -/
def blockPairs : Nat → Reader (List (Node × Node))
  | 0 => malformed
  | fuel + 1 => do
    let value : Reader Node := do
      match ← peek with
      | .value =>
        advance
        part endsBlockPart (read .mappingPart fuel)
      | _ => return nothing
    match ← peek with
    | .key =>
      advance
      let key ← part endsBlockPart (read .mappingPart fuel)
      let v ← value
      return (key, v) :: (← blockPairs fuel)
    | .blockEnd =>
      advance
      return []
    | _ => malformed

/-- The items of a flow sequence up to its end. -/
def flowItems (first : Bool) : Nat → Reader (List Node)
  | 0 => malformed
  | fuel + 1 => do
    match ← peek with
    | .flowSequenceEnd =>
      advance
      return []
    | t =>
      match first, t with
      | false, .flowEntry => advance
      | false, _ => malformed
      | true, _ => pure ()
      match ← peek with
      | .flowSequenceEnd =>
        advance
        return []
      | .key =>
        advance
        let key ← part endsFlowKey (read .flow fuel)
        let value ← flowValue fuel
        return .mapping (coreTag "map") [(key, value)] :: (← flowItems false fuel)
      | _ =>
        let item ← read .flow fuel
        return item :: (← flowItems false fuel)

/-- The entries of a flow mapping up to its end. -/
def flowEntries (first : Bool) : Nat → Reader (List (Node × Node))
  | 0 => malformed
  | fuel + 1 => do
    match ← peek with
    | .flowMappingEnd =>
      advance
      return []
    | t =>
      match first, t with
      | false, .flowEntry => advance
      | false, _ => malformed
      | true, _ => pure ()
      match ← peek with
      | .flowMappingEnd =>
        advance
        return []
      | .key =>
        advance
        let key ← part endsFlowKey (read .flow fuel)
        let value ← flowValue fuel
        return (key, value) :: (← flowEntries false fuel)
      | _ =>
        let key ← read .flow fuel
        return (key, nothing) :: (← flowEntries false fuel)

/-- The value behind a key in a flow collection, if there is one. -/
def flowValue : Nat → Reader Node
  | 0 => malformed
  | fuel + 1 => do
    match ← peek with
    | .value =>
      advance
      part endsFlowValue (read .flow fuel)
    | _ => return nothing

end

/-! ## Documents -/

/-- The handles that need no directive. -/
def commonHandles : List (Text × Text) :=
  [(Text.ofString "!", Text.ofString "!"), (Text.ofString "!!", coreTag "")]

/-- Reads the directives before a document: whether the version was given, and the handles. -/
def directives : Nat → Bool → List (Text × Text) → Reader (List (Text × Text))
  | 0, _, _ => malformed
  | fuel + 1, versioned, handles => do
    match ← peek with
    | .directive (.version major _) =>
      if versioned || major ≠ 1 then malformed
      else
        advance
        directives fuel true handles
    | .directive (.tagHandle handle start) =>
      if (handles.lookup handle).isSome then malformed
      else
        advance
        directives fuel versioned ((handle, start) :: handles)
    | .directive .other =>
      advance
      directives fuel versioned handles
    | _ => return handles

/-- Skips marks of the ends of documents. -/
def skipEnds : Nat → Reader Unit
  | 0 => return
  | fuel + 1 => do
    match ← peek with
    | .documentEnd =>
      advance
      skipEnds fuel
    | _ => return

/-- The document of a text; a text without a document has none. -/
def document (fuel : Nat) : Reader (Option Node) := do
  match ← peek with
  | .streamEnd => return none
  | t =>
    let opensDocument : Bool := match t with
      | .directive _ | .documentStart => true
      | _ => false
    if opensDocument then
      let handles ← directives fuel false []
      modify fun s => { s with handles := handles ++ commonHandles }
      match ← peek with
      | .documentStart => advance
      | _ => malformed
      let isEmpty : Bool := match ← peek with
        | .directive _ | .documentStart | .documentEnd | .streamEnd => true
        | _ => false
      let node ← if isEmpty then pure nothing else read .block fuel
      finish node
    else
      modify fun s => { s with handles := commonHandles }
      let node ← read .block fuel
      finish node
where
  /-- Demands that nothing follows the document. -/
  finish (node : Node) : Reader (Option Node) := do
    skipEnds fuel
    match ← peek with
    | .streamEnd => return some node
    | _ =>
      -- the directives of another document are read before it is refused
      let _ ← directives fuel false []
      malformed

/-- The node of the only document in a sequence of tokens. -/
def ofTokens (ts : List Token) : Except Fault (Option Node) := do
  let (node, _) ← (document (2 * ts.length + 4)).run { tokens := ts }
  return node

end Node

end SourceDocs.Yaml
