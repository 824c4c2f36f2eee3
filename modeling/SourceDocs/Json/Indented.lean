import SourceDocs.Json.Scalar

/-!
# Indented JSON text

The layout of the index: every item and every entry on a line of its own, two blanks deeper than
the brackets around it.
-/

namespace SourceDocs.Json

/-- A line break and the indentation of a depth. -/
def lineBreak (depth : Nat) : Text :=
  Text.ofChar '\n' ++ List.replicate (2 * depth) (CodePoint.ofChar ' ')

/-- Items between brackets, one a line. -/
def block (opening closing : String) (depth : Nat) (items : List Text) : Text :=
  if items.isEmpty then Text.ofString opening ++ Text.ofString closing
  else Text.ofString opening ++ lineBreak (depth + 1)
    ++ Text.join (Text.ofChar ',' ++ lineBreak (depth + 1)) items
    ++ lineBreak depth ++ Text.ofString closing

/-- The name of an entry. -/
def entryName (key : Value) : Except EncodeFault Text :=
  match keyText key with
  | .error (.badKey t) => .error (.badIndexKey t)
  | r => r

mutual

/-- The indented JSON text of a value at a depth. -/
def indented (depth : Nat) : Value → Except EncodeFault Text
  | .list items => do return block "[" "]" depth (← indentedAll (depth + 1) items)
  | .tuple items => do return block "[" "]" depth (← indentedAll (depth + 1) items)
  | .mapping entries => do return block "\x7b" "\x7d" depth (← indentedEntries (depth + 1) entries)
  | v =>
    match scalar? v with
    | some t => t
    | none => .error (.unserializable v.typeName)

/-- The indented JSON texts of several values. -/
def indentedAll (depth : Nat) : List Value → Except EncodeFault (List Text)
  | [] => .ok []
  | x :: xs => do
    let t ← indented depth x
    return t :: (← indentedAll depth xs)

/-- The indented JSON texts of the entries of a mapping. -/
def indentedEntries (depth : Nat) : List (Value × Value) → Except EncodeFault (List Text)
  | [] => .ok []
  | (key, item) :: rest => do
    let name ← entryName key
    let t ← indented depth item
    return (quote name ++ Text.ofString ": " ++ t) :: (← indentedEntries depth rest)

end

end SourceDocs.Json
