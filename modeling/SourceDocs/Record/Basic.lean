import SourceDocs.Value.Basic

/-!
# Documentation records

A record describes one symbol: what kind of thing it is, its name and its unique long name, and what
else is known about it.  A `Draft` is a record that has no number yet.
-/

namespace SourceDocs

/-- What a record says about a symbol. -/
structure Draft where
  kind : Text
  name : Text
  longname : Text
  static : Bool := false
  access : Text := Text.ofString "public"
  /-- What else is known, under distinct names. -/
  payload : List (Text × Value) := []
deriving Inhabited

/-- A documentation record. -/
structure DocRecord extends Draft where
  docId : Int
deriving Inhabited

namespace DocRecord

/-- The fields that every record has, in order. -/
def coreEntries (r : DocRecord) : List (Value × Value) :=
  [(Value.ofString "__docId__", .int r.docId),
   (Value.ofString "kind", .text r.kind),
   (Value.ofString "name", .text r.name),
   (Value.ofString "longname", .text r.longname),
   (Value.ofString "static", .bool r.static),
   (Value.ofString "access", .text r.access)]

/-- A record as a mapping: its fields, then what of the payload is not named like one of them. -/
def toValue (r : DocRecord) : Value :=
  .mapping (r.payload.foldl (fun acc e => Value.setDefault acc (.text e.1) e.2) r.coreEntries)

end DocRecord

/-- Drafts numbered from `first` on. -/
def numberDrafts (first : Int) (drafts : List Draft) : List DocRecord :=
  drafts.zipIdx.map fun (d, i) => { toDraft := d, docId := first + (i : Nat) }

end SourceDocs
