import SourceDocs.Record.Basic

/-!
# Duplicate records

An attribute that is assigned in several places yields several `member` records of one long name.
`resolveDuplicates` keeps the one with the least number, or none if a record of another kind
describes the symbol already.
-/

namespace SourceDocs

/-- Whether a record describes a member. -/
def DocRecord.isMember (r : DocRecord) : Bool := r.kind.isString "member"

/-- A record in a list, with the identity of the object it is. -/
structure Held where
  identity : Nat
  record : DocRecord
deriving Inhabited

/-- The record with the least number, of several the first. -/
def leastId : List Held → Option Held
  | [] => none
  | h :: rest =>
    match leastId rest with
    | none => some h
    | some l => if l.record.docId < h.record.docId then some l else some h

/-- Things in groups, each under the long name that they share. -/
abbrev Groups (α : Type) := List (Text × List α)

/-- Adds a thing to the group of a long name; a new group comes last. -/
def Groups.add {α : Type} (groups : Groups α) (longname : Text) (a : α) : Groups α :=
  if groups.any fun g => g.1 = longname then
    groups.map fun g => if g.1 = longname then (g.1, g.2 ++ [a]) else g
  else groups ++ [(longname, [a])]

/-- What a function gives for each record, grouped by the long names. -/
def Groups.ofHeld {α : Type} (f : Held → α) (held : List Held) : Groups α :=
  held.foldl (fun groups h => groups.add h.record.longname (f h)) []

/-- The things in the group of a long name. -/
def Groups.under {α : Type} (groups : Groups α) (longname : Text) : List α :=
  (groups.lookup longname).getD []

/-- The members of a long name that are dropped, given the kinds of the records of that name: all of
them if another kind is among these, and otherwise all but the one with the least number. -/
def redundant (kinds : List Text) (members : List Held) : List Held :=
  if kinds.any fun k => !k.isString "member" then members
  else members.filter fun m => (leastId members).map Held.identity ≠ some m.identity

/-- The identities of the records that are dropped. -/
def removedFrom (all : List Held) : List Nat :=
  let kinds := Groups.ofHeld (fun h => h.record.kind) all
  let members := Groups.ofHeld id (all.filter fun h => h.record.isMember)
  members.flatMap fun g => (redundant (kinds.under g.1) g.2).map Held.identity

/-- Drops redundant members from a list in which an object may occur several times. -/
def resolveHeld (all : List Held) : List Held :=
  let removed := removedFrom all
  all.filter fun h => h.identity ∉ removed

/-- Drops redundant members from a list of distinct records; the others keep their order. -/
def resolveDuplicates (records : List DocRecord) : List DocRecord :=
  (resolveHeld (records.zipIdx.map fun (r, i) => ⟨i, r⟩)).map Held.record

end SourceDocs
