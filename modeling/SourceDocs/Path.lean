import SourceDocs.Text.Lines

/-!
# Paths

A path is a sequence of names, perhaps from the root.  Empty names and single dots vanish when a
path is read; double dots stay, because only the file tree knows where they lead.  A path that
begins with exactly two slashes keeps both of them.
-/

namespace SourceDocs

/-- A path: the number of slashes it begins with (at most two) and its names. -/
structure Path where
  root : Nat := 0
  names : List Text := []
deriving DecidableEq, Inhabited

namespace Path

/-- Whether a name vanishes from a path. -/
def vanishes (name : Text) : Bool := name.isEmpty || name.isString "."

/-- The number of slashes that a path beginning with so many keeps. -/
def rootOf (slashes : Nat) : Nat := if slashes = 0 then 0 else if slashes = 2 then 2 else 1

/-- The path written as a text. -/
def ofText (t : Text) : Path :=
  let slashes := (t.takeWhile fun c => c.toChar = '/').length
  ⟨rootOf slashes, (Lines.splitAt '/' (t.drop slashes)).filter fun n => !vanishes n⟩

/-- The path written as a string. -/
def ofString (s : String) : Path := ofText (Text.ofString s)

/-- Whether a path begins at the root. -/
def isAbsolute (p : Path) : Bool := p.root ≠ 0

/-- One path behind another; an absolute one stands for itself. -/
def join (p q : Path) : Path := if q.isAbsolute then q else ⟨p.root, p.names ++ q.names⟩

instance : Append Path := ⟨join⟩

/-- A path with one more name, or with a path written as a text behind it. -/
def child (p : Path) (t : Text) : Path := p.join (ofText t)

/-- The text of a path; the empty path is a dot. -/
def toText (p : Path) : Text :=
  if p.root = 0 && p.names.isEmpty then "."
  else List.replicate p.root (CodePoint.ofChar '/') ++ Text.join "/" p.names

/-- The last name of a path. -/
def name (p : Path) : Text := p.names.getLastD []

/-- The path without its last name. -/
def parent (p : Path) : Path := ⟨p.root, p.names.dropLast⟩

/-- The last name from its last dot on, if that is neither its first nor its last character. -/
def suffix (p : Path) : Text :=
  let behind := p.name.reverse.takeWhile fun c => c.toChar ≠ '.'
  let ending := p.name.drop (p.name.length - behind.length - 1)
  if behind.isEmpty || p.name.length ≤ behind.length + 1 then [] else ending

/-- The last name without its suffix. -/
def stem (p : Path) : Text := p.name.take (p.name.length - p.suffix.length)

/-- The names that two lists begin with alike, dropped from both. -/
def dropCommon : List Text → List Text → List Text × List Text
  | a :: as, b :: bs => if a = b then dropCommon as bs else (a :: as, b :: bs)
  | as, bs => (as, bs)

/-- Resolves double dots by the names before them. -/
def withoutDots (names : List Text) : List Text :=
  (names.foldl (fun done n => if n.isString ".." then done.drop 1 else n :: done) []).reverse

/-- The way from one absolute path to another: up to their common part and down again.  Double dots
are resolved by the names before them. -/
def relativeTo (p start : Path) : Path :=
  let (up, down) := dropCommon (withoutDots start.names) (withoutDots p.names)
  ⟨0, up.map (fun _ => Text.ofString "..") ++ down⟩

/-- The path below another, if it begins with it name by name. -/
def below? (p base : Path) : Option Path :=
  if p.root = base.root && base.names.isPrefixOf p.names then
    some ⟨0, p.names.drop base.names.length⟩
  else none

end Path

end SourceDocs
