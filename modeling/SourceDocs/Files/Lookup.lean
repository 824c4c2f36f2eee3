import SourceDocs.Files.Entry

/-!
# Following paths

`follow` finds where a path leads in a file tree, following symbolic links as the operating system
does.  `realNames` resolves a path without demanding that it exists: what is missing keeps its
names.
-/

namespace SourceDocs.Files

/-- The most links that are followed in one look-up. -/
def maxLinks : Nat := 40

/-- The longest name in bytes. -/
def maxName : Nat := 255

/-- A path must have fewer bytes. -/
def pathBound : Nat := 4096

/-- Surrogates that stand for bytes of names that are no UTF-8. -/
def isByte (c : CodePoint) : Bool := 0xDC80 ≤ c.val && c.val ≤ 0xDCFF

/-- The number of bytes of a name. -/
def byteLength (name : Text) : Nat :=
  name.foldr (fun c n => (if isByte c then 1 else c.utf8Length) + n) 0

/-- The names of a link's target, and whether it begins at the root. -/
def targetNames (target : Text) : Bool × List Text :=
  let p := Path.ofText target
  (p.isAbsolute, p.names)

/-- Where a look-up stops: at an existing entry, behind the last existing directory, or at a
link. -/
inductive Stop where
  | found (names : List Text) (e : Entry)
  | missing (names : List Text)
  | link (directory : List Text) (target : Text) (rest : List Text)

/-- Goes from a directory along names up to the first link. -/
def advance (tree : Entry) (followLast : Bool) : List Text → List Text → Except FileFault Stop
  | here, [] =>
    match tree.get? here with
    | some e => .ok (.found here e)
    | none => .error .notFound
  | here, n :: rest =>
    match tree.get? here with
    | some (.directory es) =>
      if n.isString ".." then advance tree followLast here.dropLast rest
      else if maxName < byteLength n then .error .nameTooLong
      else
        match es.lookup n with
        | none => if rest.isEmpty then .ok (.missing (here ++ [n])) else .error .notFound
        | some (.link target) =>
          if rest.isEmpty && !followLast then .ok (.found (here ++ [n]) (.link target))
          else .ok (.link here target rest)
        | some _ => advance tree followLast (here ++ [n]) rest
    | some _ => .error .notDirectory
    | none => .error .notFound

/-- Where names lead from a directory: the real names, and the entry if there is one. -/
def followNames (tree : Entry) (followLast : Bool) :
    Nat → List Text → List Text → Except FileFault (List Text × Option Entry)
  | links, here, rest =>
    match advance tree followLast here rest with
    | .error f => .error f
    | .ok (.found names e) => .ok (names, some e)
    | .ok (.missing names) => .ok (names, none)
    | .ok (.link directory target rest) =>
      match links with
      | 0 => .error .linkLoop
      | n + 1 =>
        let (fromRoot, names) := targetNames target
        followNames tree followLast n (if fromRoot then [] else directory) (names ++ rest)

/-- Whether the operating system can be handed a path at all. -/
def checkPath (p : Path) : Except FileFault Unit :=
  let bad (c : CodePoint) : Bool := c.isSurrogate && !isByte c
  if p.names.any fun n => n.any bad then .error .unencodable
  else if p.names.any fun n => n.any (· = (0 : CodePoint)) then .error .nulCharacter
  else .ok ()

/-- Whether the operating system looks a path up at all. -/
def checkLookup (p : Path) : Except FileFault Unit := do
  checkPath p
  if pathBound ≤ byteLength p.toText then throw .nameTooLong

/-- Where a path leads, seen from the current directory. -/
def follow (tree : Entry) (current : List Text) (p : Path) (followLast : Bool := true) :
    Except FileFault (List Text × Option Entry) := do
  checkLookup p
  followNames tree followLast maxLinks (if p.isAbsolute then [] else current) p.names

/-- The entry that a path leads to. -/
def entry (tree : Entry) (current : List Text) (p : Path) : Except FileFault Entry := do
  match ← follow tree current p with
  | (_, some e) => return e
  | (_, none) => .error .notFound

/-! ## Real names -/

/-- Links that have been met while resolving a path: where each leads, unless it is still being
resolved. -/
abbrev Seen := List (List Text × Option (List Text))

/-- Resolves names one by one: the names reached, whether no loop was met, and the links seen.  A
loop leaves the rest of the path as it is. -/
def resolveNames (tree : Entry) :
    Nat → List Text → List Text → Seen → (List Text × Bool) × Seen
  | 0, here, rest, seen => ((here ++ rest, false), seen)
  | _, here, [], seen => ((here, true), seen)
  | fuel + 1, here, n :: rest, seen =>
    if n.isString ".." then resolveNames tree fuel here.dropLast rest seen
    else
      let there := here ++ [n]
      match follow tree [] ⟨1, there⟩ false with
      | .ok (_, some (.link target)) =>
        match seen.lookup there with
        | some (some known) => resolveNames tree fuel known rest seen
        | some none => ((there ++ rest, false), seen)
        | none =>
          let (fromRoot, names) := targetNames target
          let start := if fromRoot then [] else here
          match resolveNames tree fuel start names ((there, none) :: seen) with
          | ((found, true), seen) => resolveNames tree fuel found rest ((there, some found) :: seen)
          | ((found, false), seen) => ((found ++ rest, false), seen)
      | _ => resolveNames tree fuel there rest seen

mutual

/-- The number of names in all links of a tree. -/
def linkNames : Entry → Nat
  | .file _ => 0
  | .directory es => linkNamesOf es
  | .link target => 1 + target.length

/-- The number of names in all links of a directory. -/
def linkNamesOf : List (Text × Entry) → Nat
  | [] => 0
  | (_, e) :: rest => linkNames e + linkNamesOf rest

end

/-- The names of a path with all links resolved; names that do not exist stay.  A path that leads
into a loop of links has none. -/
def realPath (tree : Entry) (current : List Text) (p : Path) : Except FileFault Path := do
  checkPath p
  let start := if p.isAbsolute then [] else current
  let fuel := (p.names.length + 1) * (linkNames tree + 2) + 2
  let ((names, _), _) := resolveNames tree fuel start p.names []
  let real : Path := ⟨1, Path.withoutDots names⟩
  match follow tree current real with
  | .error .linkLoop => .error .unresolvable
  | _ => return real

end SourceDocs.Files
