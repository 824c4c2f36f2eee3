import SourceDocs.World

/-!
# Listing a directory

`World.listing` gives the files below a directory with their bytes.  A directory that holds nothing
is listed too, so that the listing tells everything about the tree but its links: a link to a file
is listed as that file, and other links are left out.
-/

namespace SourceDocs

/-- A file below a directory with its bytes, or an empty directory. -/
structure Listed where
  names : List Text
  data : Option (List UInt8)

namespace World

mutual

/-- The listing of an entry with the given names below a base. -/
def listingOf (w : World) (base names : List Text) : Entry → List Listed
  | .file data => [⟨names, some data⟩]
  | .directory [] => [⟨names, none⟩]
  | .directory es => listingOfAll w base names es
  | .link _ =>
    match w.entry ⟨1, base ++ names⟩ with
    | .ok (.file data) => [⟨names, some data⟩]
    | _ => []

/-- The listing of the entries of a directory. -/
def listingOfAll (w : World) (base names : List Text) : List (Text × Entry) → List Listed
  | [] => []
  | (n, e) :: rest => listingOf w base (names ++ [n]) e ++ listingOfAll w base names rest

end

/-- The files below a directory; `none` if there is no directory at the path. -/
def listing (w : World) (p : Path) : Option (List Listed) :=
  match Files.follow w.tree w.current p with
  | .ok (base, some (.directory es)) => some (listingOfAll w base [] es)
  | _ => none

end World

end SourceDocs
