import SourceDocs.Failure.Basic
import SourceDocs.Pattern.Matching

/-!
# Choosing files

A matcher accepts a path when one of its includes occurs in it and none of its excludes does.
-/

namespace SourceDocs

/-- Patterns that choose paths. -/
structure Matcher where
  includes : List Program
  excludes : List Program

namespace Matcher

/-- The failure to read a pattern. -/
def readFailure (label : String) (pattern : Text) : Pattern.ReadFault → Failure
  | .malformed => .config (.badPattern label pattern .pattern)
  | .tooLarge => .raised (.misuse .overflow)
  | .tooLong | .contradiction => .raised (.misuse .badValue)
  | .tooWide => .raised (.misuse .unsupported)

/-- Reads a list of patterns. -/
def readAll (label : String) (patterns : List Text) : Except Failure (List Program) :=
  patterns.mapM fun p => (Program.ofText p).mapError (readFailure label p)

/-- A matcher from texts. -/
def ofTexts (includes excludes : List Text) : Except Failure Matcher := do
  let includes ← readAll "include" includes
  let excludes ← readAll "exclude" excludes
  return ⟨includes, excludes⟩

/-- Whether one of several patterns occurs in a path. -/
def anyOccurs (path : Text) : List Program → Except Failure Bool
  | [] => return false
  | p :: rest =>
    match p.search path with
    | .nothing => anyOccurs path rest
    | .found => return true
    | .crossed => .error (.raised (.misuse .inconsistency))

/-- Whether a path is chosen. -/
def accepts (m : Matcher) (path : Text) : Except Failure Bool := do
  if ← anyOccurs path m.includes then return !(← anyOccurs path m.excludes)
  else return false

end Matcher

end SourceDocs
