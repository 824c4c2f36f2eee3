import SourceDocs.Source.Word

/-!
# Tokens of a source text

A token has a kind, its text, the place where it begins and ends, and the number of brackets open
behind it.  Lines count from one and columns are offsets in UTF-8 bytes.
-/

namespace SourceDocs.Source

/-- The kind of a token. -/
inductive TokenKind where
  | name
  | keyword
  | number
  | string
  | operator
  | newline
  | indent
  | dedent
  | endOfFile
deriving DecidableEq, Inhabited

/-- A place in a source text. -/
structure Place where
  line : Nat
  column : Nat
deriving DecidableEq, Inhabited

/-- A token of a source text. -/
structure Token where
  kind : TokenKind
  text : Text
  /-- The word of a name, a keyword or an operator. -/
  word : Word
  start : Place
  stop : Place
  depth : Nat
deriving Inhabited

/-- Whether a token carries layout only, so that it never ends a piece of syntax. -/
def Token.isLayout (t : Token) : Bool :=
  match t.kind with
  | .newline | .indent | .dedent | .endOfFile => true
  | _ => false

/-- What a fault in a source text concerns. -/
inductive FaultKind where
  | form
  | indentation
  /-- Tabs and blanks are mixed. -/
  | tabs
  /-- The text could not be decoded, as opposed to not being well formed. -/
  | undecodable
deriving DecidableEq, Inhabited

/-- A fault in a source text: what is wrong and, if known, on which line. -/
structure Fault where
  what : String
  line : Option Nat
  kind : FaultKind := .form
deriving Inhabited

/-- How the tokens of a text end when one of them is malformed. -/
structure LexFault where
  fault : Fault
  /-- The fault concerns a token itself rather than the layout, and outweighs a misplaced token. -/
  decisive : Bool
  /-- The line of the innermost open bracket. -/
  openLine : Option Nat
deriving Inhabited

/-- The tokens of a source text, and the fault that ended them. -/
structure Tokens where
  tokens : Array Token
  fault : Option LexFault
deriving Inhabited

end SourceDocs.Source
