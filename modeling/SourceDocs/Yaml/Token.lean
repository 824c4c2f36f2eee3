import SourceDocs.Failure.Misuse
import SourceDocs.Text.Basic

/-!
# Tokens of configuration texts

A YAML text is a sequence of tokens: marks of collections and their entries, anchors and references
to them, tags, and scalars.
-/

namespace SourceDocs.Yaml

/-- Why a text cannot be loaded. -/
inductive Fault where
  | malformed
  /-- A scalar cannot be turned into the value that its tag asks for. -/
  | misuse (f : MisuseFault)
deriving DecidableEq

/-- A directive before a document. -/
inductive Directive where
  | version (major minor : Nat)
  /-- A handle stands for the beginning of tags. -/
  | tagHandle (handle : Text) (start : Text)
  | other

/-- A token. -/
inductive Token where
  | directive (d : Directive)
  | documentStart
  | documentEnd
  | blockSequence
  | blockMapping
  | blockEnd
  | flowSequence
  | flowSequenceEnd
  | flowMapping
  | flowMappingEnd
  /-- A dash before an entry of a block sequence. -/
  | blockEntry
  /-- A comma between the entries of a flow collection. -/
  | flowEntry
  | key
  | value
  | reference (name : Text)
  | anchor (name : Text)
  /-- A tag, written with a handle or in full. -/
  | tag (handle : Option Text) (suffix : Text)
  | scalar (plain : Bool) (text : Text)
  /-- What stands in the text from here on cannot be read. -/
  | fault (f : Fault)
  | streamEnd

end SourceDocs.Yaml
