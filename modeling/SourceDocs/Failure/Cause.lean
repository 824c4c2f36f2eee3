import SourceDocs.Extraction.Symbols
import SourceDocs.Failure.Misuse
import SourceDocs.Files.Entry
import SourceDocs.Json.Scalar
import SourceDocs.Source.Grammar

/-!
# Causes of failures

A `Cause` is what goes wrong underneath the program: in the file system, in a text encoding, in a
source text, in a collaborator.  `Cause.text` describes it.
-/

namespace SourceDocs

/-- Why the code of a plugin cannot be imported. -/
inductive ImportFault where
  | noSuchModule
  | failed
deriving DecidableEq, Inhabited

/-- What goes wrong underneath the program. -/
inductive Cause where
  | file (f : FileFault)
  | codec (f : CodecFault)
  | encode (f : Json.EncodeFault)
  | source (f : Source.SourceFault)
  | symbols (f : Extraction.Fault)
  | misuse (f : MisuseFault)
  | load (f : ImportFault)
  /-- The home directory of a user is not known. -/
  | noHome
  /-- Calls nest deeper than the stack allows. -/
  | tooDeep
  /-- A pattern is malformed. -/
  | pattern
  /-- A configuration text is malformed. -/
  | markup
  /-- A failure that a collaborator describes itself, with the name of its kind. -/
  | own (kind : String) (text : Text)
deriving Inhabited

namespace Cause

/-- A description of a cause. -/
def text : Cause → Text
  | .file f => f.text
  | .codec .undecodable => "bytes cannot be decoded"
  | .codec .unencodable => "text cannot be encoded"
  | .codec .unknownCodec => "unknown encoding"
  | .codec .unsuitable => "text does not suit the encoding"
  | .encode (.unserializable t) => "Object of type " ++ t ++ " is not JSON serializable"
  | .encode (.badKey t) => "Keys must be str, int, float, bool or None, not " ++ t
  | .encode (.badIndexKey t) => "keys must be str, int, float, bool or None, not " ++ t
  | .encode .tooManyDigits => "Exceeds the limit (4300 digits) for integer string conversion"
  | .source (.coding .nulByte) => "source code string cannot contain null bytes"
  | .source (.coding _) => "unknown or contradictory encoding"
  | .source (.grammar f) => f.what
  | .symbols (.incomplete name) => "node has no " ++ name
  | .symbols (.unprintable _) => "expression cannot be printed"
  | .misuse .wrongType => "value of the wrong type"
  | .misuse .missingKey => "missing key"
  | .misuse .missingAttribute => "missing attribute"
  | .misuse .badValue => "invalid value"
  | .misuse .badPosition => "position out of range"
  | .misuse .overflow => "number too large"
  | .misuse .inconsistency => "contradictory result"
  | .misuse .unsupported => "unsupported request"
  | .load .noSuchModule => "no such module"
  | .load .failed => "import failed"
  | .noHome => "Could not determine home directory."
  | .tooDeep => "maximum recursion depth exceeded"
  | .pattern => "malformed pattern"
  | .markup => "malformed markup"
  | .own _ t => t

end Cause

end SourceDocs
