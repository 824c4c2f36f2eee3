/-!
# Misuse

What can be wrong with a value that is handed to an operation.
-/

namespace SourceDocs

/-- Why an operation cannot use what it was given. -/
inductive MisuseFault where
  /-- A value of the wrong type. -/
  | wrongType
  /-- A key that is not there. -/
  | missingKey
  /-- An attribute that is not there. -/
  | missingAttribute
  /-- A value of the right type that is not allowed. -/
  | badValue
  /-- A position outside a sequence. -/
  | badPosition
  /-- A number that is too large. -/
  | overflow
  /-- A computation contradicts itself. -/
  | inconsistency
  /-- A request that goes beyond what an operation supports. -/
  | unsupported
deriving DecidableEq, Inhabited

end SourceDocs
