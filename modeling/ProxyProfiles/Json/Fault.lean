/-!
# Why a JSON text is not read

A text can hold something else than what is wanted, although it is well formed as far as it
was read; it can be malformed; or it can end too early. Only the first kind says what is
wrong, in the wording collected here.
-/

namespace ProxyProfiles.Json

/-- Why a text is not read. -/
inductive Fault where
  /-- The text holds something else than what is wanted. -/
  | mismatch (message : String)
  /-- The text is not JSON, goes on behind its value, or passes a limit. -/
  | malformed
  /-- The text ends before its value does. -/
  | truncated
deriving DecidableEq, Repr

namespace Fault

/-- A value of the wrong kind. -/
def wrongType (found wanted : String) : Fault :=
  .mismatch ("invalid type: " ++ found ++ ", expected " ++ wanted)

/-- A value of the right kind that is out of bounds. -/
def wrongValue (found wanted : String) : Fault :=
  .mismatch ("invalid value: " ++ found ++ ", expected " ++ wanted)

/-- A list of fields that ends too early. -/
def wrongLength (found wanted : String) : Fault :=
  .mismatch ("invalid length " ++ found ++ ", expected " ++ wanted)

/-- A member that an object lacks. -/
def missingField (name : String) : Fault :=
  .mismatch ("missing field `" ++ name ++ "`")

/-- A member that an object holds twice. -/
def duplicateField (name : String) : Fault :=
  .mismatch ("duplicate field `" ++ name ++ "`")

/-- A name that is none of those allowed. -/
def unknownVariant (found wanted : String) : Fault :=
  .mismatch ("unknown variant `" ++ found ++ "`, expected " ++ wanted)

end Fault

end ProxyProfiles.Json
