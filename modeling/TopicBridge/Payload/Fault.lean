import TopicBridge.Number.Decimal

/-! # Faults of conversion

Why a payload does not become a value, with the wording of each cause.
-/

namespace TopicBridge

/-- Why a payload does not become a value. -/
inductive ConversionFault
  /-- No kind has this name. -/
  | unknownKind (name : String)
  /-- The bytes are no text. -/
  | notText
  | notInt (raw : String) (cause : IntFault)
  | notFloat (raw : String) (cause : FloatFault)
  | notBool (raw : String)
  /-- A path into the document is asked for and none is given. -/
  | noPath
  /-- A segment of a path leads nowhere. -/
  | unresolved (path segment : String)
  deriving DecidableEq, Repr

/-- The wording of a fault. -/
def ConversionFault.message : ConversionFault → String
  | unknownKind name => "Invalid type '" ++ name ++ "'"
  | notText => "Payload is not valid UTF-8"
  | notInt raw cause => "Cannot convert '" ++ raw ++ "' to int: " ++ cause.message
  | notFloat raw cause => "Cannot convert '" ++ raw ++ "' to float: " ++ cause.message
  | notBool raw => "Cannot convert '" ++ raw ++ "' to bool"
  | noPath => "Type 'json' requires a json path"
  | unresolved path segment =>
    "JSON path '" ++ path ++ "' does not resolve at segment '" ++ segment ++ "'"

end TopicBridge
