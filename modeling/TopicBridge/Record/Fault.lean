import TopicBridge.Payload.Fault

/-! # Faults of records

Why a message does not become a record of a rule.
-/

namespace TopicBridge

/-- The tables of a rule that map captured texts to others. -/
inductive TextMap
  | field
  | tag
  deriving DecidableEq, Repr

/-- The name of a table. -/
def TextMap.name : TextMap → String
  | field => "field_map"
  | tag => "tag_map"

/-- Why a message does not become a record of a rule. -/
inductive RecordFault
  /-- The payload does not become a value. -/
  | conversion (cause : ConversionFault)
  /-- A table has no entry for a captured text. -/
  | unmapped (table : TextMap) (token text : String)
  deriving DecidableEq, Repr

/-- The wording of a fault. -/
def RecordFault.message : RecordFault → String
  | conversion cause => "Conversion error: " ++ cause.message
  | unmapped table token text =>
    "No " ++ table.name ++ " entry for token '" ++ token ++ "' value '" ++ text ++ "'"

end TopicBridge
