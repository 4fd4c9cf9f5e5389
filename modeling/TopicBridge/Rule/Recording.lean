import TopicBridge.Payload.Convert
import TopicBridge.Record.Fault
import TopicBridge.Rule.Basic

/-! # From messages to records

The record of a rule is written in steps, and a later step replaces what an earlier one wrote under
the same key: parts of the payload, the payload itself, what is the same for every record, and the
captures in order. The first step that fails decides.
-/

namespace TopicBridge

/-- A conversion as a step towards a record. -/
def RecordFault.ofConversion {α : Type} : Except ConversionFault α → Except RecordFault α
  | .ok a => .ok a
  | .error cause => .error (.conversion cause)

namespace PayloadUse

/-- Takes one part out of a document into a record. -/
def takePart (document : Json) (r : Record) (x : Extraction) : Except ConversionFault Record := do
  let kind ← Payload.readKind x.kind
  return r.setField x.field (← Payload.extract document x.path kind)

/-- Takes all parts out of a payload that is a document; any other payload has none. -/
def takeParts (u : PayloadUse) (raw : String) (r : Record) : Except ConversionFault Record :=
  if u.extractions.isEmpty then .ok r
  else
    match Json.parse? raw with
    | some document => u.extractions.foldlM (takePart document) r
    | none => .ok r

/-- Takes a payload as a whole into a record. -/
def takeWhole (u : PayloadUse) (raw : String) (r : Record) : Except ConversionFault Record :=
  if u.isField then (Payload.convert raw u.kind u.path).map (r.setField u.name) else .ok r

/-- Writes what a payload becomes into a record. -/
def apply (u : PayloadUse) (bytes : List UInt8) (r : Record) : Except ConversionFault Record := do
  let raw ← Payload.decode bytes
  takeWhole u raw (← takeParts u raw r)

end PayloadUse

namespace TokenUse

/-- The text that a table maps a captured text to; an empty table is not in use. -/
def mapText (table : TextMap) (entries : Table String) (token text : String) :
    Except RecordFault (Option String) :=
  if entries.isEmpty then .ok none
  else
    match entries.get? text with
    | some mapped => .ok (some mapped)
    | none => .error (.unmapped table token text)

/-- Writes a captured text into a record. A text that it is mapped to replaces it. -/
def apply (u : TokenUse) (token text : String) (r : Record) : Except RecordFault Record := do
  let r := if u.isField then r.setField (u.fieldKey token) (.text text) else r
  let r :=
    match ← mapText .field u.fieldMap token text with
    | some mapped => r.setField (u.fieldKey token) (.text mapped)
    | none => r
  let r := if u.isTag then r.setTag (u.tagKey token) text else r
  let r :=
    match ← mapText .tag u.tagMap token text with
    | some mapped => r.setTag (u.tagKey token) mapped
    | none => r
  return if u.isMeasurement then r.setMeasurement text else r

end TokenUse

namespace Rule

/-- Writes what a payload becomes into a record, if it becomes anything. -/
def applyPayload (rule : Rule) (payload : List UInt8) (r : Record) : Except RecordFault Record :=
  match rule.payload with
  | some u => if u.isUsed then RecordFault.ofConversion (u.apply payload r) else .ok r
  | none => .ok r

/-- Writes what is the same for every record of a rule. -/
def applyStatic (rule : Rule) (r : Record) : Record where
  measurement := rule.measurement.or r.measurement
  fields := r.fields.insertAll rule.fields.entries
  tags := r.tags.insertAll rule.tags.entries

/-- Writes a capture into a record, if the rule has a use for it. -/
def applyCapture (rule : Rule) (r : Record) (entry : String × Capture) :
    Except RecordFault Record :=
  match rule.tokens.get? entry.1 with
  | some u => u.apply entry.1 entry.2.text r
  | none => .ok r

/-- The record that a rule makes of a payload and of the captures of a topic. -/
def record (rule : Rule) (payload : List UInt8) (captures : Captures) :
    Except RecordFault Record := do
  let r ← rule.applyPayload payload .empty
  captures.entries.foldlM rule.applyCapture (rule.applyStatic r)

end Rule

end TopicBridge
