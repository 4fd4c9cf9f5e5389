import TopicBridge.Json.Schema
import TopicBridge.Json.Writer
import TopicBridge.Value

/-! # Records

A record is what a message becomes: fields with values and tags with texts under a measurement. It
has a form as a document, from which it can be read back.
-/

namespace TopicBridge

/-- A record to be written. The measurement is missing if nothing named one. -/
structure Record where
  measurement : Option String
  fields : Table Value
  tags : Table String
  deriving DecidableEq, Repr

namespace Record

/-- The record without measurement, fields and tags. -/
def empty : Record := ⟨none, .empty, .empty⟩

/-- Sets a field. -/
def setField (r : Record) (key : String) (value : Value) : Record :=
  { r with fields := r.fields.insert key value }

/-- Sets a tag. -/
def setTag (r : Record) (key text : String) : Record :=
  { r with tags := r.tags.insert key text }

/-- Sets the measurement. -/
def setMeasurement (r : Record) (name : String) : Record := { r with measurement := some name }

/-- A text or `null`. -/
def optionalText : Option String → Json
  | some s => .text s
  | none => .null

/-- A record as a document: measurement, fields and tags in this order. -/
def toJson (r : Record) : Json :=
  .object [("measurement", optionalText r.measurement),
    ("fields", .object (r.fields.map Value.toJson).entries),
    ("tags", .object (r.tags.map Json.text).entries)]

/-- The shape of a record as a document. -/
def schema : Json.Schema :=
  .fields [("measurement", true, .optional .text), ("fields", false, .table .scalar),
    ("tags", false, .table .text)]

/-- The text that a document is. -/
def textOf? : Json → Option String
  | .text s => some s
  | _ => none

/-- The members of an object. -/
def membersOf? : Json → Option (List (String × Json))
  | .object members => some members
  | _ => none

/-- The members of an object, all read the same way. -/
def tableOf? {α : Type} (item : Json → Option α) (j : Json) : Option (Table α) := do
  let members ← membersOf? j
  return .ofList (← members.mapM fun (k, j) => return (k, ← item j))

/-- The record that a document of the right shape is. -/
def ofJson? (j : Json) : Option Record := do
  let fields ← tableOf? Value.ofJson? (← j.get? "fields")
  let tags ← tableOf? textOf? (← j.get? "tags")
  return ⟨(j.get? "measurement").bind textOf?, fields, tags⟩

/-- The text of a record as a document. -/
def render (r : Record) : String := r.toJson.render

/-- Reads the text of a record as a document. -/
def parse? (s : String) : Option Record := (Json.parseAs? schema s).bind ofJson?

end Record

end TopicBridge
