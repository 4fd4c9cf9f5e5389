import TopicBridge.Record.Basic
import TopicBridge.Text.Split

/-! # Lines

A record as a line: the measurement, its tags, a space and its fields. Commas, spaces and equals
signs in names are marked with a backslash, and a field that is a text stands between quotes. Tags
without text and fields that are no finite numbers are left out.
-/

namespace TopicBridge

/-- Why a record has no line. -/
inductive LineFault
  | noMeasurement
  | noFields (measurement : String)
  deriving DecidableEq, Repr

/-- The wording of a fault. -/
def LineFault.message : LineFault → String
  | noMeasurement => "Record has no measurement"
  | noFields measurement => "Record for measurement '" ++ measurement ++ "' has no fields"

namespace Line

/-- Puts a backslash in front of the given characters. -/
def mark (marked : List Char) (s : List Char) : List Char :=
  s.flatMap fun c => if c ∈ marked then ['\\', c] else [c]

/-- A measurement in a line. -/
def measurement (s : String) : List Char := mark [',', ' '] s.toList

/-- A key or the text of a tag in a line. -/
def name (s : String) : List Char := mark [',', '=', ' '] s.toList

/-- The value of a field in a line. Integers end with `i`. -/
def value : Value → List Char
  | .float x => x.toPlain.toList
  | .int n => (toString n).toList ++ ['i']
  | .bool b => (Value.bool b).toText.toList
  | .text s => '"' :: mark ['\\', '"'] s.toList ++ ['"']

/-- Whether a value can stand in a line: a number has to be finite. -/
def isWritable : Value → Bool
  | .float x => x.isFinite
  | _ => true

/-- A tag with the comma in front of it. -/
def tag (key text : String) : List Char := ',' :: name key ++ '=' :: name text

/-- A field. -/
def field (key : String) (v : Value) : List Char := name key ++ '=' :: value v

/-- The tags of a record that have a text. -/
def keptTags (r : Record) : List (String × String) := r.tags.entries.filter fun (_, s) => !s.isEmpty

/-- The fields of a record that can stand in a line. -/
def keptFields (r : Record) : List (String × Value) :=
  r.fields.entries.filter fun (_, v) => isWritable v

/-- The fields of a line with commas between them. -/
def fields (entries : List (String × Value)) : List Char :=
  Text.join ',' (entries.map fun (k, v) => field k v)

end Line

namespace Record

/-- The line of a record with a measurement. -/
def lineOf (r : Record) (name : String) : Except LineFault String :=
  if (Line.keptFields r).isEmpty then .error (.noFields name)
  else
    .ok <| String.ofList <| Line.measurement name ++
      (Line.keptTags r).flatMap (fun (k, s) => Line.tag k s) ++
        ' ' :: Line.fields (Line.keptFields r)

/-- The line of a record. -/
def line (r : Record) : Except LineFault String :=
  match r.measurement with
  | some name => if name.isEmpty then .error .noMeasurement else r.lineOf name
  | none => .error .noMeasurement

/-- The lines of records, one below the other; the first fault counts. -/
def batch (rs : List Record) : Except LineFault String :=
  (rs.mapM line).map fun lines => Text.joined '\n' lines

end Record

end TopicBridge
