import TopicBridge.Json.Path
import TopicBridge.Json.Reader
import TopicBridge.Payload.Fault
import TopicBridge.Payload.Kind
import TopicBridge.Text.Utf8
import TopicBridge.Unicode.Blank
import TopicBridge.Unicode.Digit
import TopicBridge.Value

/-! # From payloads to values

A payload is a text that becomes a value of a named kind. Without a kind the text decides: what
starts like a number has to be one, the two truth values are recognised in any case, and all else
stays a text. A payload that is a document can give up parts of itself by paths.
-/

namespace TopicBridge.Payload

/-- The text of a payload. -/
def decode (bytes : List UInt8) : Except ConversionFault String :=
  match Text.Utf8.decode? bytes with
  | some s => .ok s
  | none => .error .notText

/-- Reads an integer; white space around it is ignored. -/
def toInt (raw : String) : Except ConversionFault Value :=
  match readInt64 (Unicode.trim raw.toList) with
  | .ok n => .ok (.int n)
  | .error cause => .error (.notInt raw cause)

/-- Reads a floating-point number; white space around it is ignored. -/
def toFloat (raw : String) : Except ConversionFault Value :=
  match readFloat (Unicode.trim raw.toList) with
  | .ok x => .ok (.float x)
  | .error cause => .error (.notFloat raw cause)

/-- Reads a truth value, which may also be written `1` or `0`. -/
def toBool (raw : String) : Except ConversionFault Value :=
  let word := (Unicode.trim raw.toList).map Char.toLower
  if word = "true".toList ∨ word = ['1'] then .ok (.bool true)
  else if word = "false".toList ∨ word = ['0'] then .ok (.bool false)
  else .error (.notBool raw)

/-- Whether a text starts with a digit of any script, or with a point and such a digit. -/
def startsWithDigit : List Char → Bool
  | '.' :: c :: _ => Unicode.isDecimalDigit c
  | c :: _ => Unicode.isDecimalDigit c
  | [] => false

/-- Whether a text starts like a number, with a sign or without. -/
def looksNumeric (raw : List Char) : Bool := startsWithDigit (cutSign raw).2

/-- Lets the text decide what it is. -/
def infer (raw : String) : Except ConversionFault Value :=
  if looksNumeric raw.toList then toFloat raw
  else if Kind.lower raw = "true" ∨ Kind.lower raw = "false" then toBool raw
  else .ok (.text raw)

/-- The part of a document that a path leads to. -/
def resolve (document : Json) (path : String) : Except ConversionFault Json :=
  match document.resolve path with
  | .ok leaf => .ok leaf
  | .error segment => .error (.unresolved path segment)

/-- Converts a payload to a kind. A text that is no document stays as it is where a part of a
document is asked for. -/
def convertTo (raw : String) (path : Option String) : Kind → Except ConversionFault Value
  | .int => toInt raw
  | .float => toFloat raw
  | .bool => toBool raw
  | .text => .ok (.text raw)
  | .json =>
    match path with
    | none => .error .noPath
    | some path =>
      match Json.parse? raw with
      | none => .ok (.text raw)
      | some document => (resolve document path).map fun leaf => .text leaf.leafText

/-- The kind that a name asks for, if a name is given. -/
def readKind : Option String → Except ConversionFault (Option Kind)
  | none => .ok none
  | some name =>
    match Kind.ofName? name with
    | some kind => .ok (some kind)
    | none => .error (.unknownKind name)

/-- Converts a payload to a kind given by name, or lets the text decide. -/
def convert (raw : String) (name path : Option String) : Except ConversionFault Value := do
  match ← readKind name with
  | none => infer raw
  | some kind => convertTo raw path kind

/-- The value of a leaf with the kind that the document gives it; what is neither a truth value nor
a number becomes a text. -/
def ofLeaf (leaf : Json) : Value := (Value.ofJson? leaf).getD (.text leaf.leafText)

/-- Takes a part out of a document, as a kind or as what it is. -/
def extract (document : Json) (path : String) (kind : Option Kind) :
    Except ConversionFault Value := do
  let leaf ← resolve document path
  match kind with
  | none => return ofLeaf leaf
  | some .json => return .text leaf.leafText
  | some kind => convertTo leaf.leafText none kind

end TopicBridge.Payload
