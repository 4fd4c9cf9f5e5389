import TopicBridge.Json.Basic

/-! # Values

What a field can hold. A value has a plain text, which is how it stands in a tag, and a form as a
document.
-/

namespace TopicBridge

/-- A value of a field. -/
inductive Value
  | bool (b : Bool)
  | int (n : Int)
  | float (x : Binary64)
  | text (s : String)
  deriving DecidableEq, Repr, Inhabited

namespace Value

/-- The plain text of a value. -/
def toText : Value → String
  | bool b => if b then "true" else "false"
  | int n => toString n
  | float x => x.toPlain
  | text s => s

/-- A value as a document. -/
def toJson : Value → Json
  | bool b => .bool b
  | int n => .ofInt n
  | float x => .number (.real x)
  | text s => .text s

/-- The value that a document is: a truth value, a number or a text. A number that does not fit 64
bits with a sign becomes a floating-point number. -/
def ofJson? : Json → Option Value
  | .bool b => some (bool b)
  | .number (.int n) => some (if fitsInt64 n then int n else float (.ofInt n))
  | .number (.real x) => some (float x)
  | .text s => some (text s)
  | _ => none

end Value

end TopicBridge
