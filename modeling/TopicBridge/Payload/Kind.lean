/-! # Kinds of payloads

The kinds that a payload can be converted to, and their names. Case does not matter in a name.
-/

namespace TopicBridge

/-- What a payload is read as. -/
inductive Kind
  | int
  | float
  | bool
  | text
  | json
  deriving DecidableEq, Repr

namespace Kind

/-- The name of a kind. -/
def name : Kind → String
  | int => "int"
  | float => "float"
  | bool => "bool"
  | text => "string"
  | json => "json"

/-- All kinds. -/
def all : List Kind := [int, float, bool, text, json]

/-- A text in lower case; letters beyond ASCII do not turn into ones of ASCII here. -/
def lower (s : String) : String := String.ofList (s.toList.map Char.toLower)

/-- The kind with a name. -/
def ofName? (s : String) : Option Kind := all.find? fun k => k.name = lower s

end Kind

end TopicBridge
