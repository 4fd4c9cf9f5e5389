import TopicBridge.Number.Shortest
import TopicBridge.Table

/-! # Documents

Documents in the JSON data model. An object that is read holds its members sorted by key with each
key once; one that is made for writing keeps its members in the order they are given in. A number is
an integer if it was written as one and fits 64 bits, with or without sign.
-/

namespace TopicBridge

namespace Json

/-- A number of a document. -/
inductive Number
  | int (n : Int)
  | real (x : Binary64)
  deriving DecidableEq, Repr

end Json

/-- A document. -/
inductive Json
  | null
  | bool (b : Bool)
  | number (n : Json.Number)
  | text (s : String)
  | array (items : List Json)
  | object (members : List (String × Json))
  deriving Repr, Inhabited

/-- Whether an integer fits 64 bits with a sign. -/
def fitsInt64 (n : Int) : Bool := -0x8000000000000000 ≤ n && n < 0x8000000000000000

namespace Json

/-- The object with the given members; of equal keys the last one counts. -/
def ofMembers (members : List (String × Json)) : Json := object (sortMembers members)

/-- The member of an object under a key. -/
def get? (key : String) : Json → Option Json
  | object members => lookup? key members
  | _ => none

/-- An integer as a document. -/
def ofInt (n : Int) : Json := number (.int n)

/-- A natural number as a document. -/
def ofNat (n : Nat) : Json := number (.int n)

/-- A list of texts as a document. -/
def ofTexts (xs : List String) : Json := array (xs.map text)

end Json

end TopicBridge
