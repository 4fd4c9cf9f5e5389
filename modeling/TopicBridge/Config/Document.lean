import TopicBridge.Config.Decoding
import TopicBridge.Record.Basic

/-! # Configurations as documents

The view of documents as nodes of a configuration. No kind of value is taken for another one.
-/

namespace TopicBridge

namespace Json

/-- Pairs keys with items by position; what is left out at the end has to be optional. -/
def byPosition : List (String × Bool) → List Json → Option (List (String × Json))
  | keys, [] => if keys.all (·.2) then some [] else none
  | [], _ :: _ => none
  | (k, _) :: keys, j :: js => (byPosition keys js).map ((k, j) :: ·)

/-- The members of an object with the given keys, or the items of an array by position. -/
def fieldsOf? (keys : List (String × Bool)) : Json → Option (List (String × Json))
  | object members => some members
  | array items => byPosition keys items
  | _ => none

/-- The natural number up to a limit that a document is. -/
def naturalOf? (limit : Nat) : Json → Option Nat
  | number (.int n) => if 0 ≤ n ∧ n ≤ limit then some n.toNat else none
  | _ => none

/-- The truth value that a document is. -/
def flagOf? : Json → Option Bool
  | bool b => some b
  | _ => none

/-- The items of an array. -/
def itemsOf? : Json → Option (List Json)
  | array items => some items
  | _ => none

/-- Whether a document is `null`. -/
def isNull : Json → Bool
  | null => true
  | _ => false

instance : ConfigNode Json where
  text? := Record.textOf?
  flag? := flagOf?
  natural? := naturalOf?
  scalar? := Value.ofJson?
  absent? j := some (isNull j)
  items? := itemsOf?
  entries? := Record.membersOf?
  fields? := fieldsOf?

end Json

/-- Decodes the entries of rules in a document. -/
def Config.ruleEntriesOf? (j : Json) : Option (List RuleEntry) := Config.list? Config.ruleEntry? j

end TopicBridge
