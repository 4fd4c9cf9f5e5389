import TopicBridge.Regex.CharClass
import TopicBridge.Unicode.Script

/-! # Names of character classes

The classes that have a name: the ASCII classes between `[:` and `:]`, and the classes of Unicode
properties, general categories and scripts. Names of the latter match without regard to case,
blanks, hyphens and underscores, and a leading `is` does not count.
-/

namespace TopicBridge

open Unicode

namespace CharClass

/-- The decimal digits, of every script or of ASCII. -/
def digit (unicode : Bool) : CharClass :=
  ranges (if unicode then decimalDigits else [(0x30, 0x39)])

/-- The white-space characters, of Unicode or of ASCII. -/
def space (unicode : Bool) : CharClass :=
  ranges (if unicode then blanks else [(0x9, 0xD), (0x20, 0x20)])

/-- The characters of words, of every script or of ASCII. -/
def word (unicode : Bool) : CharClass :=
  ranges (if unicode then wordRanges else [(0x30, 0x39), (0x41, 0x5A), (0x5F, 0x5F), (0x61, 0x7A)])

/-- The ASCII class with a name. -/
def ascii? : List Char → Option CharClass
  | ['a', 'l', 'n', 'u', 'm'] => some (ranges [(0x30, 0x39), (0x41, 0x5A), (0x61, 0x7A)])
  | ['a', 'l', 'p', 'h', 'a'] => some (ranges [(0x41, 0x5A), (0x61, 0x7A)])
  | ['a', 's', 'c', 'i', 'i'] => some (ranges [(0x0, 0x7F)])
  | ['b', 'l', 'a', 'n', 'k'] => some (ranges [(0x9, 0x9), (0x20, 0x20)])
  | ['c', 'n', 't', 'r', 'l'] => some (ranges [(0x0, 0x1F), (0x7F, 0x7F)])
  | ['d', 'i', 'g', 'i', 't'] => some (ranges [(0x30, 0x39)])
  | ['g', 'r', 'a', 'p', 'h'] => some (ranges [(0x21, 0x7E)])
  | ['l', 'o', 'w', 'e', 'r'] => some (ranges [(0x61, 0x7A)])
  | ['p', 'r', 'i', 'n', 't'] => some (ranges [(0x20, 0x7E)])
  | ['p', 'u', 'n', 'c', 't'] =>
    some (ranges [(0x21, 0x2F), (0x3A, 0x40), (0x5B, 0x60), (0x7B, 0x7E)])
  | ['s', 'p', 'a', 'c', 'e'] => some (ranges [(0x9, 0xD), (0x20, 0x20)])
  | ['u', 'p', 'p', 'e', 'r'] => some (ranges [(0x41, 0x5A)])
  | ['w', 'o', 'r', 'd'] =>
    some (ranges [(0x30, 0x39), (0x41, 0x5A), (0x5F, 0x5F), (0x61, 0x7A)])
  | ['x', 'd', 'i', 'g', 'i', 't'] => some (ranges [(0x30, 0x39), (0x41, 0x46), (0x61, 0x66)])
  | _ => Option.none

/-- A name in small letters without blanks, hyphens, underscores and a leading `is`. -/
def looseName (name : List Char) : String :=
  let small := name.map Char.toLower
  let body := match small with
    | 'i' :: 's' :: rest => rest
    | rest => rest
  let kept := body.filter fun c => c ≠ ' ' && c ≠ '_' && c ≠ '-' && c.toNat < 0x80
  if kept = ['c'] ∧ small ≠ ['c'] ∧ body ≠ small then "isc" else String.ofList kept

/-- The first of the names in the group that holds `name`. -/
def firstName? (groups : List (List String)) (name : String) : Option String :=
  (groups.find? fun names => names.any fun n => looseName n.toList == name).bind List.head?

/-- The class of a general category or of one of the sets that stand beside them. -/
def category? (name : String) : Option CharClass :=
  if name == "any" then some (ranges [(0, 0x10FFFF)])
  else if name == "ascii" then some (ranges [(0, 0x7F)])
  else if name == "assigned" then some (complement (ranges (categoryRanges "Cn")))
  else (firstName? categoryNames name).map fun short => ranges (categoryRanges short)

/-- The class of a script. -/
def script? (name : String) : Option CharClass :=
  (firstName? scriptNames name).map fun code => ranges (scriptRanges code)

/-- The class of a property, a general category or a script, looked up in this order. Three names
mean a category although properties share them. -/
def named? (name : List Char) : Option CharClass :=
  let name := looseName name
  let property :=
    if name == "cf" || name == "sc" || name == "lc" then Option.none else propertyRanges? name
  match property with
  | some rs => some (ranges rs)
  | Option.none => (category? name).orElse fun _ => script? name

/-- The class of the characters whose property has a value. -/
def valued? (property value : List Char) : Option CharClass :=
  match looseName property with
  | "generalcategory" => category? (looseName value)
  | "gc" => category? (looseName value)
  | "script" => script? (looseName value)
  | "sc" => script? (looseName value)
  | "scriptextensions" => script? (looseName value)
  | "scx" => script? (looseName value)
  | _ => Option.none

end CharClass

end TopicBridge
