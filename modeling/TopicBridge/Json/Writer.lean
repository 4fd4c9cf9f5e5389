import TopicBridge.Json.Basic

/-! # Writing documents

The compact text of a document, and an indented one with one member or item a line.
-/

namespace TopicBridge

namespace Json

/-- The digits of a number below sixteen. -/
def hexDigit (n : Nat) : Char := if n < 10 then Char.ofNat (48 + n) else Char.ofNat (87 + n)

/-- A character inside a quoted text. Quotes, backslashes and control characters are escaped. -/
def escapeChar (c : Char) : List Char :=
  if c = '"' then ['\\', '"']
  else if c = '\\' then ['\\', '\\']
  else if c = '\n' then ['\\', 'n']
  else if c = '\r' then ['\\', 'r']
  else if c = '\t' then ['\\', 't']
  else if c = '\x08' then ['\\', 'b']
  else if c = '\x0c' then ['\\', 'f']
  else if c.toNat < 0x20 then
    ['\\', 'u', '0', '0', hexDigit (c.toNat / 16), hexDigit (c.toNat % 16)]
  else [c]

/-- A text between quotes. -/
def quote (s : List Char) : List Char := '"' :: s.flatMap escapeChar ++ ['"']

/-- The text of a number; one that is not finite has none and is written as `null`. -/
def Number.render : Number → List Char
  | .int n => (toString n).toList
  | .real x => ((x.toDocument?).getD "null").toList

/-- Pieces with commas between them. -/
def commas : List (List Char) → List Char
  | [] => []
  | [piece] => piece
  | piece :: pieces => piece ++ ',' :: commas pieces

mutual

/-- The compact text of a document. -/
def renderChars : Json → List Char
  | null => "null".toList
  | bool b => if b then "true".toList else "false".toList
  | number n => n.render
  | text s => quote s.toList
  | array items => '[' :: commas (renderItems items) ++ [']']
  | object members => '\x7b' :: commas (renderMembers members) ++ ['\x7d']

/-- The compact texts of items. -/
def renderItems : List Json → List (List Char)
  | [] => []
  | j :: js => renderChars j :: renderItems js

/-- The compact texts of members. -/
def renderMembers : List (String × Json) → List (List Char)
  | [] => []
  | (k, j) :: ms => (quote k.toList ++ ':' :: renderChars j) :: renderMembers ms

end

/-- The compact text of a document. -/
def render (j : Json) : String := String.ofList (renderChars j)

/-- A new line with the blanks in front of it. -/
def newline (indent : Nat) : List Char := '\n' :: List.replicate (2 * indent) ' '

mutual

/-- The indented text of a document. -/
def prettyChars (indent : Nat) : Json → List Char
  | array (j :: js) =>
    '[' :: commas (prettyItems (indent + 1) (j :: js)) ++ newline indent ++ [']']
  | object (m :: ms) =>
    '\x7b' :: commas (prettyMembers (indent + 1) (m :: ms)) ++ newline indent ++ ['\x7d']
  | null => "null".toList
  | bool b => if b then "true".toList else "false".toList
  | number n => n.render
  | text s => quote s.toList
  | array [] => "[]".toList
  | object [] => ['\x7b', '\x7d']

/-- The indented texts of items. -/
def prettyItems (indent : Nat) : List Json → List (List Char)
  | [] => []
  | j :: js => (newline indent ++ prettyChars indent j) :: prettyItems indent js

/-- The indented texts of members. -/
def prettyMembers (indent : Nat) : List (String × Json) → List (List Char)
  | [] => []
  | (k, j) :: ms =>
    (newline indent ++ quote k.toList ++ ": ".toList ++ prettyChars indent j) ::
      prettyMembers indent ms

end

/-- The indented text of a document; members keep the order they are given in. -/
def pretty (j : Json) : String := String.ofList (prettyChars 0 j)

end Json

end TopicBridge
