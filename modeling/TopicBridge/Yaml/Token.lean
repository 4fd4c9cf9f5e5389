import TopicBridge.Text.Utf8
import TopicBridge.Yaml.Scalar

/-! # Tokens

The tokens of a text in YAML, and readers for those of them that stand within a line: names of
anchors, tags and directives.
-/

namespace TopicBridge.Yaml

/-- A token. Collections that are only indented open and close too. -/
inductive Token
  /-- A directive for the version of the language. -/
  | version (major minor : Nat)
  /-- A directive that says what a handle of tags stands for. -/
  | tagHandle (handle lead : String)
  | documentStart
  | documentEnd
  | openSequence
  | openMapping
  /-- The end of an indented collection. -/
  | close
  | openBracket
  | closeBracket
  | openBrace
  | closeBrace
  /-- The sign of an item in an indented sequence. -/
  | entry
  | comma
  | key
  | value
  | alias (name : String)
  | anchor (name : String)
  | tag (handle suffix : String)
  | scalar (style : Style) (text : String)
  deriving DecidableEq, Repr

/-! ## Names -/

/-- Whether what stands behind the name of an anchor ends it. -/
def endsName (rest : List Spot) : Bool :=
  atEdge rest || ['?', ':', ',', ']', '\x7d', '%', '@', '\x60'].any fun c => starts c rest

/-- Reads the name of an anchor. -/
def readName (xs : List Spot) : Option (String × List Spot) :=
  let name := xs.takeWhile fun s => isNameChar s.char
  let rest := xs.dropWhile fun s => isNameChar s.char
  if name.isEmpty || !endsName rest then none else some (String.ofList (chars name), rest)

/-! ## Tags -/

/-- Whether a character may stand in a tag; more of them may if the tag is written in full. -/
def isTagChar (inFull : Bool) (c : Char) : Bool :=
  isNameChar c ||
    [';', '/', '?', ':', '@', '&', '=', '+', '$', '.', '!', '~', '*', '\'', '(', ')'].contains c ||
    inFull && [',', '[', ']'].contains c

/-- How many bytes follow a first byte of a character. -/
def followers? (byte : Nat) : Option Nat :=
  if byte < 0x80 then some 0
  else if 0xc0 ≤ byte ∧ byte < 0xe0 then some 1
  else if 0xe0 ≤ byte ∧ byte < 0xf0 then some 2
  else if 0xf0 ≤ byte ∧ byte < 0xf8 then some 3
  else none

/-- How many bytes are still to come behind a byte, if it may stand where so many are expected. -/
def stillExpected? : (expected : Nat) → (byte : Nat) → Option Nat
  | 0, byte => followers? byte
  | expected + 1, byte => if 0x80 ≤ byte ∧ byte < 0xc0 then some expected else none

/-- Reads the characters of a tag as bytes; a byte can be written as `%` with two digits, and all
bytes of a character have to be written alike. -/
def readTagBytes (inFull : Bool) : (expected : Nat) → List Spot → Option (List UInt8 × List Spot)
  | expected, s :: t :: u :: rest =>
    if s.char = '%' then
      match digitOf? 16 t.char, digitOf? 16 u.char with
      | some high, some low =>
        match stillExpected? expected (16 * high + low) with
        | some expected =>
          (readTagBytes inFull expected rest).map fun r =>
            ((16 * high + low).toUInt8 :: r.1, r.2)
        | none => none
      | _, _ => none
    else if expected ≠ 0 then none
    else if isTagChar inFull s.char then
      (readTagBytes inFull 0 (t :: u :: rest)).map fun r => (s.char.toNat.toUInt8 :: r.1, r.2)
    else some ([], s :: t :: u :: rest)
  | expected, s :: rest =>
    if s.char = '%' || expected ≠ 0 then none
    else if isTagChar inFull s.char then
      (readTagBytes inFull 0 rest).map fun r => (s.char.toNat.toUInt8 :: r.1, r.2)
    else some ([], s :: rest)
  | expected, [] => if expected ≠ 0 then none else some ([], [])

/-- The text of bytes up to the first that is zero. -/
def textOfBytes (bytes : List UInt8) : String := Text.Utf8.decodeLossy (bytes.takeWhile (· ≠ 0))

/-- Reads the handle of a tag: `!`, maybe with a name and a further `!`. -/
def readHandle : List Spot → Option (List Char × List Spot)
  | [] => none
  | s :: rest =>
    if s.char = '!' then
      let name := chars (rest.takeWhile fun s => isNameChar s.char)
      let rest := rest.dropWhile fun s => isNameChar s.char
      if starts '!' rest then some ('!' :: name ++ ['!'], rest.drop 1) else some ('!' :: name, rest)
    else none

/-- Whether a handle ends with a second `!`. -/
def isClosedHandle (handle : List Char) : Bool := 2 ≤ handle.length && handle.getLast? == some '!'

/-- Reads a tag written in full behind `!<`. -/
def readFullTag (xs : List Spot) : Option (Token × List Spot) := do
  let (bytes, xs) ← readTagBytes true 0 xs
  if bytes.isEmpty || !starts '>' xs then none
  else some (.tag "" (textOfBytes bytes), xs.drop 1)

/-- Reads a tag with a handle. A lone `!` is a tag without one. -/
def readShortTag (xs : List Spot) : Option (Token × List Spot) := do
  let (handle, xs) ← readHandle xs
  let (bytes, xs) ← readTagBytes false 0 xs
  if isClosedHandle handle then
    if bytes.isEmpty then none
    else some (.tag (String.ofList handle) (textOfBytes bytes), xs)
  else
    let suffix := String.ofList (handle.drop 1) ++ textOfBytes bytes
    some (if suffix.isEmpty then .tag "" "!" else .tag "!" suffix, xs)

/-- Reads a tag. -/
def readTag (inBrackets : Bool) (xs : List Spot) : Option (Token × List Spot) := do
  let (tag, rest) ← if starts '<' (xs.drop 1) then readFullTag (xs.drop 2) else readShortTag xs
  if atEdge rest || inBrackets && starts ',' rest then some (tag, rest) else none

/-! ## Directives -/

/-- Reads a number of at most nine digits. -/
def readNumber (xs : List Spot) : Option (Nat × List Spot) :=
  let digits := xs.takeWhile fun s => s.char.isDigit
  if digits.isEmpty || 9 < digits.length then none
  else
    some (digits.foldl (fun n s => 10 * n + (s.char.toNat - '0'.toNat)) 0,
      xs.dropWhile fun s => s.char.isDigit)

/-- Reads the value of a directive for the version. -/
def readVersion (xs : List Spot) : Option (Token × List Spot) := do
  let (major, xs) ← readNumber xs
  if starts '.' xs then
    let (minor, xs) ← readNumber (xs.drop 1)
    some (.version major minor, xs)
  else none

/-- Reads the value of a directive for a handle. -/
def readTagHandle (xs : List Spot) : Option (Token × List Spot) := do
  let (handle, xs) ← readHandle xs
  if (handle.length = 1 || isClosedHandle handle) && !atLineEnd xs && atEdge xs then
    let (bytes, xs) ← readTagBytes true 0 (skipBlanks xs)
    if bytes.isEmpty || !atEdge xs then none
    else some (.tagHandle (String.ofList handle) (textOfBytes bytes), xs)
  else none

/-- Reads a directive behind its sign, up to the end of its line. -/
def readDirective (xs : List Spot) : Option (Token × List Spot) := do
  let name := String.ofList (chars (xs.takeWhile fun s => isNameChar s.char))
  let xs := xs.dropWhile fun s => isNameChar s.char
  if !atEdge xs then none
  else
    let xs := skipBlanks xs
    let (directive, xs) ←
      if name = "YAML" then readVersion xs else if name = "TAG" then readTagHandle xs else none
    let xs := skipComment (skipBlanks xs)
    if atLineEnd xs then some (directive, xs.drop 1) else none

end TopicBridge.Yaml
