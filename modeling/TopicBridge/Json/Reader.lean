import TopicBridge.Json.Basic
import TopicBridge.Unicode.Ranges

/-! # Reading documents

Readers for the parts of a document's text: each gives a value and the text behind it. Objects and
arrays nest at most 127 deep. Texts must be well formed down to surrogate pairs, and no number may
exceed the floating-point range.

A floating-point number is read from its first digits, as many as fit 64 bits, and then scaled by
powers of ten in floating-point arithmetic; the last bit can therefore differ from the nearest
number.
-/

namespace TopicBridge

namespace Json

/-- Why a text cannot be read. -/
inductive Fault
  /-- The text is no document. -/
  | malformed
  /-- A part of the document is not of the kind asked for. -/
  | unsuitable
  deriving DecidableEq, Repr

/-- The text behind blanks. -/
def skipBlanks : List Char → List Char
  | [] => []
  | c :: cs => if c = ' ' ∨ c = '\n' ∨ c = '\t' ∨ c = '\r' then skipBlanks cs else c :: cs

/-! ## Numbers -/

/-- The greatest number that digits are gathered up to. -/
def gatherLimit : Nat := 0xffffffffffffffff

/-- Gathers digits from the left while the number fits, and gives the digits that did not fit. -/
def gather : (sofar : Nat) → List Char → Nat × List Char
  | n, [] => (n, [])
  | n, c :: cs =>
    let m := 10 * n + (c.toNat - '0'.toNat)
    if gatherLimit < m then (n, c :: cs) else gather m cs

/-- Powers of ten as floating-point numbers. -/
def tenTo (k : Nat) : Binary64 := Binary64.ofNat (Nat.pow 10 k)

/-- Divides by `10 ^ k`, at most `10 ^ 308` at a time. -/
def scaleDown : Nat → Binary64 → Nat → Binary64
  | 0, x, _ => x
  | fuel + 1, x, k =>
    if k ≤ 308 then x.div (tenTo k)
    else if x.isZero then x
    else scaleDown fuel (x.div (tenTo 308)) (k - 308)

/-- The number `n * 10 ^ e`, unless it is too large. -/
def scale (n : Nat) (e : Int) : Except Fault Binary64 :=
  let x := Binary64.ofNat n
  if e < 0 then .ok (scaleDown 4 x (-e).toNat)
  else if e ≤ 308 then
    let y := x.mul (tenTo e.toNat)
    if y.isFinite then .ok y else .error .malformed
  else if x.isZero then .ok x
  else .error .malformed

/-- A number with a sign. -/
def signed (negative : Bool) (x : Binary64) : Binary64 := if negative then x.neg else x

/-- Reads an exponent behind its letter; `none` stands for one beyond 32 bits. -/
def readExponent (cs : List Char) : Except Fault (Bool × Option Nat × List Char) :=
  let (negative, cs) := match cs with
    | '+' :: cs => (false, cs)
    | '-' :: cs => (true, cs)
    | cs => (false, cs)
  let ds := cs.takeWhile Char.isDigit
  if ds.isEmpty then .error .malformed
  else
    let n := ds.foldl (fun n c => 10 * n + (c.toNat - '0'.toNat)) 0
    .ok (negative, if n < 0x80000000 then some n else none, cs.dropWhile Char.isDigit)

/-- Finishes a number whose digits are gathered, `n * 10 ^ e`, by reading its exponent. -/
def finishReal (negative : Bool) (n : Nat) (e : Int) (cs : List Char) :
    Except Fault (Number × List Char) := do
  match cs with
  | c :: rest =>
    if c = 'e' ∨ c = 'E' then
      let (down, size, rest) ← readExponent rest
      match size with
      | none =>
        if n ≠ 0 ∧ !down then throw .malformed
        else return (.real (signed negative (.ofNat 0)), rest)
      | some size =>
        let x ← scale n (if down then e - size else e + size)
        return (.real (signed negative x), rest)
    else return (.real (signed negative (← scale n e)), cs)
  | [] => return (.real (signed negative (← scale n e)), [])

/-- Reads a number without its sign. -/
def readUnsigned (negative : Bool) (cs : List Char) : Except Fault (Number × List Char) := do
  let ds := cs.takeWhile Char.isDigit
  let rest := cs.dropWhile Char.isDigit
  if ds.isEmpty || (ds.head? = some '0' && 1 < ds.length) then throw .malformed
  else
    let (n, excess) := gather 0 ds
    match rest with
    | '.' :: rest =>
      let places := rest.takeWhile Char.isDigit
      if places.isEmpty then throw .malformed
      else
        let (n, left) := gather n places
        finishReal negative n ((excess.length : Int) - (places.length - left.length : Nat))
          (rest.dropWhile Char.isDigit)
    | c :: _ =>
      if c = 'e' ∨ c = 'E' ∨ !excess.isEmpty then finishReal negative n excess.length rest
      else return (whole n, rest)
    | [] => if excess.isEmpty then return (whole n, []) else finishReal negative n excess.length []
where
  /-- A number without point and exponent; zero with a sign, and what a sign takes out of bounds,
  are no integers. -/
  whole (n : Nat) : Number :=
    if !negative then .int n
    else if n = 0 ∨ 0x8000000000000000 < n then .real (signed true (.ofNat n))
    else .int (-(n : Int))

/-- Reads a number. -/
def readNumber : List Char → Except Fault (Number × List Char)
  | '-' :: cs => readUnsigned true cs
  | cs => readUnsigned false cs

/-! ## Texts -/

/-- Reads four hexadecimal digits. -/
def readHex4 : List Char → Option (Nat × List Char)
  | a :: b :: c :: d :: rest =>
    if [a, b, c, d].all isHex then some (Unicode.hexNumber [a, b, c, d], rest) else none
  | _ => none
where
  /-- Whether a character is a hexadecimal digit. -/
  isHex (c : Char) : Bool := c.isDigit || ('a' ≤ c && c ≤ 'f') || ('A' ≤ c && c ≤ 'F')

/-- Reads what follows the `u` of an escape: one code point, or the two halves of a pair. -/
def readCodePoint (cs : List Char) : Option (Char × List Char) := do
  let (n, rest) ← readHex4 cs
  if n < 0xD800 ∨ 0xDFFF < n then return (Char.ofNat n, rest)
  else if 0xDC00 ≤ n then none
  else
    match rest with
    | '\\' :: 'u' :: rest =>
      let (m, rest) ← readHex4 rest
      if 0xDC00 ≤ m ∧ m ≤ 0xDFFF then
        return (Char.ofNat (0x10000 + 0x400 * (n - 0xD800) + (m - 0xDC00)), rest)
      else none
    | _ => none

/-- The character that an escape of one letter stands for. -/
def simpleEscape? : Char → Option Char
  | '"' => some '"'
  | '\\' => some '\\'
  | '/' => some '/'
  | 'b' => some '\x08'
  | 'f' => some '\x0c'
  | 'n' => some '\n'
  | 'r' => some '\r'
  | 't' => some '\t'
  | _ => none

/-- Reads a text up to its closing quote; at most `fuel` characters. -/
def readQuoted : Nat → (acc : List Char) → List Char → Except Fault (List Char × List Char)
  | 0, _, _ => .error .malformed
  | _ + 1, _, [] => .error .malformed
  | _ + 1, acc, '"' :: cs => .ok (acc.reverse, cs)
  | fuel + 1, acc, '\\' :: 'u' :: cs =>
    match readCodePoint cs with
    | some (c, rest) => readQuoted fuel (c :: acc) rest
    | none => .error .malformed
  | fuel + 1, acc, '\\' :: e :: cs =>
    match simpleEscape? e with
    | some c => readQuoted fuel (c :: acc) cs
    | none => .error .malformed
  | fuel + 1, acc, c :: cs =>
    if c = '\\' ∨ c.toNat < 0x20 then .error .malformed else readQuoted fuel (c :: acc) cs

/-- Reads a text behind its opening quote. -/
def readText (cs : List Char) : Except Fault (String × List Char) := do
  let (s, rest) ← readQuoted (cs.length + 1) [] cs
  return (String.ofList s, rest)

/-- The text behind a word. -/
def expect : (word cs : List Char) → Except Fault (List Char)
  | [], cs => .ok cs
  | _ :: _, [] => .error .malformed
  | w :: ws, c :: cs => if w = c then expect ws cs else .error .malformed

/-! ## Documents -/

mutual

/-- Reads a value that may nest `depth` deep. -/
def readValue : (fuel depth : Nat) → List Char → Except Fault (Json × List Char)
  | 0, _, _ => .error .malformed
  | fuel + 1, depth, cs =>
    match skipBlanks cs with
    | [] => .error .malformed
    | 'n' :: rest => (expect "ull".toList rest).map fun rest => (null, rest)
    | 't' :: rest => (expect "rue".toList rest).map fun rest => (bool true, rest)
    | 'f' :: rest => (expect "alse".toList rest).map fun rest => (bool false, rest)
    | '"' :: rest => (readText rest).map fun (s, rest) => (text s, rest)
    | '[' :: rest =>
      match depth with
      | 0 => .error .malformed
      | depth + 1 =>
        match skipBlanks rest with
        | ']' :: rest => .ok (array [], rest)
        | rest => (readItems fuel depth [] rest).map fun (js, rest) => (array js, rest)
    | '\x7b' :: rest =>
      match depth with
      | 0 => .error .malformed
      | depth + 1 =>
        match skipBlanks rest with
        | '\x7d' :: rest => .ok (object [], rest)
        | rest => (readMembers fuel depth [] rest).map fun (ms, rest) => (ofMembers ms, rest)
    | rest => (readNumber rest).map fun (n, rest) => (number n, rest)

/-- Reads the items of an array up to its bracket. -/
def readItems : (fuel depth : Nat) → (acc : List Json) → List Char →
    Except Fault (List Json × List Char)
  | 0, _, _, _ => .error .malformed
  | fuel + 1, depth, acc, cs =>
    match readValue fuel depth cs with
    | .error e => .error e
    | .ok (j, rest) =>
      match skipBlanks rest with
      | ']' :: rest => .ok ((j :: acc).reverse, rest)
      | ',' :: rest => readItems fuel depth (j :: acc) rest
      | _ => .error .malformed

/-- Reads the members of an object up to its brace. -/
def readMembers : (fuel depth : Nat) → (acc : List (String × Json)) → List Char →
    Except Fault (List (String × Json) × List Char)
  | 0, _, _, _ => .error .malformed
  | fuel + 1, depth, acc, cs =>
    match skipBlanks cs with
    | '"' :: rest =>
      match readText rest with
      | .error e => .error e
      | .ok (k, rest) =>
        match skipBlanks rest with
        | ':' :: rest =>
          match readValue fuel depth rest with
          | .error e => .error e
          | .ok (j, rest) =>
            match skipBlanks rest with
            | '\x7d' :: rest => .ok (((k, j) :: acc).reverse, rest)
            | ',' :: rest => readMembers fuel depth ((k, j) :: acc) rest
            | _ => .error .malformed
        | _ => .error .malformed
    | _ => .error .malformed

end

/-- How deep arrays and objects may nest. -/
def depthLimit : Nat := 127

/-- Reads the document that a text starts with. -/
def readFront (cs : List Char) : Except Fault (Json × List Char) :=
  readValue (2 * cs.length + 2) depthLimit cs

/-- Reads a text that is one document with blanks around it. -/
def read (s : String) : Except Fault Json := do
  let (j, rest) ← readFront s.toList
  if (skipBlanks rest).isEmpty then return j else throw .malformed

/-- The document that a text is, if it is one. -/
def parse? (s : String) : Option Json := (read s).toOption

end Json

end TopicBridge
