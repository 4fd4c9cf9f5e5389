/-! # UTF-8

Bytes are read one at a time. A lead byte says how many bytes follow it and where the first of them
may lie, which rules out overlong forms and surrogates. A byte that does not fit ends a broken unit
and is read again as a lead byte, so a broken unit is as long as it can be the front of a character.
-/

namespace TopicBridge.Text.Utf8

/-- A character of which some bytes are still to come. -/
structure Pending where
  missing : Nat
  low : UInt8
  high : UInt8
  value : Nat
  deriving DecidableEq, Repr

/-- A character, or `none` for a broken unit. -/
abbrev Piece := Option Char

/-- Reads a byte that starts a unit. -/
def lead (b : UInt8) : List Piece × Option Pending :=
  let n := b.toNat
  if n < 0x80 then ([some (Char.ofNat n)], none)
  else if n < 0xC2 then ([none], none)
  else if n < 0xE0 then ([], some ⟨1, 0x80, 0xBF, n - 0xC0⟩)
  else if n < 0xF0 then
    ([], some ⟨2, if n = 0xE0 then 0xA0 else 0x80, if n = 0xED then 0x9F else 0xBF, n - 0xE0⟩)
  else if n < 0xF5 then
    ([], some ⟨3, if n = 0xF0 then 0x90 else 0x80, if n = 0xF4 then 0x8F else 0xBF, n - 0xF0⟩)
  else ([none], none)

/-- Reads a byte behind a pending character. -/
def proceed (p : Pending) (b : UInt8) : List Piece × Option Pending :=
  if p.low ≤ b ∧ b ≤ p.high then
    let value := 64 * p.value + (b.toNat - 0x80)
    if p.missing ≤ 1 then ([some (Char.ofNat value)], none)
    else ([], some ⟨p.missing - 1, 0x80, 0xBF, value⟩)
  else
    let (pieces, pending) := lead b
    (none :: pieces, pending)

/-- The units of a text of bytes, behind a pending character if there is one. -/
def pieces : Option Pending → List UInt8 → List Piece
  | none, [] => []
  | some _, [] => [none]
  | none, b :: bs =>
    let (front, pending) := lead b
    front ++ pieces pending bs
  | some p, b :: bs =>
    let (front, pending) := proceed p b
    front ++ pieces pending bs

/-- The text that bytes encode, if they are well formed. -/
def decode? (bytes : List UInt8) : Option String :=
  ((pieces none bytes).mapM id).map String.ofList

/-- The text of bytes with a replacement character for each broken unit. -/
def decodeLossy (bytes : List UInt8) : String :=
  String.ofList ((pieces none bytes).map fun c => c.getD '\ufffd')

/-- The characters in front of the first broken unit. -/
def decodeFront (bytes : List UInt8) : List Char :=
  ((pieces none bytes).takeWhile Option.isSome).filterMap id

/-- The bytes of a text. -/
def encode (s : String) : List UInt8 := s.toList.flatMap String.utf8EncodeChar

end TopicBridge.Text.Utf8
