import TopicBridge.Number.Binary64
import TopicBridge.Text.Split

/-! # Reading numbers

Decimal literals for floating-point numbers and decimal integers within bounds. Each reader says
what is wrong with a text that it refuses.
-/

namespace TopicBridge

/-- The value of an ASCII digit. -/
def digitValue? (c : Char) : Option Nat :=
  if c.isDigit then some (c.toNat - '0'.toNat) else none

/-- The number that decimal digits write, most significant first. -/
def digitsValue (cs : List Char) : Nat :=
  cs.foldl (fun n c => 10 * n + (c.toNat - '0'.toNat)) 0

/-- An optional sign, and what follows it. -/
def cutSign : List Char → Bool × List Char
  | '-' :: cs => (true, cs)
  | '+' :: cs => (false, cs)
  | cs => (false, cs)

/-- The digits that a text starts with, and what follows them. -/
def cutDigits (cs : List Char) : List Char × List Char :=
  (cs.takeWhile Char.isDigit, cs.dropWhile Char.isDigit)

/-! ## Floating-point literals -/

/-- Why a text is no floating-point literal. -/
inductive FloatFault
  | empty
  | malformed
  deriving DecidableEq, Repr

/-- The wording of a fault. -/
def FloatFault.message : FloatFault → String
  | .empty => "cannot parse float from empty string"
  | .malformed => "invalid float literal"

/-- A decimal literal: `± digits * 10 ^ exponent`. -/
structure Decimal where
  negative : Bool
  digits : Nat
  exponent : Int
  deriving DecidableEq, Repr

namespace Decimal

/-- The exponent that a literal ends with: nothing, or `e`, an optional sign and digits. -/
def readExponent : List Char → Option Int
  | [] => some 0
  | c :: cs =>
    if c = 'e' ∨ c = 'E' then
      let (negative, cs) := cutSign cs
      let (ds, rest) := cutDigits cs
      if ds.isEmpty ∨ !rest.isEmpty then none
      else some (if negative then -(digitsValue ds : Int) else digitsValue ds)
    else none

/-- An unsigned decimal literal: digits with at most one point among or beside them, at least one
digit, and an optional exponent. -/
def readUnsigned (negative : Bool) (cs : List Char) : Option Decimal :=
  let (whole, rest) := cutDigits cs
  let (places, rest) :=
    match rest with
    | '.' :: rest => cutDigits rest
    | rest => ([], rest)
  if whole.isEmpty ∧ places.isEmpty then none
  else
    (readExponent rest).map fun e =>
      ⟨negative, digitsValue (whole ++ places), e - (places.length : Int)⟩

/-- A decimal literal with an optional sign. -/
def read (cs : List Char) : Option Decimal :=
  let (negative, rest) := cutSign cs
  readUnsigned negative rest

/-- The nearest floating-point number. -/
def toBinary64 (d : Decimal) : Binary64 := Binary64.ofDecimal d.negative d.digits d.exponent

end Decimal

/-- The names of the values that no digits write; case does not matter. -/
def namedFloat? (negative : Bool) (cs : List Char) : Option Binary64 :=
  let name := cs.map Char.toLower
  if name = "nan".toList then some .nan
  else if name = "inf".toList ∨ name = "infinity".toList then some (.infinite negative)
  else none

/-- Reads a floating-point number: a decimal literal, or a name of an infinity or of no number. -/
def readFloat (cs : List Char) : Except FloatFault Binary64 :=
  if cs.isEmpty then .error .empty
  else
    match Decimal.read cs with
    | some d => .ok d.toBinary64
    | none =>
      let (negative, rest) := cutSign cs
      match namedFloat? negative rest with
      | some x => .ok x
      | none => .error .malformed

/-! ## Integers -/

/-- Why a text is no integer within the bounds. -/
inductive IntFault
  | empty
  | invalidDigit
  | tooLarge
  | tooSmall
  deriving DecidableEq, Repr

/-- The wording of a fault. -/
def IntFault.message : IntFault → String
  | .empty => "cannot parse integer from empty string"
  | .invalidDigit => "invalid digit found in string"
  | .tooLarge => "number too large to fit in target type"
  | .tooSmall => "number too small to fit in target type"

/-- Reads digits up to a greatest magnitude; what is wrong first, from the left, is reported. -/
def readMagnitude (limit : Nat) (beyond : IntFault) :
    (sofar : Nat) → List Char → Except IntFault Nat
  | n, [] => .ok n
  | n, c :: cs =>
    match digitValue? c with
    | none => .error .invalidDigit
    | some d =>
      if limit < 10 * n + d then .error beyond else readMagnitude limit beyond (10 * n + d) cs

/-- Reads an integer of 64 bits with a sign. -/
def readInt64 : List Char → Except IntFault Int
  | [] => .error .empty
  | ['+'] => .error .invalidDigit
  | ['-'] => .error .invalidDigit
  | '-' :: cs => (readMagnitude 0x8000000000000000 .tooSmall 0 cs).map fun (n : Nat) => -(n : Int)
  | '+' :: cs => (readMagnitude 0x7fffffffffffffff .tooLarge 0 cs).map Int.ofNat
  | cs => (readMagnitude 0x7fffffffffffffff .tooLarge 0 cs).map Int.ofNat

/-- Reads a natural number of 64 bits; a plus sign may stand in front. -/
def readNat64 : List Char → Except IntFault Nat
  | [] => .error .empty
  | ['+'] => .error .invalidDigit
  | ['-'] => .error .invalidDigit
  | '+' :: cs => readMagnitude 0xffffffffffffffff .tooLarge 0 cs
  | cs => readMagnitude 0xffffffffffffffff .tooLarge 0 cs

end TopicBridge
