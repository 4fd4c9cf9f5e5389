import TopicBridge.Number.Decimal
import TopicBridge.Text.Split
import TopicBridge.Yaml.Scalar

/-! # What scalars mean

A scalar without quotes can be a truth value, a number or nothing at all; what is none of these is a
text. Integers can be written in four bases. Digits behind a leading zero are a text, unless a
letter names the base.
-/

namespace TopicBridge.Yaml

/-- Whether a text says that there is no value. -/
def isNull (s : String) : Bool := ["null", "Null", "NULL", "~"].contains s

/-- The truth value that a text is. -/
def flagOf? (s : String) : Option Bool :=
  if ["true", "True", "TRUE"].contains s then some true
  else if ["false", "False", "FALSE"].contains s then some false
  else none

/-- The letters behind a zero that name bases. -/
def bases : List (Char × Nat) := [('x', 16), ('o', 8), ('b', 2)]

/-- The value of digits in a base, if there are any and nothing else. -/
def digitsOf? (base : Nat) (cs : List Char) : Option Nat :=
  if cs.isEmpty then none
  else cs.foldlM (fun n c => (digitOf? base c).map fun d => base * n + d) 0

/-- Whether digits stand behind a leading zero. -/
def isZeroLed : List Char → Bool
  | '0' :: c :: cs => (c :: cs).all Char.isDigit
  | _ => false

/-- The value of an integer without sign, in any of the bases. -/
def magnitude? : List Char → Option Nat
  | '0' :: c :: cs =>
    match bases.lookup c with
    | some base => digitsOf? base cs
    | none => if isZeroLed ('0' :: c :: cs) then none else digitsOf? 10 ('0' :: c :: cs)
  | cs => digitsOf? 10 cs

/-- The natural number that a text is; a plus sign may stand in front. -/
def naturalOf? (s : String) : Option Nat :=
  match s.toList with
  | '+' :: cs => magnitude? cs
  | cs => magnitude? cs

/-- The integer that a text is. -/
def integerOf? (s : String) : Option Int :=
  match s.toList with
  | '-' :: cs => (magnitude? cs).map fun n => -(n : Int)
  | _ => (naturalOf? s).map Int.ofNat

/-- Whether an integer fits 128 bits, with or without sign. -/
def isWide (n : Int) : Bool :=
  -0x80000000000000000000000000000000 ≤ n && n < 0x100000000000000000000000000000000

/-- A decimal literal as a floating-point number, unless it is too large. -/
def finiteOf? (cs : List Char) : Option Binary64 :=
  ((Decimal.read cs).map Decimal.toBinary64).filter Binary64.isFinite

/-- The floating-point number that a text is. -/
def floatOf? (s : String) : Option Binary64 :=
  if [".inf", ".Inf", ".INF", "+.inf", "+.Inf", "+.INF"].contains s then some (.infinite false)
  else if ["-.inf", "-.Inf", "-.INF"].contains s then some (.infinite true)
  else if [".nan", ".NaN", ".NAN"].contains s then some .nan
  else finiteOf? s.toList

/-- What a scalar is. -/
inductive Meaning
  | nothing
  | flag (b : Bool)
  | integer (n : Int)
  | float (x : Binary64)
  | text
  deriving DecidableEq, Repr

/-- The integer that a text is, unless it is too wide to be one. -/
def wideOf? (s : String) : Option Int := (integerOf? s).filter isWide

/-- What a scalar without quotes is. -/
def meaning (s : String) : Meaning :=
  if s.isEmpty || isNull s then .nothing
  else
    match flagOf? s, wideOf? s, floatOf? s with
    | some b, _, _ => .flag b
    | none, some n, _ => .integer n
    | none, none, some x =>
      if isZeroLed (cutSign s.toList).2 then .text else .float x
    | none, none, none => .text

end TopicBridge.Yaml
