import TopicBridge.Number.Binary64

/-! # The shortest digits of a floating-point number

Every real number close enough to a 64-bit number rounds to it. Among the decimals that do, the
ones with the fewest digits are taken, and of those the closest. Two formats of the digits are
given: plain positional notation, and the notation of documents, which writes an exponent for very
large and very small numbers.
-/

namespace TopicBridge

namespace Binary64

/-- Which of two equally close decimals is taken. -/
inductive Tie
  | up
  | even
  deriving DecidableEq

/-- A fraction of natural numbers. -/
structure Fraction where
  num : Nat
  den : Nat

/-- The fraction `n * 10 ^ k`. -/
def Fraction.ofDecimal (n : Nat) (k : Int) : Fraction :=
  if 0 ≤ k then ⟨n * Nat.pow 10 k.toNat, 1⟩ else ⟨n, Nat.pow 10 (-k).toNat⟩

/-- The fraction `n * 2 ^ e`. -/
def Fraction.ofBinary (n : Nat) (e : Int) : Fraction :=
  if 0 ≤ e then ⟨n * Nat.pow 2 e.toNat, 1⟩ else ⟨n, Nat.pow 2 (-e).toNat⟩

/-- Whether one fraction is less than another. -/
def Fraction.lt (a b : Fraction) : Bool := a.num * b.den < b.num * a.den

/-- Whether one fraction is at most another. -/
def Fraction.le (a b : Fraction) : Bool := a.num * b.den ≤ b.num * a.den

/-- Whether a decimal rounds to `m * 2 ^ e`: it lies between the midpoints to the two neighbours,
which themselves round to an even significand. Below a power of two the neighbours are closer. -/
def roundsTo (m : Nat) (e : Int) (x : Fraction) : Bool :=
  let low :=
    if m = 0x10000000000000 ∧ -1074 < e then Fraction.ofBinary (4 * m - 1) (e - 2)
    else Fraction.ofBinary (2 * m - 1) (e - 1)
  let high := Fraction.ofBinary (2 * m + 1) (e - 1)
  if m % 2 = 0 then low.le x && x.le high else low.lt x && x.lt high

/-- The number of decimal digits of a natural number. -/
def digitCount (n : Nat) : Nat := (Nat.toDigits 10 n).length

/-- The position of the first digit of a positive fraction: the greatest `k` such that `10 ^ k` is
at most the fraction. -/
def leadingPlace (x : Fraction) : Int :=
  let guess : Int := (digitCount x.num : Int) - digitCount x.den
  if (Fraction.ofDecimal 1 guess).le x then guess else guess - 1

/-- The multiple of `10 ^ k` next to a fraction, as a decimal that `ok` accepts, the closer one
first. -/
def nearestOn (tie : Tie) (ok : Fraction → Bool) (x : Fraction) (k : Int) : Option (Nat × Int) :=
  let unit := Fraction.ofDecimal 1 k
  let low := (x.num * unit.den) / (x.den * unit.num)
  let okLow := ok (.ofDecimal low k)
  let okHigh := ok (.ofDecimal (low + 1) k)
  if okLow && okHigh then
    let twice : Fraction := ⟨2 * x.num, x.den⟩
    let middle := Fraction.ofDecimal (2 * low + 1) k
    if twice.lt middle then some (low, k)
    else if middle.lt twice then some (low + 1, k)
    else
      match tie with
      | .up => some (low + 1, k)
      | .even => some (if low % 2 = 0 then low else low + 1, k)
  else if okLow then some (low, k)
  else if okHigh then some (low + 1, k)
  else none

/-- Tries grids that are ten times finer each, `count` of them, from the place `k` on. -/
def searchGrids (tie : Tie) (ok : Fraction → Bool) (x : Fraction) : Nat → Int → Nat × Int
  | 0, k => (x.num / x.den, k)
  | count + 1, k =>
    match nearestOn tie ok x k with
    | some found => found
    | none => searchGrids tie ok x count (k - 1)

/-- A decimal without the zeros at its end. -/
def dropZeros : Nat → Nat × Int → Nat × Int
  | 0, d => d
  | fuel + 1, (n, k) => if n ≠ 0 ∧ n % 10 = 0 then dropZeros fuel (n / 10, k + 1) else (n, k)

/-- The shortest decimal `n * 10 ^ k` that rounds to a positive `m * 2 ^ e`. -/
def shortest (tie : Tie) (m : Nat) (e : Int) : Nat × Int :=
  let x := Fraction.ofBinary m e
  dropZeros 20 (searchGrids tie (roundsTo m e) x 17 (leadingPlace x))

/-! ## Formats -/

/-- `n * 10 ^ k` in positional notation, without a point if it is an integer. -/
def positional (n : Nat) (k : Int) : List Char :=
  let ds := Nat.toDigits 10 n
  if 0 ≤ k then ds ++ List.replicate k.toNat '0'
  else
    let places := (-k).toNat
    let padded := List.replicate (places + 1 - ds.length) '0' ++ ds
    padded.take (padded.length - places) ++ '.' :: padded.drop (padded.length - places)

/-- The sign of a number as text. -/
def signText (negative : Bool) : List Char := if negative then ['-'] else []

/-- Positional notation with the fewest digits, never with an exponent. -/
def toPlain : Binary64 → String
  | nan => "NaN"
  | infinite s => String.ofList (signText s ++ "inf".toList)
  | finite s m e =>
    String.ofList (signText s ++
      if m = 0 then ['0']
      else
        let (n, k) := shortest .up m e
        positional n k)

/-- One digit, a point, the other digits, and a signed exponent of ten. -/
def scientific (n : Nat) (k : Int) : List Char :=
  let ds := Nat.toDigits 10 n
  let exponent := k + (ds.length - 1 : Nat)
  let tail := ds.drop 1
  ds.take 1 ++ (if tail.isEmpty then [] else '.' :: tail) ++ 'e' ::
    (if exponent < 0 then '-' else '+') :: Nat.toDigits 10 exponent.natAbs

/-- The notation of documents: positional with at least one decimal from `1e-5` up to `1e16`, else
with an exponent. Only finite numbers have one. -/
def toDocument? : Binary64 → Option String
  | nan => none
  | infinite _ => none
  | finite s m e =>
    some <| String.ofList <| signText s ++
      if m = 0 then "0.0".toList
      else
        let (n, k) := shortest .even m e
        let place := k + (digitCount n - 1 : Nat)
        if -5 ≤ place ∧ place < 16 then
          if 0 ≤ k then positional n k ++ ".0".toList else positional n k
        else scientific n k

end Binary64

end TopicBridge
