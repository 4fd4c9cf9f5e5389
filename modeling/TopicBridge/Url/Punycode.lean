/-! # Punycode

Labels with characters beyond ASCII written in ASCII: first the ASCII characters in order, then for
each other character, from the least upwards, how far it is from the last one in the sequence of all
insertions. Distances are numbers with digits of varying weight.
-/

namespace TopicBridge.Url.Punycode

/-- A digit as a character: letters, then figures. -/
def digitChar (d : Nat) : Char := if d < 26 then Char.ofNat (97 + d) else Char.ofNat (22 + d)

/-- The digit that a character stands for. -/
def digitValue? (c : Char) : Option Nat :=
  if 'a' ≤ c ∧ c ≤ 'z' then some (c.toNat - 97)
  else if 'A' ≤ c ∧ c ≤ 'Z' then some (c.toNat - 65)
  else if c.isDigit then some (c.toNat - 22)
  else none

/-- The first digit value that ends a number, at a position. -/
def threshold (k bias : Nat) : Nat :=
  if k ≤ bias then 1 else if bias + 26 ≤ k then 26 else k - bias

/-- Divides until little is left, and counts the steps. -/
def shrink : Nat → Nat → Nat → Nat × Nat
  | 0, delta, k => (delta, k)
  | fuel + 1, delta, k => if 455 < delta then shrink fuel (delta / 35) (k + 36) else (delta, k)

/-- The bias for the next number. -/
def adapt (delta count : Nat) (first : Bool) : Nat :=
  let delta := if first then delta / 700 else delta / 2
  let (delta, k) := shrink 64 (delta + delta / count) 0
  k + 36 * delta / (delta + 38)

/-- The digits of a number. -/
def digits : Nat → (q k bias : Nat) → List Char
  | 0, _, _, _ => []
  | fuel + 1, q, k, bias =>
    let t := threshold k bias
    if q < t then [digitChar q]
    else digitChar (t + (q - t) % (36 - t)) :: digits fuel ((q - t) / (36 - t)) (k + 36) bias

/-- The state of encoding. -/
structure State where
  next : Nat
  delta : Nat
  bias : Nat
  handled : Nat
  out : List Char

/-- Passes one character while the character `m` is inserted. -/
def pass (basic m : Nat) (s : State) (c : Nat) : State :=
  if c < m then { s with delta := s.delta + 1 }
  else if c = m then
    { s with
      out := s.out ++ digits 64 s.delta 36 s.bias
      bias := adapt s.delta (s.handled + 1) (s.handled = basic)
      delta := 0
      handled := s.handled + 1 }
  else s

/-- Inserts the characters of a list, from the least upwards. -/
def insertAll (basic : Nat) (text : List Nat) : List Nat → State → State
  | [], s => s
  | m :: ms, s =>
    let s := { s with delta := s.delta + (m - s.next) * (s.handled + 1), next := m }
    let s := text.foldl (pass basic m) s
    insertAll basic text ms { s with delta := s.delta + 1, next := m + 1 }

/-- A label in ASCII, without the mark in front. -/
def encode (label : List Char) : List Char :=
  let text := label.map Char.toNat
  let basic := label.filter (·.toNat < 0x80)
  let others := (text.filter (0x80 ≤ ·)).mergeSort.eraseDups
  let front := if basic.isEmpty then [] else basic ++ ['-']
  (insertAll basic.length text others ⟨0x80, 0, 72, basic.length, front⟩).out

/-- Reads a number. -/
def readNumber : (cs : List Char) → (i w k bias : Nat) → Option (Nat × List Char)
  | [], _, _, _, _ => none
  | c :: cs, i, w, k, bias => do
    let d ← digitValue? c
    let i := i + d * w
    let t := threshold k bias
    if d < t then return (i, cs) else readNumber cs i (w * (36 - t)) (k + 36) bias

/-- Reads numbers and inserts their characters. -/
def readAll : Nat → (cs : List Char) → (n i bias : Nat) → (out : List Char) → Option (List Char)
  | 0, _, _, _, _, _ => none
  | fuel + 1, cs, n, i, bias, out =>
    if cs.isEmpty then some out
    else do
      let (j, rest) ← readNumber cs i 1 36 bias
      let size := out.length + 1
      let n := n + j / size
      if 0x110000 ≤ n ∨ (0xD800 ≤ n ∧ n < 0xE000) then none
      else
        readAll fuel rest n (j % size + 1) (adapt (j - i) size (i = 0))
          (out.insertIdx (j % size) (Char.ofNat n))

/-- The label that a text in ASCII stands for, without the mark in front. -/
def decode? (cs : List Char) : Option (List Char) :=
  let front := (cs.reverse.dropWhile (· ≠ '-')).drop 1 |>.reverse
  let back := if cs.contains '-' then (cs.reverse.takeWhile (· ≠ '-')).reverse else cs
  readAll (cs.length + 1) back 0x80 0 72 front

end TopicBridge.Url.Punycode
