/-! # Ranges of code points

A set of characters is written as a list of closed ranges of code points. Long lists are kept as
text, one `low-high` or single code point in hexadecimal per word. All tables are those of version
16.0 of the Unicode character database.
-/

namespace TopicBridge.Unicode

/-- Closed ranges of code points. -/
abbrev Ranges := List (Nat × Nat)

/-- Whether one of the ranges holds `n`. -/
def Ranges.holds (rs : Ranges) (n : Nat) : Bool :=
  rs.any fun r => decide (r.1 ≤ n) && decide (n ≤ r.2)

/-- No two ranges of two lists meet. -/
def Ranges.Apart (rs ss : Ranges) : Prop := ∀ r ∈ rs, ∀ s ∈ ss, r.2 < s.1 ∨ s.2 < r.1

instance (rs ss : Ranges) : Decidable (rs.Apart ss) :=
  inferInstanceAs (Decidable (∀ r ∈ rs, ∀ s ∈ ss, r.2 < s.1 ∨ s.2 < r.1))

theorem Ranges.Apart.holds_eq_false {rs ss : Ranges} (h : rs.Apart ss) {n : Nat}
    (hn : rs.holds n = true) : ss.holds n = false := by
  obtain ⟨r, hr, hrange⟩ := List.any_eq_true.1 hn
  refine List.any_eq_false.2 fun s hs hother => ?_
  simp only [Bool.and_eq_true, decide_eq_true_eq] at hrange hother
  rcases h r hr s hs with hlt | hlt
  · omega
  · omega

/-- The value of a hexadecimal digit; any other character counts as zero. -/
def hexValue (c : Char) : Nat :=
  if '0' ≤ c ∧ c ≤ '9' then c.toNat - '0'.toNat
  else if 'A' ≤ c ∧ c ≤ 'F' then c.toNat - 'A'.toNat + 10
  else if 'a' ≤ c ∧ c ≤ 'f' then c.toNat - 'a'.toNat + 10
  else 0

/-- The number that hexadecimal digits write, most significant first. -/
def hexNumber (cs : List Char) : Nat :=
  cs.foldl (fun n c => 16 * n + hexValue c) 0

/-- Whether a character stands between the words of a list. -/
def isGap (c : Char) : Bool := c == ' ' || c == '\n'

/-- The words of a text, which blanks and line ends separate. -/
def words (text : String) : List (List Char) :=
  (text.toList.splitBy fun a b => !isGap a && !isGap b).filter fun word => !word.all isGap

/-- The part of a word before the first `mark`, and the part after it. -/
def cutAt (mark : Char) (word : List Char) : List Char × List Char :=
  (word.takeWhile (· ≠ mark), (word.dropWhile (· ≠ mark)).drop 1)

/-- The range that one word writes. -/
def rangeOfWord (word : List Char) : Nat × Nat :=
  match cutAt '-' word with
  | (low, []) => (hexNumber low, hexNumber low)
  | (low, high) => (hexNumber low, hexNumber high)

/-- The ranges that a text lists. -/
def Ranges.ofText (text : String) : Ranges :=
  (words text).map rangeOfWord

end TopicBridge.Unicode
