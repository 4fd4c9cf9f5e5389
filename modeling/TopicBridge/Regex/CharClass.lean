import TopicBridge.Unicode.Fold
import TopicBridge.Unicode.Property

/-! # Classes of characters

A class is built from ranges by complement, intersection and union. A folded class holds every
character that differs in case only from a member.
-/

namespace TopicBridge

open Unicode

/-- A class of characters. -/
inductive CharClass
  | ranges (rs : Ranges)
  | complement (a : CharClass)
  | inter (a b : CharClass)
  | union (a b : CharClass)
  | folded (a : CharClass)
  deriving DecidableEq, Repr

namespace CharClass

/-- Whether a class holds a code point. -/
def holdsCode : CharClass → Nat → Bool
  | ranges rs, n => rs.holds n
  | complement a, n => !a.holdsCode n
  | inter a b, n => a.holdsCode n && b.holdsCode n
  | union a b, n => a.holdsCode n || b.holdsCode n
  | folded a, n => (caseVariants n).any a.holdsCode

/-- Whether a class holds a character. -/
def holds (a : CharClass) (c : Char) : Bool := a.holdsCode c.toNat

/-- The class without members. -/
def none : CharClass := ranges []

/-- The class of one character. -/
def single (c : Char) : CharClass := ranges [(c.toNat, c.toNat)]

/-- The members of one class that are not in the other. -/
def diff (a b : CharClass) : CharClass := inter a (complement b)

/-- The members of exactly one of two classes. -/
def symmDiff (a b : CharClass) : CharClass := union (diff a b) (diff b a)

/-- Every character but the listed ones. -/
def allBut (cs : List Char) : CharClass :=
  complement (ranges (cs.map fun c => (c.toNat, c.toNat)))

/-- Whether every member is an ASCII character, for a class whose members are single bytes. -/
def isAscii (a : CharClass) : Bool :=
  (List.range 128).all fun n => !a.holdsCode (128 + n)

/-- The ranges that a class is written with. -/
def rangeCount : CharClass → Nat
  | ranges rs => rs.length
  | complement a => a.rangeCount + 1
  | inter a b => a.rangeCount + b.rangeCount
  | union a b => a.rangeCount + b.rangeCount
  | folded a => 2 * a.rangeCount

/-! ## Laws -/

theorem holds_single (c d : Char) : (single c).holds d = true ↔ d = c := by
  simp only [holds, single, holdsCode, Ranges.holds, List.any_cons, List.any_nil, Bool.or_false,
    Bool.and_eq_true, decide_eq_true_eq]
  constructor
  · intro h
    exact Char.toNat_inj.1 (Nat.le_antisymm h.2 h.1)
  · rintro rfl
    exact ⟨Nat.le_refl _, Nat.le_refl _⟩

theorem holds_allBut (cs : List Char) (d : Char) : (allBut cs).holds d = true ↔ d ∉ cs := by
  simp only [holds, allBut, holdsCode, Ranges.holds, List.any_map, Bool.not_eq_true',
    List.any_eq_false, Function.comp, Bool.and_eq_true, decide_eq_true_eq, not_and]
  constructor
  · intro h hd
    exact h d hd (Nat.le_refl _) (Nat.le_refl _)
  · intro h c hc h1 h2
    exact h (Char.toNat_inj.1 (Nat.le_antisymm h1 h2) ▸ hc)

end CharClass

end TopicBridge
