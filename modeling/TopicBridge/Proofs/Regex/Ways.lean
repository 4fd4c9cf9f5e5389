import Mathlib.Data.List.Basic
import TopicBridge.Regex.Search

/-! # The ways through an expression

A place in a text can be left along several ways. They are listed here in order of preference,
with one law for each kind of expression. -/

namespace TopicBridge.Regex

/-- A place reached while matching: the character in front of it, its position, the marks passed
and the text behind it. -/
structure Spot where
  prev : Option Char
  pos : Nat
  marks : Marks
  rest : List Char

namespace Spot

/-- The same place with marks passed at it. -/
def pass (s : Spot) (slots : List Nat) : Spot := { s with marks := s.marks.pass s.pos slots }

/-- The place behind the piece `w` of the text. -/
def along (s : Spot) (w : List Char) : Spot :=
  ⟨w.getLast?.or s.prev, s.pos + w.length, s.marks, s.rest.drop w.length⟩

/-- The match that ends at a place. -/
def found (s : Spot) : Found := ⟨s.pos, s.marks⟩

@[simp] theorem pass_prev (s : Spot) (slots : List Nat) : (s.pass slots).prev = s.prev := rfl

@[simp] theorem pass_pos (s : Spot) (slots : List Nat) : (s.pass slots).pos = s.pos := rfl

@[simp] theorem pass_rest (s : Spot) (slots : List Nat) : (s.pass slots).rest = s.rest := rfl

@[simp] theorem pass_marks (s : Spot) (slots : List Nat) :
    (s.pass slots).marks = s.marks.pass s.pos slots := rfl

@[simp] theorem along_pos (s : Spot) (w : List Char) : (s.along w).pos = s.pos + w.length := rfl

@[simp] theorem along_marks (s : Spot) (w : List Char) : (s.along w).marks = s.marks := rfl

@[simp] theorem along_rest (s : Spot) (w : List Char) :
    (s.along w).rest = s.rest.drop w.length := rfl

@[simp] theorem pass_nil (s : Spot) : s.pass [] = s := rfl

@[simp] theorem along_nil (s : Spot) : s.along [] = s := by
  simp [along]

theorem pass_append (s : Spot) (xs ys : List Nat) : s.pass (xs ++ ys) = (s.pass xs).pass ys := by
  simp [pass, Marks.pass]

theorem along_append (s : Spot) (u v : List Char) : s.along (u ++ v) = (s.along u).along v := by
  simp [along, List.getLast?_append, Nat.add_assoc, Option.or_assoc]

theorem along_cons (s : Spot) (c : Char) (w : List Char) :
    s.along (c :: w) = (s.along [c]).along w :=
  s.along_append [c] w

end Spot

/-- The ends of the ways through an expression in a text, the preferred one first. -/
def waysIn : List Char → Option Char → Nat → Marks → Regex → List Spot
  | [], prev, pos, marks, r =>
    (heads prev none r).flatMap fun
      | .done ms => [⟨prev, pos, marks.pass pos ms, []⟩]
      | .step .. => []
  | c :: cs, prev, pos, marks, r =>
    (heads prev (some c) r).flatMap fun
      | .done ms => [⟨prev, pos, marks.pass pos ms, c :: cs⟩]
      | .step ms cls rest =>
        if cls.holds c then waysIn cs (some c) (pos + 1) (marks.pass pos ms) rest else []

/-- The ends of the ways through an expression from a place on, the preferred one first. -/
def ways (r : Regex) (s : Spot) : List Spot := waysIn s.rest s.prev s.pos s.marks r

/-- The ends of the ways that go on from a place as `Head` says. -/
def through (s : Spot) : Head → List Spot
  | .done ms => [s.pass ms]
  | .step ms cls rest =>
    match s.rest with
    | [] => []
    | c :: cs =>
      if cls.holds c then ways rest ⟨some c, s.pos + 1, s.marks.pass s.pos ms, cs⟩ else []

theorem ways_eq (r : Regex) (s : Spot) :
    ways r s = (heads s.prev s.rest.head? r).flatMap (through s) := by
  obtain ⟨prev, pos, marks, text⟩ := s
  cases text with
  | nil =>
      simp only [ways, waysIn, List.head?_nil]
      rfl
  | cons c cs =>
      simp only [ways, waysIn, List.head?_cons]
      rfl

@[simp] theorem through_done (s : Spot) (ms : List Nat) : through s (.done ms) = [s.pass ms] := rfl

theorem through_step_of_nil {s : Spot} (h : s.rest = []) (ms : List Nat) (cls : CharClass)
    (rest : Regex) : through s (.step ms cls rest) = [] := by
  simp [through, h]

theorem through_step_of_cons {s : Spot} {c : Char} {cs : List Char} (h : s.rest = c :: cs)
    (ms : List Nat) (cls : CharClass) (rest : Regex) :
    through s (.step ms cls rest) =
      if cls.holds c then ways rest ((s.pass ms).along [c]) else [] := by
  simp [through, h, Spot.along]

/-- To pass marks first is to pass them on the way. -/
theorem through_after (s : Spot) (ms : List Nat) (h : Head) :
    through s (h.after ms) = through (s.pass ms) h := by
  cases h with
  | done ns => simp only [Head.after, through_done, Spot.pass_append]
  | step ns cls rest => simp [Head.after, through, Marks.pass]

/-! ## One law for each kind of expression -/

theorem ways_empty (s : Spot) : ways empty s = [s] := by
  simp [ways_eq, heads]

theorem ways_look (condition : Look) (s : Spot) :
    ways (look condition) s = if condition.holds s.prev s.rest.head? then [s] else [] := by
  rw [ways_eq, heads]
  split <;> simp

theorem ways_mark (slot : Nat) (s : Spot) : ways (mark slot) s = [s.pass [slot]] := by
  simp [ways_eq, heads]

theorem ways_chars_of_nil (cls : CharClass) {s : Spot} (h : s.rest = []) :
    ways (chars cls) s = [] := by
  simp [ways_eq, heads, through_step_of_nil h]

theorem ways_chars_of_cons (cls : CharClass) {s : Spot} {c : Char} {cs : List Char}
    (h : s.rest = c :: cs) :
    ways (chars cls) s = if cls.holds c then [s.along [c]] else [] := by
  rw [ways_eq, heads]
  simp [through_step_of_cons h, ways_empty]

/-- One expression behind the other: every way through the first, gone on with every way through
the second. -/
theorem ways_cat (a b : Regex) (s : Spot) : ways (cat a b) s = (ways a s).flatMap (ways b) := by
  -- A head of `a` that is done goes on with the heads of `b` from the same place; one that
  -- consumes a character leaves a shorter text.
  induction hn : s.rest.length generalizing a s with
  | zero =>
      have hr : s.rest = [] := List.length_eq_zero_iff.mp hn
      rw [ways_eq, ways_eq, heads, List.flatMap_assoc, List.flatMap_assoc]
      congr 1
      funext h
      cases h with
      | done ms => simp [Head.andThen, through_after, ways_eq b, List.flatMap_map]
      | step ms cls rest => simp [Head.andThen, through_step_of_nil hr]
  | succ n ih =>
      obtain ⟨c, cs, hr⟩ := List.exists_cons_of_length_eq_add_one hn
      rw [ways_eq, ways_eq, heads, List.flatMap_assoc, List.flatMap_assoc]
      congr 1
      funext h
      cases h with
      | done ms => simp [Head.andThen, through_after, ways_eq b, List.flatMap_map]
      | step ms cls rest =>
          have hlen : ((s.pass ms).along [c]).rest.length = n := by
            simp [hr] at hn ⊢
            exact hn
          by_cases hc : cls.holds c = true
          · simp [Head.andThen, through_step_of_cons hr, hc, ih rest _ hlen]
          · simp [Head.andThen, through_step_of_cons hr, hc]

/-- The expressions of a list one behind the other. -/
theorem ways_seq_cons (r : Regex) (rs : List Regex) (s : Spot) :
    ways (seq (r :: rs)) s = (ways r s).flatMap (ways (seq rs)) := by
  cases rs with
  | nil =>
      have hone : ways empty = fun t => [t] := funext ways_empty
      simp [seq, hone]
  | cons q qs => exact ways_cat r (seq (q :: qs)) s

/-- A group passes its first mark in front of what it encloses and its second mark behind. -/
theorem ways_group (index : Nat) (r : Regex) (s : Spot) :
    ways (group index r) s =
      (ways r (s.pass [2 * index])).map fun t => t.pass [2 * index + 1] := by
  have hclose : ways (mark (2 * index + 1)) = fun t => [t.pass [2 * index + 1]] :=
    funext (ways_mark _)
  simp only [group, ways_cat, ways_mark, List.flatMap_singleton, hclose]
  exact List.map_eq_flatMap.symm

/-! ### Repetitions -/

/-- No way through the expression is done before it consumes a character. -/
def Consumes (r : Regex) : Prop := ∀ prev next ms, Head.done ms ∉ heads prev next r

private theorem ways_rep_zero (r : Regex) (greedy : Bool) (s : Spot) :
    ways (rep r 0 (some 0) greedy) s = [s] := by
  simp [ways_eq, heads, repHeads]

/-- An optional expression is matched if possible, and else left out. -/
theorem ways_opt (r : Regex) (s : Spot) : ways (opt r) s = ways r s ++ [s] := by
  have hzero : ways (rep r 0 (some 0) true) = fun t => [t] := funext (ways_rep_zero r true)
  rw [opt, ways_eq, heads, repHeads, ways_eq r s]
  simp only [if_true, List.flatMap_append, List.flatMap_map]
  congr 1
  · congr 1
    funext h
    cases h with
    | done ms => rfl
    | step ms cls rest =>
        cases hr : s.rest with
        | nil => simp [through_step_of_nil hr]
        | cons c cs => simp [through_step_of_cons hr, ways_cat, hzero]
  · simp

/-- A repetition of an expression that consumes something makes one more round if possible. -/
theorem ways_star {r : Regex} (hr : Consumes r) (s : Spot) :
    ways (star r) s = (ways r s).flatMap (ways (star r)) ++ [s] := by
  rw [star, ways_eq, heads, repHeads, ways_eq r s]
  simp only [if_true, List.flatMap_append, List.flatMap_map, List.flatMap_assoc]
  congr 1
  · apply List.flatMap_congr
    intro h hh
    cases h with
    | done ms => exact absurd hh (hr _ _ ms)
    | step ms cls rest =>
        cases ht : s.rest with
        | nil => simp [through_step_of_nil ht]
        | cons c cs =>
            by_cases hc : cls.holds c = true
            · simp [through_step_of_cons ht, hc, ways_cat]
            · simp [through_step_of_cons ht, hc]
  · simp

/-- One round at least is one round and then any number of them. -/
theorem ways_plus (r : Regex) (s : Spot) :
    ways (plus r) s = (ways r s).flatMap (ways (star r)) := by
  rw [← ways_cat, ways_eq, ways_eq]
  rfl

theorem consumes_chars (cls : CharClass) : Consumes (chars cls) := by
  intro prev next ms h
  simp [heads] at h

/-- What starts with an expression that consumes something consumes something. -/
theorem consumes_cat {a : Regex} (ha : Consumes a) (b : Regex) : Consumes (cat a b) := by
  intro prev next ms h
  rw [heads, List.mem_flatMap] at h
  obtain ⟨head, hmem, h⟩ := h
  cases head with
  | done ns => exact ha prev next ns hmem
  | step ns cls rest => simp [Head.andThen] at h

theorem consumes_plus {r : Regex} (hr : Consumes r) : Consumes (plus r) :=
  consumes_cat hr (star r)

end TopicBridge.Regex
