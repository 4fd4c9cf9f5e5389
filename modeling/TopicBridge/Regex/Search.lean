import TopicBridge.Regex.Basic

/-! # Searching a text

All ways to match from one place are followed side by side, character by character, in order of
preference. Two ways that would continue alike are one, so the work grows with the length of the
text only. The result is the match that trying the ways one after the other would find first.
-/

namespace TopicBridge

namespace Regex

/-- Where each mark was passed, the latest first. -/
abbrev Marks := List (Nat × Nat)

/-- A way being followed: what is left to match, and the marks passed. -/
structure Thread where
  rest : Regex
  marks : Marks
  deriving DecidableEq, Repr

/-- A match: the place behind it and the marks passed. -/
structure Found where
  stop : Nat
  marks : Marks
  deriving DecidableEq, Repr

/-- The marks with those of `slots` passed at `pos` added. -/
def Marks.pass (marks : Marks) (pos : Nat) (slots : List Nat) : Marks :=
  slots.foldl (fun ms slot => (slot, pos) :: ms) marks

/-- The ways up to the first that is done: those that consume a character, and that one's marks. -/
def cut (marks : Marks) (pos : Nat) : List Head → List (CharClass × Thread) × Option Marks
  | [] => ([], none)
  | .done ms :: _ => ([], some (marks.pass pos ms))
  | .step ms cls rest :: more =>
    let (steps, done) := cut marks pos more
    ((cls, ⟨rest, marks.pass pos ms⟩) :: steps, done)

/-- The ways of all threads in order, up to the first that is done. -/
def expand (prev next : Option Char) (pos : Nat) :
    List Thread → List (CharClass × Thread) × Option Marks
  | [] => ([], none)
  | t :: ts =>
    match cut t.marks pos (heads prev next t.rest) with
    | (steps, some done) => (steps, some done)
    | (steps, none) =>
      let (more, done) := expand prev next pos ts
      (steps ++ more, done)

/-- Of threads with the same rest the first one. -/
def keepFirst : List Thread → List Thread
  | [] => []
  | t :: ts => t :: (keepFirst ts).filter fun u => u.rest ≠ t.rest

/-- Follows threads through a text; of the matches found, a later one is preferred, because only
threads preferred to an earlier match go on after it. -/
def follow (threads : List Thread) (prev : Option Char) (pos : Nat) : List Char → Option Found
  | [] => (expand prev none pos threads).2.map (⟨pos, ·⟩)
  | c :: cs =>
    let (steps, done) := expand prev (some c) pos threads
    let next := keepFirst (steps.filterMap fun (cls, t) => if cls.holds c then some t else none)
    let later := if next.isEmpty then none else follow next (some c) (pos + 1) cs
    match later with
    | some found => some found
    | none => done.map (⟨pos, ·⟩)

/-- The preferred match that starts at the front of a text. -/
def matchAt (r : Regex) (prev : Option Char) (pos : Nat) (s : List Char) : Option Found :=
  follow [⟨r, []⟩] prev pos s

/-- The preferred match of those that start first. -/
def searchFrom (r : Regex) (prev : Option Char) (pos : Nat) : List Char → Option Found
  | [] => matchAt r prev pos []
  | c :: cs =>
    match matchAt r prev pos (c :: cs) with
    | some found => some found
    | none => searchFrom r (some c) (pos + 1) cs

/-- The first match in a text. -/
def search (r : Regex) (s : List Char) : Option Found := searchFrom r none 0 s

/-- Whether some piece of a text matches. -/
def isMatch (r : Regex) (s : List Char) : Bool := (search r s).isSome

/-- The text of a group of a match, if the match went through it. -/
def Found.group? (f : Found) (s : List Char) (index : Nat) : Option (List Char) := do
  let start ← (f.marks.find? (·.1 = 2 * index)).map (·.2)
  let stop ← (f.marks.find? (·.1 = 2 * index + 1)).map (·.2)
  return (s.drop start).take (stop - start)

end Regex

end TopicBridge
