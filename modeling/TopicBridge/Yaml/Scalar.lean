import TopicBridge.Yaml.Spot

/-! # Scalars within lines

Scalars without quotes and scalars in single or double quotes. They can run over several lines: a
line break within them is read as a blank, and of several the first is dropped.
-/

namespace TopicBridge.Yaml

/-- How a scalar is written. -/
inductive Style
  /-- Without quotes. -/
  | plain
  | quoted
  /-- As a block of lines that are kept. -/
  | literal
  /-- As a block of lines that are joined. -/
  | folded
  deriving DecidableEq, Repr

/-! ## Gaps -/

/-- A stretch of blanks and line breaks between the words of a scalar. -/
inductive Gap
  /-- Blanks within a line. -/
  | blanks (cs : List Char)
  /-- Line breaks, the first of them apart; it is missing if a backslash took it away. -/
  | breaks (first : Option Char) (more : List Char)
  deriving DecidableEq, Repr

namespace Gap

/-- No gap. -/
def none : Gap := blanks []

/-- The gap behind a line break that a backslash took away. -/
def escaped : Gap := breaks Option.none []

/-- A gap with one more blank; blanks beside line breaks do not count. -/
def addBlank (c : Char) : Gap → Gap
  | blanks cs => blanks (cs ++ [c])
  | breaks first more => breaks first more

/-- A gap with one more line break. -/
def addBreak (c : Char) : Gap → Gap
  | blanks _ => breaks (some c) []
  | breaks first more => breaks first (more ++ [c])

/-- A gap with one more blank or line break. -/
def add (c : Char) (g : Gap) : Gap := if isBreak c then g.addBreak c else g.addBlank c

/-- Whether there is a line break in a gap. -/
def isBroken : Gap → Bool
  | blanks _ => false
  | breaks _ _ => true

/-- Whether there is nothing in a gap. -/
def isEmpty : Gap → Bool
  | blanks cs => cs.isEmpty
  | breaks _ _ => false

/-- What a gap is read as. -/
def fold : Gap → List Char
  | blanks cs => cs
  | breaks (some c) more =>
    if c = '\n' then if more.isEmpty then [' '] else more
    else c :: more
  | breaks Option.none more => more

end Gap

/-! ## Without quotes -/

/-- A scalar that was read, and the text behind it. -/
structure ReadScalar where
  text : List Char
  /-- Whether line breaks behind the scalar were read with it. -/
  broken : Bool
  rest : List Spot
  deriving DecidableEq, Repr

/-- The same with characters put in front. -/
def ReadScalar.onto (cs : List Char) (r : ReadScalar) : ReadScalar :=
  { r with text := cs ++ r.text }

/-- Whether a character separates the items of a collection in brackets or closes or opens one. -/
def isBracketSign (c : Char) : Bool := c = ',' || c = '[' || c = ']' || c = '\x7b' || c = '\x7d'

/-- Whether a scalar without quotes ends at a character that stands behind a gap. -/
def endsAfterGap (inBrackets : Bool) (margin : Int) (s : Spot) (rest : List Spot) : Bool :=
  (!inBrackets && s.column < margin) || atMark (s :: rest) || s.char = '#'

/-- Whether a scalar without quotes ends at a character. -/
def endsAt (inBrackets : Bool) (s : Spot) (rest : List Spot) : Bool :=
  (s.char = ':' && atEdge rest) || (inBrackets && isBracketSign s.char)

/-- Whether a colon stands where it can neither end a scalar in brackets nor belong to it. -/
def isStrayColon (inBrackets : Bool) (s : Spot) (rest : List Spot) : Bool :=
  inBrackets && s.char = ':' &&
    match rest with
    | [] => false
    | t :: _ => isBracketSign t.char || t.char = '?'

/-- Reads a scalar without quotes, whose further lines start at the margin or to the right of it. -/
def readPlain (inBrackets : Bool) (margin : Int) : Gap → List Spot → Option ReadScalar
  | gap, [] => some ⟨[], gap.isBroken, []⟩
  | gap, s :: rest =>
    if isBlank s.char || isBreak s.char then
      if gap.isBroken && s.column < margin && s.char = '\t' then none
      else readPlain inBrackets margin (gap.add s.char) rest
    else if !gap.isEmpty && endsAfterGap inBrackets margin s rest then
      some ⟨[], gap.isBroken, s :: rest⟩
    else if isStrayColon inBrackets s rest then none
    else if endsAt inBrackets s rest then some ⟨[], gap.isBroken, s :: rest⟩
    else (readPlain inBrackets margin .none rest).map (·.onto (gap.fold ++ [s.char]))

/-! ## In quotes -/

/-- Reads a scalar in single quotes behind the first one. A quote in it is written twice. -/
def readSingle : Gap → List Spot → Option (List Char × List Spot)
  | _, [] => none
  | gap, [s] => if s.char = '\'' then some (gap.fold, []) else none
  | gap, s :: t :: rest =>
    if isBlank s.char || isBreak s.char then readSingle (gap.add s.char) (t :: rest)
    else if atMark (s :: t :: rest) then none
    else if s.char = '\'' then
      if t.char = '\'' then (readSingle .none rest).map fun r => (gap.fold ++ '\'' :: r.1, r.2)
      else some (gap.fold, t :: rest)
    else (readSingle .none (t :: rest)).map fun r => (gap.fold ++ s.char :: r.1, r.2)

/-- What stands behind a backslash for a single character, and that character. -/
def escapes : List (Char × Char) :=
  [('0', '\x00'), ('a', '\x07'), ('b', '\x08'), ('t', '\t'), ('\t', '\t'), ('n', '\n'),
    ('v', '\x0b'), ('f', '\x0c'), ('r', '\r'), ('e', '\x1b'), (' ', ' '), ('"', '"'), ('/', '/'),
    ('\\', '\\'), ('N', '\u0085'), ('_', '\u00a0'), ('L', '\u2028'), ('P', '\u2029')]

/-- The letters behind a backslash that hexadecimal digits follow, and how many. -/
def hexEscapes : List (Char × Nat) := [('x', 2), ('u', 4), ('U', 8)]

/-- The value of a digit in a base; the letters are digits too. -/
def digitOf? (base : Nat) (c : Char) : Option Nat :=
  let digit :=
    if c.isDigit then some (c.toNat - '0'.toNat)
    else if 'a' ≤ c ∧ c ≤ 'z' then some (c.toNat - 'a'.toNat + 10)
    else if 'A' ≤ c ∧ c ≤ 'Z' then some (c.toNat - 'A'.toNat + 10)
    else none
  digit.filter (· < base)

/-- The character with a number, if there is one. -/
def charOf? (n : Nat) : Option Char := if n.isValidChar then some (Char.ofNat n) else none

/-- Where the reading of a scalar in double quotes is. -/
inductive Within
  | words (gap : Gap)
  /-- Behind a backslash. -/
  | escape
  /-- Among hexadecimal digits, of which some are still to come. -/
  | digits (left value : Nat)
  deriving DecidableEq, Repr

/-- Reads a scalar in double quotes behind the first one. -/
def readDouble : Within → List Spot → Option (List Char × List Spot)
  | _, [] => none
  | .words gap, s :: rest =>
    if isBlank s.char || isBreak s.char then readDouble (.words (gap.add s.char)) rest
    else if atMark (s :: rest) then none
    else if s.char = '"' then some (gap.fold, rest)
    else if s.char = '\\' then
      (readDouble .escape rest).map fun r => (gap.fold ++ r.1, r.2)
    else (readDouble (.words .none) rest).map fun r => (gap.fold ++ s.char :: r.1, r.2)
  | .escape, s :: rest =>
    if isBreak s.char then readDouble (.words .escaped) rest
    else
      match escapes.lookup s.char, hexEscapes.lookup s.char with
      | some c, _ => (readDouble (.words .none) rest).map fun r => (c :: r.1, r.2)
      | none, some left => readDouble (.digits left 0) rest
      | none, none => none
  | .digits left value, s :: rest =>
    match digitOf? 16 s.char with
    | none => none
    | some d =>
      if left ≤ 1 then
        match charOf? (16 * value + d) with
        | none => none
        | some c => (readDouble (.words .none) rest).map fun r => (c :: r.1, r.2)
      else readDouble (.digits (left - 1) (16 * value + d)) rest

end TopicBridge.Yaml
