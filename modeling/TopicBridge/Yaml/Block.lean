import TopicBridge.Yaml.Scalar

/-! # Scalars in blocks

A scalar behind `|` or `>` is a block of lines that are indented alike. How far they are is said
behind the sign or seen at the first line; there it is also said whether line breaks at the end
count.
-/

namespace TopicBridge.Yaml

/-- What becomes of the line breaks at the end of a block. -/
inductive Chomping
  /-- None of them counts. -/
  | strip
  /-- The first of them counts. -/
  | clip
  /-- All of them count. -/
  | keep
  deriving DecidableEq, Repr

/-- What stands behind the sign of a block. -/
structure BlockHeader where
  chomping : Chomping
  /-- How much further than its surroundings the block is indented, if that is said. -/
  indent : Option Nat
  deriving DecidableEq, Repr

/-- The digit of an indentation, which is not zero. -/
def indentDigit? (c : Char) : Option Nat :=
  if c.isDigit ∧ c ≠ '0' then some (c.toNat - '0'.toNat) else none

/-- The sign of a chomping. -/
def chompingOf? (c : Char) : Option Chomping :=
  if c = '+' then some .keep else if c = '-' then some .strip else none

/-- Reads a digit for an indentation, if there is a digit. -/
def readIndent : List Spot → Option (Option Nat × List Spot)
  | [] => some (none, [])
  | s :: rest =>
    if s.char.isDigit then (indentDigit? s.char).map fun n => (some n, rest)
    else some (none, s :: rest)

/-- Reads a sign of a chomping, if there is one. -/
def readChomping : List Spot → Option Chomping × List Spot
  | [] => (none, [])
  | s :: rest =>
    match chompingOf? s.char with
    | some c => (some c, rest)
    | none => (none, s :: rest)

/-- Reads what stands behind the sign of a block: a digit and a sign of a chomping in either order,
each of them only if it is needed, up to the end of the line. -/
def readHeader (xs : List Spot) : Option (BlockHeader × List Spot) := do
  let (before, xs) := readChomping xs
  let (indent, xs) ← readIndent xs
  let (after, xs) := if before.isNone && indent.isSome then readChomping xs else (none, xs)
  let xs := skipComment (skipBlanks xs)
  if atLineEnd xs then some (⟨(before.or after).getD .clip, indent⟩, xs.drop 1) else none

/-- Reads the empty lines in front of a block and blanks up to the indentation, if that is known, or
else all of them. The line breaks are given, and the furthest column reached in a line. -/
def readLead (indent : Option Nat) : List Spot → Option (List Char × Nat × List Spot)
  | [] => some ([], 0, [])
  | s :: rest =>
    let left := indent.all fun n => s.column < n
    if left && s.char = ' ' then readLead indent rest
    else if left && s.char = '\t' then none
    else if isBreak s.char then
      (readLead indent rest).map fun (breaks, furthest, rest) =>
        (s.char :: breaks, max s.column furthest, rest)
    else some ([], s.column, s :: rest)

/-- Where the reading of a block is: within a line, or in front of one and behind line breaks. -/
inductive BlockPlace
  | line
  /-- Behind the break of the line before, if there was one, and the breaks of empty lines. -/
  | lead (last : Option Char) (more : List Char)
  deriving DecidableEq, Repr

/-- What line breaks between two lines of a block are read as. A newline between lines that do not
start with blanks is folded. -/
def joinLines (style : Style) (last : Option Char) (more : List Char)
    (blankBefore blankAfter : Bool) : List Char :=
  if style = .folded && last == some '\n' && !blankBefore && !blankAfter then
    if more.isEmpty then [' '] else more
  else last.toList ++ more

/-- What line breaks at the end of a block are read as. -/
def Chomping.ending : Chomping → Option Char → List Char → List Char
  | strip, _, _ => []
  | clip, last, _ => last.toList
  | keep, last, more => last.toList ++ more

/-- Reads the lines of a block. It is also known whether the line before started with a blank. -/
def readLines (style : Style) (chomping : Chomping) (indent : Nat) :
    (blankBefore : Bool) → BlockPlace → List Spot → Option (List Char × List Spot)
  | _, .line, [] => some ([], [])
  | _, .lead last more, [] => some (chomping.ending last more, [])
  | blank, .line, s :: rest =>
    if isBreak s.char then readLines style chomping indent blank (.lead (some s.char) []) rest
    else (readLines style chomping indent blank .line rest).map fun r => (s.char :: r.1, r.2)
  | blank, .lead last more, s :: rest =>
    if isBreak s.char then
      readLines style chomping indent blank (.lead last (more ++ [s.char])) rest
    else if s.column < indent then
      if s.char = ' ' then readLines style chomping indent blank (.lead last more) rest
      else if s.char = '\t' then none
      else some (chomping.ending last more, s :: rest)
    else
      (readLines style chomping indent (isBlank s.char) .line rest).map fun r =>
        (joinLines style last more blank (isBlank s.char) ++ s.char :: r.1, r.2)

/-- Reads a block behind its sign, within surroundings that are indented by `outer`. -/
def readBlock (style : Style) (outer : Int) (xs : List Spot) : Option (List Char × List Spot) := do
  let (header, xs) ← readHeader xs
  let indent := header.indent.map fun n => outer.toNat + n
  let (breaks, furthest, xs) ← readLead indent xs
  let indent := indent.getD (max furthest (max (outer + 1).toNat 1))
  readLines style header.chomping indent false (.lead none breaks) xs

end TopicBridge.Yaml
