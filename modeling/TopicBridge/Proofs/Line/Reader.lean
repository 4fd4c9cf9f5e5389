import TopicBridge.Number.Decimal
import TopicBridge.Proofs.Table
import TopicBridge.Record.Line

/-! # Reading lines

A line is read from left to right. A backslash in front of a character that can be marked gives this
character, and any other backslash stands for itself. -/

namespace TopicBridge.Line

/-- The characters that are marked in measurements. -/
def measurementMarks : List Char := [',', ' ']

/-- The characters that are marked in keys and in the texts of tags. -/
def nameMarks : List Char := [',', '=', ' ']

/-- Reads up to the first of some characters that is not marked. Gives what is read and what
follows. -/
def readName (marked stops : List Char) : List Char → List Char × List Char
  | [] => ([], [])
  | [c] => if c ∈ stops then ([], [c]) else ([c], [])
  | c :: d :: cs =>
    if c = '\\' ∧ d ∈ marked then
      (d :: (readName marked stops cs).1, (readName marked stops cs).2)
    else if c ∈ stops then ([], c :: d :: cs)
    else (c :: (readName marked stops (d :: cs)).1, (readName marked stops (d :: cs)).2)

theorem length_readName_le (marked stops s : List Char) :
    (readName marked stops s).2.length ≤ s.length := by
  fun_induction readName with
  | case1 => simp
  | case2 c hc => simp
  | case3 c hc => simp
  | case4 c d cs hmark ih => simp only [List.length_cons]; omega
  | case5 c d cs hmark hc => simp
  | case6 c d cs hmark hc ih => simp only [List.length_cons] at ih ⊢; omega

/-- Reads a key and the equals sign after it. -/
def readKey (s : List Char) : Option (String × List Char) :=
  match readName nameMarks ['='] s with
  | (key, '=' :: rest) => some (String.ofList key, rest)
  | _ => none

theorem length_of_readKey {s rest : List Char} {key : String} (h : readKey s = some (key, rest)) :
    rest.length < s.length := by
  have hle := length_readName_le nameMarks ['='] s
  rw [readKey] at h
  split at h
  · next k r hr =>
      rw [hr] at hle
      cases h
      exact hle
  · cases h

/-- Reads tags, each with a comma in front, and the space after them. -/
def readTags (s : List Char) : Option (List (String × String) × List Char) :=
  match s with
  | ',' :: s =>
    match _hkey : readKey s with
    | some (key, s) =>
      (readTags (readName nameMarks [',', ' '] s).2).map fun (tags, rest) =>
        ((key, String.ofList (readName nameMarks [',', ' '] s).1) :: tags, rest)
    | none => none
  | ' ' :: s => some ([], s)
  | _ => none
termination_by s.length
decreasing_by
  have hkey := length_of_readKey _hkey
  have htext := length_readName_le nameMarks [',', ' '] s
  simp only [List.length_cons]
  omega

/-! ## Values -/

/-- What a field of a line says. A floating-point number is kept as it is printed. -/
inductive Written
  | float (text : String)
  | int (n : Int)
  | bool (b : Bool)
  | text (s : String)
  deriving DecidableEq, Repr

/-- What a line says of a value. -/
def Written.ofValue : Value → Written
  | .float x => .float x.toPlain
  | .int n => .int n
  | .bool b => .bool b
  | .text s => .text s

/-- The number that digits write. -/
def readDigits (s : List Char) : Option Nat :=
  if s.isEmpty ∨ !s.all Char.isDigit then none else some (digitsValue s)

/-- The integer that digits with an optional minus sign write. -/
def readInt : List Char → Option Int
  | '-' :: s => (readDigits s).map fun (n : Nat) => -(n : Int)
  | s => (readDigits s).map fun (n : Nat) => (n : Int)

/-- Reads a value that stands without quotes: a truth value, an integer followed by `i` or a
floating-point literal. -/
def readBare (s : List Char) : Option Written :=
  if s = "true".toList then some (.bool true)
  else if s = "false".toList then some (.bool false)
  else if s.getLast? = some 'i' then (readInt s.dropLast).map .int
  else if (Decimal.read s).isSome then some (.float (String.ofList s))
  else none

/-- Reads a value: a text between quotes, or what stands in front of the next comma. -/
def readValue : List Char → Option (Written × List Char)
  | '"' :: s =>
    match readName ['\\', '"'] ['"'] s with
    | (text, '"' :: rest) => some (.text (String.ofList text), rest)
    | _ => none
  | s => (readBare (s.takeWhile (· ≠ ','))).map (·, s.dropWhile (· ≠ ','))

theorem length_of_readValue {s rest : List Char} {v : Written}
    (h : readValue s = some (v, rest)) : rest.length ≤ s.length := by
  rw [readValue.eq_def] at h
  split at h
  · next s =>
      have hle := length_readName_le ['\\', '"'] ['"'] s
      split at h
      · next text r hr =>
          rw [hr] at hle
          cases h
          simp only [List.length_cons] at hle ⊢
          omega
      · cases h
  · obtain ⟨w, -, hw⟩ := Option.map_eq_some_iff.mp h
    cases hw
    exact (List.dropWhile_sublist _).length_le

/-! ## Lines -/

/-- Reads fields with commas between them, up to the end. -/
def readFields (s : List Char) : Option (List (String × Written)) :=
  match _hkey : readKey s with
  | some (key, t) =>
    match _hvalue : readValue t with
    | some (v, []) => some [(key, v)]
    | some (v, ',' :: rest) => (readFields rest).map ((key, v) :: ·)
    | _ => none
  | none => none
termination_by s.length
decreasing_by
  have hlt := length_of_readKey _hkey
  have hle := length_of_readValue _hvalue
  simp only [List.length_cons] at hle
  omega

/-- What a line says. -/
structure Contents where
  measurement : String
  fields : Table Written
  tags : Table String
  deriving DecidableEq, Repr

/-- Reads a line. -/
def read? (line : String) : Option Contents :=
  match readTags (readName measurementMarks [',', ' '] line.toList).2 with
  | some (tags, rest) =>
    (readFields rest).map fun fields =>
      { measurement := String.ofList (readName measurementMarks [',', ' '] line.toList).1
        fields := .ofList fields
        tags := .ofList tags }
  | none => none

end TopicBridge.Line
