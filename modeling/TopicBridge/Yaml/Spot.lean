/-! # Characters in their places

A text in YAML is laid out in lines and columns, and much of its meaning is in them. Here a text is
taken apart into characters that know their places. All usual line breaks count as one newline; the
line and paragraph separators of Unicode break lines too and stay what they are.
-/

namespace TopicBridge.Yaml

/-- A character in its place; lines and columns are counted from zero. -/
structure Spot where
  char : Char
  line : Nat
  column : Nat
  deriving DecidableEq, Repr

/-- Whether a character breaks a line. -/
def isBreak (c : Char) : Bool := c = '\n' || c = '\u2028' || c = '\u2029'

/-- Whether a character is a blank within a line. -/
def isBlank (c : Char) : Bool := c = ' ' || c = '\t'

/-- The text with each usual line break written as a newline. -/
def unifyBreaks : List Char → List Char
  | [] => []
  | '\r' :: '\n' :: cs => '\n' :: unifyBreaks cs
  | c :: cs => (if c = '\r' ∨ c = '\u0085' then '\n' else c) :: unifyBreaks cs

/-- Puts characters in their places from a place on. -/
def place (line column : Nat) : List Char → List Spot
  | [] => []
  | c :: cs =>
    ⟨c, line, column⟩ :: if isBreak c then place (line + 1) 0 cs else place line (column + 1) cs

/-- The characters of a text in their places. A mark of the byte order at the start says nothing and
still takes a column. -/
def spots (text : List Char) : List Spot :=
  match unifyBreaks text with
  | '\ufeff' :: cs => place 0 1 cs
  | cs => place 0 0 cs

/-- Whether a character may stand in a text at all: tabs, line breaks and what can be printed. -/
def isAllowed (c : Char) : Bool :=
  let n := c.toNat
  n = 0x09 || n = 0x0a || n = 0x0d || (0x20 ≤ n && n ≤ 0x7e) || n = 0x85 ||
    (0xa0 ≤ n && n ≤ 0xfffd) || 0x10000 ≤ n

/-- The characters without their places. -/
def chars (xs : List Spot) : List Char := xs.map (·.char)

/-- Whether the rest of a text starts with a character. -/
def starts (c : Char) : List Spot → Bool
  | [] => false
  | s :: _ => s.char = c

/-- Whether a word ends here: at a blank, a line break or the end of the text. -/
def atEdge : List Spot → Bool
  | [] => true
  | s :: _ => isBlank s.char || isBreak s.char

/-- Whether a line or the text ends here. -/
def atLineEnd : List Spot → Bool
  | [] => true
  | s :: _ => isBreak s.char

/-- The rest of a text behind blanks. -/
def skipBlanks (xs : List Spot) : List Spot := xs.dropWhile fun s => isBlank s.char

/-- The rest of a text from the end of the line on, if a comment starts here. -/
def skipComment (xs : List Spot) : List Spot :=
  if starts '#' xs then xs.dropWhile fun s => !isBreak s.char else xs

/-- Whether three signs of a kind stand alone at the start of a line. Such marks stand between
documents. -/
def startsMark (c : Char) : List Spot → Bool
  | x :: y :: z :: rest =>
    x.column = 0 && x.char = c && y.char = c && z.char = c && atEdge rest
  | _ => false

/-- Whether a document starts or ends with a mark here. -/
def atMark (xs : List Spot) : Bool := startsMark '-' xs || startsMark '.' xs

/-- A digit, a letter, `_` or `-`. -/
def isNameChar (c : Char) : Bool := c.isAlphanum || c = '_' || c = '-'

end TopicBridge.Yaml
