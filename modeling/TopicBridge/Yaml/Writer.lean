import TopicBridge.Json.Writer
import TopicBridge.Yaml.Meaning

/-! # Writing documents in YAML

The text of a document with one member or item a line. Texts stand without quotes where they can;
otherwise a text of several lines is a block, and others have single quotes. Double quotes are for
what the other ways cannot hold.
-/

namespace TopicBridge.Yaml

/-! ## How a text is written -/

/-- Whether a character can stand for itself. -/
def isPrintable (c : Char) : Bool :=
  let n := c.toNat
  n = 0x0a || (0x20 ≤ n && n ≤ 0x7e) || (0xa0 ≤ n && n ≤ 0xfffd && n ≠ 0xfeff) || 0x10000 ≤ n

/-- Whether a line break or the end of the text is next, or a blank. -/
def isEdge : List Char → Bool
  | [] => true
  | c :: _ => isBlank c || isBreak c

/-- Whether a colon or a sharp sign among other characters would be taken for a sign. -/
def hasInnerSign : (blankBefore : Bool) → List Char → Bool
  | _, [] => false
  | blankBefore, c :: cs =>
    c = ':' && isEdge cs || c = '#' && blankBefore || hasInnerSign (isBlank c || isBreak c) cs

/-- Whether the first characters of a text would be taken for a sign. -/
def hasFirstSign : List Char → Bool
  | [] => false
  | c :: cs =>
    ['#', ',', '[', ']', '\x7b', '\x7d', '&', '*', '!', '|', '>', '\'', '"', '%', '@',
      '\x60'].contains c
      || ['?', ':', '-'].contains c && isEdge cs
      || ["---".toList, "...".toList].contains ((c :: cs).take 3)

/-- Whether two neighbours in a text have certain kinds. -/
def hasNeighbours (p q : Char → Bool) (cs : List Char) : Bool :=
  (cs.zip (cs.drop 1)).any fun (c, d) => p c && q d

/-- Whether a text can stand without quotes. -/
def canBePlain (cs : List Char) : Bool :=
  cs.all isPrintable && !cs.any isBreak && !(cs.head?.any (· = ' ')) &&
    !(cs.getLast?.any (· = ' ')) && !hasFirstSign cs && !hasInnerSign false (cs.drop 1)

/-- Whether a text can stand in single quotes. -/
def canBeSingle (cs : List Char) : Bool :=
  cs.all isPrintable && !hasNeighbours (· = ' ') isBreak cs && !hasNeighbours isBreak (· = ' ') cs

/-- Whether a text can be a block of lines. -/
def canBeBlock (cs : List Char) : Bool :=
  cs.all isPrintable && !hasNeighbours (· = ' ') isBreak cs && !(cs.getLast?.any (· = ' '))

/-- Whether a text would be read as something else without quotes. -/
def isAmbiguous (s : String) : Bool := meaning s ≠ .text || isZeroLed (cutSign s.toList).2

/-- How a text is written. -/
inductive Form
  | plain
  | single
  | double
  | block
  deriving DecidableEq, Repr

/-- How a text is written. -/
def formOf (s : String) : Form :=
  let cs := s.toList
  if cs.contains '\n' then if canBeBlock cs then .block else .double
  else if !isAmbiguous s && canBePlain cs then .plain
  else if canBeSingle cs then .single
  else .double

/-! ## Texts -/

/-- Blanks in front of a line. -/
def margin (indent : Nat) : List Char := List.replicate indent ' '

/-- A text with a margin in front of each line that holds anything. -/
def withMargins (indent : Nat) : (lineStarts : Bool) → List Char → List Char
  | _, [] => []
  | lineStarts, c :: cs =>
    if isBreak c then c :: withMargins indent true cs
    else (if lineStarts then margin indent else []) ++ c :: withMargins indent false cs

/-- What is in single quotes; the quote is doubled and further lines get a margin. -/
def singleChars (indent : Nat) (cs : List Char) : List Char :=
  withMargins indent false (cs.flatMap fun c => if c = '\'' then ['\'', '\''] else [c]) ++
    if cs.getLast?.any isBreak then margin indent else []

/-- A digit in base sixteen, a letter being a capital. -/
def hexCapital (n : Nat) : Char := if n < 10 then Char.ofNat (48 + n) else Char.ofNat (55 + n)

/-- The last digits of a number in base sixteen. -/
def hexDigits : (count n : Nat) → List Char
  | 0, _ => []
  | count + 1, n => hexDigits count (n / 16) ++ [hexCapital (n % 16)]

/-- A character behind a backslash, by its letter or by its number; only characters of at most
sixteen bits need this. -/
def escapeChar (c : Char) : List Char :=
  match escapes.find? fun e => e.2 = c with
  | some e => ['\\', e.1]
  | none =>
    let n := c.toNat
    if n ≤ 0xff then '\\' :: 'x' :: hexDigits 2 n else '\\' :: 'u' :: hexDigits 4 n

/-- What is in double quotes. -/
def doubleChars (cs : List Char) : List Char :=
  cs.flatMap fun c =>
    if !isPrintable c || isBreak c || c = '"' || c = '\\' then escapeChar c else [c]

/-- What stands behind the sign of a block: the width of its margin, if it cannot be seen, and how
it ends, if not with a single line break. -/
def blockHeader (cs : List Char) : List Char :=
  (if cs.head?.any fun c => c = ' ' || isBreak c then ['2'] else []) ++
    match cs.reverse with
    | [] => ['-']
    | [c] => if isBreak c then ['+'] else ['-']
    | c :: d :: _ => if isBreak c then if isBreak d then ['+'] else [] else ['-']

/-- A text at the end of a line, and the line break. -/
def textChars (indent : Nat) (s : String) : List Char :=
  let cs := s.toList
  match formOf s with
  | .plain => cs ++ ['\n']
  | .single => '\'' :: singleChars indent cs ++ ['\'', '\n']
  | .double => '"' :: doubleChars cs ++ ['"', '\n']
  | .block =>
    '|' :: blockHeader cs ++ '\n' :: withMargins indent true cs ++
      if cs.getLast?.any isBreak then [] else ['\n']

/-! ## Documents -/

mutual

/-- A document behind the sign of an item at a column. -/
def itemChars (column : Nat) : Json → List Char
  | .text s => ' ' :: textChars (column + 2) s
  | .array (j :: js) => ' ' :: arrayChars (column + 2) true (j :: js)
  | .object (m :: ms) => ' ' :: objectChars (column + 2) true (m :: ms)
  | .array [] => " []\n".toList
  | .object [] => [' ', '\x7b', '\x7d', '\n']
  | .null => " null\n".toList
  | .bool b => (if b then " true\n" else " false\n").toList
  | .number n => ' ' :: n.render ++ ['\n']

/-- A document behind a key at a column. -/
def memberChars (column : Nat) : Json → List Char
  | .text s => ' ' :: textChars (column + 2) s
  | .array (j :: js) => '\n' :: arrayChars column false (j :: js)
  | .object (m :: ms) => '\n' :: objectChars (column + 2) false (m :: ms)
  | .array [] => " []\n".toList
  | .object [] => [' ', '\x7b', '\x7d', '\n']
  | .null => " null\n".toList
  | .bool b => (if b then " true\n" else " false\n").toList
  | .number n => ' ' :: n.render ++ ['\n']

/-- Items at a column, where the text may be already. -/
def arrayChars (column : Nat) (isThere : Bool) : List Json → List Char
  | [] => []
  | j :: js =>
    (if isThere then [] else margin column) ++ '-' :: itemChars column j ++
      arrayChars column false js

/-- Members at a column, where the text may be already. -/
def objectChars (column : Nat) (isThere : Bool) : List (String × Json) → List Char
  | [] => []
  | (k, j) :: ms =>
    (if isThere then [] else margin column) ++ k.toList ++ ':' :: memberChars column j ++
      objectChars column false ms

end

/-- The text of an object whose keys can stand without quotes. -/
def renderObject (members : List (String × Json)) : String :=
  String.ofList (objectChars 0 false members)

end TopicBridge.Yaml
