import TopicBridge.Yaml.Block
import TopicBridge.Yaml.Token

/-! # Layout

The way from a text to its tokens. Indented collections open and close by the columns that their
parts stand in, and the key of a mapping shows only at the colon behind it: whatever could be a key
is kept in mind until a colon comes or the line ends.
-/

namespace TopicBridge.Yaml

/-- A place where a key may have started. -/
structure Candidate where
  /-- Whether nothing but a key can stand there. -/
  required : Bool
  /-- The number of tokens in front of it. -/
  number : Nat
  line : Nat
  column : Nat
  deriving DecidableEq, Repr

/-- Whether a candidate is out of reach of a place: on an earlier line, or too far away on the same
one. -/
def Candidate.isStale (k : Candidate) (s : Spot) : Bool :=
  k.line < s.line || k.column + 1024 < s.column

/-- A text on the way to its tokens. -/
structure Layout where
  rest : List Spot
  /-- The column of the innermost indented collection, or `-1` outside of all. -/
  indent : Int
  /-- The columns of the collections around it. -/
  outer : List Int
  /-- Where a key may have started, in the innermost bracket if there is one. -/
  candidate : Option Candidate
  /-- The same for what is around each open bracket. -/
  around : List (Option Candidate)
  /-- Whether a key may start here. -/
  keyAllowed : Bool
  /-- The tokens so far, the last one first. -/
  tokens : List Token
  deriving Repr

namespace Layout

/-- The start of a text. -/
def ofSpots (xs : List Spot) : Layout := ⟨xs, -1, [], none, [], true, []⟩

/-- Whether a bracket is open. -/
def inBrackets (l : Layout) : Bool := !l.around.isEmpty

/-- A token more. -/
def push (t : Token) (l : Layout) : Layout := { l with tokens := t :: l.tokens }

/-- Goes on behind a token. -/
def behind (rest : List Spot) (l : Layout) : Layout := { l with rest := rest }

/-- Says whether a key may start here. -/
def allowKey (b : Bool) (l : Layout) : Layout := { l with keyAllowed := b }

/-! ## Between tokens -/

/-- Skips blanks, comments and line breaks, in a comment or not. Tabs count as blanks where no key
may start, and in brackets. A key may start behind a line break, unless in brackets. -/
def skipSpace (inBrackets : Bool) :
    (inComment keyAllowed : Bool) → List Spot → Bool × List Spot
  | _, keyAllowed, [] => (keyAllowed, [])
  | inComment, keyAllowed, s :: rest =>
    if isBreak s.char then skipSpace inBrackets false (keyAllowed || !inBrackets) rest
    else if inComment || s.char = '#' then skipSpace inBrackets true keyAllowed rest
    else if s.char = ' ' || s.char = '\t' && (inBrackets || !keyAllowed) then
      skipSpace inBrackets false keyAllowed rest
    else (keyAllowed, s :: rest)

/-- Goes on at the next token. -/
def skip (l : Layout) : Layout :=
  let (keyAllowed, rest) := skipSpace l.inBrackets false l.keyAllowed l.rest
  { l with keyAllowed, rest }

/-! ## Candidates for keys -/

/-- Forgets a candidate, unless it had to become a key. -/
def dropped : Option Candidate → Option (Option Candidate)
  | some k => if k.required then none else some none
  | none => some none

/-- Forgets a candidate that is out of reach of a place. -/
def droppedIfStale (s : Spot) : Option Candidate → Option (Option Candidate)
  | some k => if k.isStale s then dropped (some k) else some (some k)
  | none => some none

/-- Forgets all candidates that are out of reach. -/
def dropStale (s : Spot) (l : Layout) : Option Layout := do
  return { l with
    candidate := ← droppedIfStale s l.candidate
    around := ← l.around.mapM (droppedIfStale s) }

/-- Forgets the candidate. -/
def dropCandidate (l : Layout) : Option Layout := do
  return { l with candidate := ← dropped l.candidate }

/-- Keeps in mind that a key may start at a place. -/
def keepCandidate (s : Spot) (l : Layout) : Option Layout := do
  if l.keyAllowed then
    let l ← l.dropCandidate
    return { l with
      candidate := some ⟨!l.inBrackets && l.indent == s.column, l.tokens.length, s.line, s.column⟩ }
  else return l

/-! ## Indented collections -/

/-- Closes the collections that are indented more than a column, given those around. -/
def closeBeyond (column : Int) :
    (indent : Int) → List Int → List Token → Int × List Int × List Token
  | indent, [], ts => (indent, [], ts)
  | indent, outer :: outers, ts =>
    if column < indent then closeBeyond column outer outers (.close :: ts)
    else (indent, outer :: outers, ts)

/-- Closes the collections that are indented more than a column. -/
def unindent (column : Int) (l : Layout) : Layout :=
  if l.inBrackets then l
  else
    let (indent, outer, tokens) := closeBeyond column l.indent l.outer l.tokens
    { l with indent, outer, tokens }

/-- Opens a collection at a column that is further in, its first tokens being there already. -/
def openAt (column : Nat) (opening : Token) (already : List Token) (l : Layout) : Layout :=
  if l.inBrackets || column ≤ l.indent then { l with tokens := already ++ l.tokens }
  else
    { l with
      indent := column
      outer := l.indent :: l.outer
      tokens := already ++ opening :: l.tokens }

/-! ## Kinds of tokens -/

/-- A mark between documents or a directive, which end all that is open. -/
def atMargin (t : Token) (rest : List Spot) (l : Layout) : Option Layout := do
  return ((← (l.unindent (-1)).dropCandidate).allowKey false).push t |>.behind rest

/-- An opening bracket. -/
def opening (t : Token) (s : Spot) (rest : List Spot) (l : Layout) : Option Layout := do
  let l ← l.keepCandidate s
  return ({ l with candidate := none, around := l.candidate :: l.around }.allowKey true).push t
    |>.behind rest

/-- A closing bracket; one that closes nothing is a token too. -/
def closing (t : Token) (rest : List Spot) (l : Layout) : Option Layout := do
  let l ← l.dropCandidate
  let l := match l.around with
    | [] => l
    | candidate :: around => { l with candidate, around }
  return (l.allowKey false).push t |>.behind rest

/-- A comma. -/
def comma (rest : List Spot) (l : Layout) : Option Layout := do
  return ((← l.dropCandidate).allowKey true).push .comma |>.behind rest

/-- The sign of an item or of a key, which may open a collection. -/
def sign (t collection : Token) (keyNext : Bool) (s : Spot) (rest : List Spot) (l : Layout) :
    Option Layout := do
  if !l.inBrackets && !l.keyAllowed then none
  else
    let l ← (l.openAt s.column collection []).dropCandidate
    return (l.allowKey keyNext).push t |>.behind rest

/-- The colon in front of a value. The candidate turns out to be a key; without one the key is
empty. -/
def colon (s : Spot) (rest : List Spot) (l : Layout) : Option Layout :=
  match l.candidate with
  | some k =>
    let later := l.tokens.take (l.tokens.length - k.number)
    let l := { l with tokens := l.tokens.drop later.length, candidate := none }
    some (((l.openAt k.column .openMapping (later ++ [.key])).allowKey false).push .value
      |>.behind rest)
  | none =>
    if l.inBrackets then some ((l.allowKey false).push .value |>.behind rest)
    else if l.keyAllowed then some ((l.openAt s.column .openMapping []).push .value |>.behind rest)
    else none

/-- A token that may start a key. -/
def word (s : Spot) (read : Option (Token × List Spot)) (l : Layout) : Option Layout := do
  let l ← l.keepCandidate s
  let (t, rest) ← read
  return (l.allowKey false).push t |>.behind rest

/-- A scalar in a block. -/
def block (style : Style) (rest : List Spot) (l : Layout) : Option Layout := do
  let l ← l.dropCandidate
  let (text, rest) ← readBlock style l.indent rest
  return (l.allowKey true).push (.scalar style (String.ofList text)) |>.behind rest

/-- A scalar without quotes. -/
def plain (s : Spot) (rest : List Spot) (l : Layout) : Option Layout := do
  let l ← l.keepCandidate s
  let r ← readPlain l.inBrackets (l.indent + 1) .none (s :: rest)
  return (l.allowKey r.broken).push (.scalar .plain (String.ofList r.text)) |>.behind r.rest

/-- Reads a scalar in quotes. -/
def readQuoted (read : List Spot → Option (List Char × List Spot)) (rest : List Spot) :
    Option (Token × List Spot) :=
  (read rest).map fun r => (.scalar .quoted (String.ofList r.1), r.2)

/-- Whether no token starts with a character: it is set aside or out of place. -/
def startsNothing (c : Char) : Bool := isBlank c || ['|', '>', '%', '@', '\x60'].contains c

/-- The token at a place. -/
def token (s : Spot) (rest : List Spot) (l : Layout) : Option Layout :=
  if s.char = '%' && s.column = 0 then do
    let (t, rest) ← readDirective rest
    l.atMargin t rest
  else if startsMark '-' (s :: rest) then l.atMargin .documentStart (rest.drop 2)
  else if startsMark '.' (s :: rest) then l.atMargin .documentEnd (rest.drop 2)
  else if s.char = '[' then l.opening .openBracket s rest
  else if s.char = '\x7b' then l.opening .openBrace s rest
  else if s.char = ']' then l.closing .closeBracket rest
  else if s.char = '\x7d' then l.closing .closeBrace rest
  else if s.char = ',' then l.comma rest
  else if s.char = '-' && atEdge rest then l.sign .entry .openSequence true s rest
  else if s.char = '?' && (l.inBrackets || atEdge rest) then
    l.sign .key .openMapping (!l.inBrackets) s rest
  else if s.char = ':' && (l.inBrackets || atEdge rest) then l.colon s rest
  else if s.char = '*' then l.word s ((readName rest).map fun r => (.alias r.1, r.2))
  else if s.char = '&' then l.word s ((readName rest).map fun r => (.anchor r.1, r.2))
  else if s.char = '!' then l.word s (readTag l.inBrackets (s :: rest))
  else if s.char = '|' && !l.inBrackets then l.block .literal rest
  else if s.char = '>' && !l.inBrackets then l.block .folded rest
  else if s.char = '\'' then l.word s (readQuoted (readSingle .none) rest)
  else if s.char = '"' then l.word s (readQuoted (readDouble (.words .none)) rest)
  else if startsNothing s.char then none
  else l.plain s rest

/-- All tokens, the last one first. Each one takes a character at least. -/
def finish : (fuel : Nat) → Layout → Option (List Token)
  | 0, _ => none
  | fuel + 1, l =>
    let l := l.skip
    match l.rest with
    | [] => do return (← (l.unindent (-1)).dropCandidate).tokens
    | s :: rest => do (← ((← l.dropStale s).unindent s.column).token s rest).finish fuel

end Layout

/-- The tokens of a text, if there is nothing in it that is no token. -/
def tokens? (text : List Char) : Option (List Token) :=
  if text.all isAllowed then
    let xs := spots text
    (Layout.finish (xs.length + 1) (Layout.ofSpots xs)).map List.reverse
  else none

end TopicBridge.Yaml
