import TopicBridge.Regex.Basic
import TopicBridge.Regex.ClassName
import TopicBridge.Text.Split

/-! # The notation of regular expressions

`Regex.parse?` reads an expression from its text. A text is refused if it breaks the grammar, asks
for what the matcher cannot do (looking around, referring back), could match half a character, nests
too deeply, or would grow too large.

Groups and classes nest, so the reader keeps what it has read of the enclosing ones on a stack and
takes one construct at a time.
-/

namespace TopicBridge

open Unicode

namespace Regex

/-- The settings that a directive such as `(?i)` changes. -/
structure Flags where
  insensitive : Bool := false
  multiline : Bool := false
  dotAll : Bool := false
  swapGreed : Bool := false
  unicode : Bool := true
  crlf : Bool := false
  spaced : Bool := false
  deriving DecidableEq, Repr

namespace Flags

/-- Switches the setting with the given letter. -/
def switch? (f : Flags) (letter : Char) (on : Bool) : Option Flags :=
  match letter with
  | 'i' => some { f with insensitive := on }
  | 'm' => some { f with multiline := on }
  | 's' => some { f with dotAll := on }
  | 'U' => some { f with swapGreed := on }
  | 'u' => some { f with unicode := on }
  | 'R' => some { f with crlf := on }
  | 'x' => some { f with spaced := on }
  | _ => none

/-- Reads letters up to `:` or `)`. No letter may come twice, and one hyphen may stand before
letters to switch off. The result tells which of the two ended the letters, and whether there were
any. -/
def read (f : Flags) (seen : List Char) (negated : Bool) :
    List Char → Option (Flags × Bool × Bool × List Char)
  | [] => none
  | ':' :: rest => if seen.head? = some '-' then none else some (f, true, !seen.isEmpty, rest)
  | ')' :: rest => if seen.head? = some '-' then none else some (f, false, !seen.isEmpty, rest)
  | '-' :: rest => if negated then none else f.read ('-' :: seen) true rest
  | c :: rest =>
    if seen.contains c then none
    else
      match f.switch? c (!negated) with
      | some g => g.read (c :: seen) negated rest
      | none => none

end Flags

/-! ## Characters and escapes -/

/-- The text behind blanks and comments. -/
def skipSpaced (inComment : Bool) : List Char → List Char
  | [] => []
  | c :: cs =>
    if inComment then skipSpaced (c ≠ '\n') cs
    else if isBlank c then skipSpaced false cs
    else if c = '#' then skipSpaced true cs
    else c :: cs

/-- The text from the next character that counts on. -/
def skip (f : Flags) (s : List Char) : List Char :=
  if f.spaced then skipSpaced false s else s

/-- The next character that counts, blanks and one comment sign left out. -/
def peekSpaced (sawSign : Bool) : List Char → Option Char
  | [] => none
  | c :: cs =>
    if isBlank c then peekSpaced sawSign cs
    else if !sawSign && c == '#' then peekSpaced true cs
    else some c

/-- The character after the next one. -/
def peekAfter (f : Flags) (s : List Char) : Option Char :=
  if f.spaced then peekSpaced false (s.drop 1) else (s.drop 1).head?

/-- What one element of the notation stands for. -/
inductive Atom
  | literal (c : Char) (fromByte : Bool)
  | set (cls : CharClass)
  | look (condition : Look)
  deriving DecidableEq, Repr

/-- The characters with a meaning of their own, which a backslash takes away. -/
def metaChars : List Char := "\\.+*?()|[]\x7b\x7d^$#&-~".toList

/-- Whether a character that a backslash precedes stands for itself. -/
def escapesToItself (c : Char) : Bool :=
  metaChars.contains c || (c.toNat < 0x80 && !c.isAlphanum && c ≠ '<' && c ≠ '>')

/-- Whether a character is a hexadecimal digit. -/
def isHexDigit (c : Char) : Bool :=
  c.isDigit || ('a' ≤ c && c ≤ 'f') || ('A' ≤ c && c ≤ 'F')

/-- The character with a code point, if there is one. -/
def charOfCode? (n : Nat) : Option Char :=
  if n.isValidChar then some (Char.ofNat n) else none

/-- Reads a fixed number of hexadecimal digits. -/
def readHexDigits (f : Flags) : Nat → List Char → List Char → Option (List Char × List Char)
  | 0, acc, s => some (acc.reverse, s)
  | _ + 1, _, [] => none
  | n + 1, acc, c :: cs =>
    if isHexDigit c then readHexDigits f n (c :: acc) (skip f cs) else none

/-- Reads hexadecimal digits up to a closing brace. -/
def readHexBraced (f : Flags) : Nat → List Char → List Char → Option (List Char × List Char)
  | 0, _, _ => none
  | _ + 1, _, [] => none
  | fuel + 1, acc, c :: cs =>
    if c = '\x7d' then some (acc.reverse, skip f cs)
    else if isHexDigit c then readHexBraced f fuel (c :: acc) (skip f cs) else none

/-- Reads the rest of a hexadecimal escape with the given number of digits. -/
def readHex (f : Flags) (count : Nat) (s : List Char) : Option (Atom × List Char) :=
  match skip f s with
  | '\x7b' :: rest => do
    let (ds, rest) ← readHexBraced f (rest.length + 1) [] (skip f rest)
    if ds.isEmpty || 8 < (ds.dropWhile (· = '0')).length then none
    else
      let c ← charOfCode? (hexNumber ds)
      return (.literal c false, rest)
  | rest => do
    let (ds, rest) ← readHexDigits f count [] rest
    let c ← charOfCode? (hexNumber ds)
    return (.literal c (count == 2), rest)

/-- Reads up to a closing brace. -/
def readBraced (f : Flags) : Nat → List Char → List Char → Option (List Char × List Char)
  | 0, _, _ => none
  | _ + 1, _, [] => none
  | fuel + 1, acc, c :: cs =>
    if c = '\x7d' then some (acc.reverse, cs) else readBraced f fuel (c :: acc) (skip f cs)

/-- The text before and after the first occurrence of `mark`. -/
def cutText? (mark : List Char) : List Char → Option (List Char × List Char)
  | [] => none
  | c :: cs =>
    match Text.afterLead? mark (c :: cs) with
    | some rest => some ([], rest)
    | none => (cutText? mark cs).map fun (a, b) => (c :: a, b)

/-- The class that the text between the braces of a property escape names. -/
def propertyClass? (name : List Char) : Option CharClass :=
  match cutText? ['!', '='] name with
  | some (p, v) => (CharClass.valued? p v).map .complement
  | none =>
    match cutText? [':'] name with
    | some (p, v) => CharClass.valued? p v
    | none =>
      match cutText? ['='] name with
      | some (p, v) => CharClass.valued? p v
      | none => CharClass.named? name

/-- A class with its members' case variants if case does not matter, and complemented on demand.
Without Unicode the result must stay within ASCII, since other bytes are parts of characters. -/
def finish? (f : Flags) (negated : Bool) (cls : CharClass) : Option CharClass :=
  let cls := if f.insensitive then CharClass.folded cls else cls
  let cls := if negated then CharClass.complement cls else cls
  if f.unicode || cls.isAscii then some cls else none

/-- Reads the rest of a property escape. -/
def readProperty (f : Flags) (negated : Bool) (s : List Char) : Option (Atom × List Char) := do
  if !f.unicode then none
  else
    match skip f s with
    | '\x7b' :: rest =>
      let (name, rest) ← readBraced f (rest.length + 1) [] (skip f rest)
      let cls ← propertyClass? name
      return (.set (← finish? f negated cls), rest)
    | '\\' :: _ => none
    | c :: rest =>
      let cls ← CharClass.named? [c]
      return (.set (← finish? f negated cls), skip f rest)
    | [] => none

/-- The class of one of the letters `d`, `s` and `w`; the capital letter gives the complement. -/
def letterClass? (f : Flags) : Char → Option CharClass
  | 'd' => some (.digit f.unicode)
  | 's' => some (.space f.unicode)
  | 'w' => some (.word f.unicode)
  | 'D' => some (.complement (.digit f.unicode))
  | 'S' => some (.complement (.space f.unicode))
  | 'W' => some (.complement (.word f.unicode))
  | _ => none

/-- Reads a word-border condition in braces. Braces that start otherwise are left alone: they count
repetitions. -/
def readBorder (f : Flags) (s : List Char) : Option (Look × List Char) :=
  match s with
  | '\x7b' :: rest =>
    let isNameChar (c : Char) : Bool := c.isAlpha || c == '-'
    match skip f rest with
    | [] => none
    | c :: cs =>
      if !isNameChar c then some (.wordBorder f.unicode, s)
      else do
        let (name, rest) ← readBraced f (rest.length + 1) [] (c :: cs)
        let l ← match String.ofList name with
          | "start" => some (.wordStart f.unicode)
          | "end" => some (.wordEnd f.unicode)
          | "start-half" => some (.wordStartHalf f.unicode)
          | "end-half" => some (.wordEndHalf f.unicode)
          | _ => none
        return (l, rest)
  | _ => some (.wordBorder f.unicode, s)

/-- The control character that a letter stands for after a backslash. -/
def controlChar? : Char → Option Char
  | 'a' => some '\x07'
  | 'f' => some '\x0c'
  | 't' => some '\t'
  | 'n' => some '\n'
  | 'r' => some '\r'
  | 'v' => some '\x0b'
  | _ => none

/-- Reads what follows a backslash. -/
def readEscape (f : Flags) : List Char → Option (Atom × List Char)
  | [] => none
  | c :: rest =>
    if c = 'x' then readHex f 2 rest
    else if c = 'u' then readHex f 4 rest
    else if c = 'U' then readHex f 8 rest
    else if c = 'p' ∨ c = 'P' then readProperty f (c = 'P') rest
    else
      match letterClass? f c with
      | some cls => if f.unicode || cls.isAscii then some (.set cls, rest) else none
      | none =>
        if escapesToItself c then some (.literal c false, rest)
        else
          match controlChar? c with
          | some d => some (.literal d false, rest)
          | none =>
            match c with
            | 'A' => some (.look .textStart, rest)
            | 'z' => some (.look .textEnd, rest)
            | 'B' => some (.look (.noWordBorder f.unicode), rest)
            | '<' => some (.look (.wordStart f.unicode), rest)
            | '>' => some (.look (.wordEnd f.unicode), rest)
            | 'b' => (readBorder f rest).map fun (l, rest) => (.look l, rest)
            | _ => none

/-- Whether a literal can stand where single bytes count. -/
def literalAllowed (f : Flags) (c : Char) (fromByte : Bool) : Bool :=
  f.unicode || c.toNat < 0x80 || (!fromByte && !f.insensitive)

/-! ## Classes in brackets -/

/-- How two parts of a bracketed class combine. -/
inductive SetOp
  | inter
  | diff
  | symmDiff
  deriving DecidableEq, Repr

/-- The combination of two classes. -/
def SetOp.apply : SetOp → CharClass → CharClass → CharClass
  | .inter, a, b => .inter a b
  | .diff, a, b => .diff a b
  | .symmDiff, a, b => .symmDiff a b

/-- What has been read of an enclosing class: the members before a nested one, with the operation
that waits for its right side. -/
structure ClassFrame where
  members : CharClass
  negated : Bool
  pending : Option (SetOp × CharClass)
  depth : Nat

/-- A class being read: its members so far, and the enclosing ones. -/
structure ClassState where
  rest : List Char
  members : CharClass
  negated : Bool
  pending : Option (SetOp × CharClass)
  depth : Nat
  outer : List ClassFrame

/-- Takes hyphens at the start of a class as members. -/
def readHyphens (f : Flags) : Nat → CharClass → List Char → CharClass × List Char
  | 0, members, s => (members, s)
  | fuel + 1, members, s =>
    match s with
    | '-' :: cs => readHyphens f fuel (.union members (.single '-')) (skip f cs)
    | _ => (members, s)

/-- Reads the front of a class behind its bracket: a sign for the complement, and the members that
stand for themselves there only. -/
def openClass (f : Flags) (outer : List ClassFrame) (s : List Char) : Option ClassState :=
  let s := skip f s
  let (negated, s) := match s with
    | '^' :: cs => (true, skip f cs)
    | _ => (false, s)
  let (members, rest) := readHyphens f (s.length + 1) .none s
  match rest with
  | [] => none
  | ']' :: cs =>
    if rest.length = s.length then
      let cs := skip f cs
      if cs.isEmpty then none
      else some ⟨cs, .union members (.single ']'), negated, none, 1, outer⟩
    else some ⟨rest, members, negated, none, 1, outer⟩
  | _ => some ⟨rest, members, negated, none, 1, outer⟩

/-- The members with a pending operation carried out. Operands are folded first if case does not
matter. -/
def settle (f : Flags) (pending : Option (SetOp × CharClass)) (members : CharClass) : CharClass :=
  match pending with
  | none => members
  | some (op, left) =>
    if f.insensitive then op.apply (.folded left) (.folded members) else op.apply left members

/-- Reads a class of ASCII by name, `[:name:]` or `[:^name:]`. -/
def readAsciiClass? (f : Flags) : List Char → Option (CharClass × List Char)
  | '[' :: ':' :: cs =>
    let (negated, cs) := match cs with
      | '^' :: cs => (true, cs)
      | _ => (false, cs)
    let name := cs.takeWhile (· ≠ ':')
    match cs.dropWhile (· ≠ ':') with
    | ':' :: ']' :: rest => do
      let cls ← CharClass.ascii? name
      return (← finish? f negated cls, rest)
    | _ => none
  | _ => none

/-- Reads one element of a class. -/
def readElement (f : Flags) : List Char → Option (Atom × List Char)
  | [] => none
  | '\\' :: cs => readEscape f cs
  | c :: cs => some (.literal c false, cs)

/-- The character at an end of a range. -/
def rangeEnd? (f : Flags) : Atom → Option Char
  | .literal c fromByte =>
    if f.unicode || c.toNat < 0x80 || fromByte then some c else none
  | _ => none

/-- The class of one element that is no range. -/
def elementClass? (f : Flags) : Atom → Option CharClass
  | .literal c fromByte => (rangeEnd? f (.literal c fromByte)).map .single
  | .set cls => some cls
  | .look _ => none

/-- Reads one element or a range of a class. -/
def readMember (f : Flags) (s : List Char) : Option (CharClass × List Char) := do
  let (first, rest) ← readElement f s
  let rest := skip f rest
  match rest with
  | [] => none
  | '-' :: cs =>
    let after := peekAfter f rest
    if after == some ']' || after == some '-' then return (← elementClass? f first, rest)
    else
      let (last, rest) ← readElement f (skip f cs)
      let low ← rangeEnd? f first
      let high ← rangeEnd? f last
      if low.toNat ≤ high.toNat then return (.ranges [(low.toNat, high.toNat)], rest) else none
  | _ => return (← elementClass? f first, rest)

/-- An operator between two parts of a class. -/
def classOperator? : List Char → Option (SetOp × List Char)
  | '&' :: '&' :: rest => some (.inter, rest)
  | '-' :: '-' :: rest => some (.diff, rest)
  | '~' :: '~' :: rest => some (.symmDiff, rest)
  | _ => none

/-- Reads a class up to the bracket that closes the outermost one, giving also how deep it nests. -/
def readClassItems (f : Flags) : Nat → ClassState → Option (CharClass × Nat × List Char)
  | 0, _ => none
  | fuel + 1, st =>
    let s := skip f st.rest
    match s with
    | [] => none
    | ']' :: rest => do
      let cls ← finish? f st.negated (settle f st.pending st.members)
      match st.outer with
      | [] => return (cls, st.depth + 1, rest)
      | frame :: outer =>
        readClassItems f fuel
          ⟨rest, .union frame.members cls, frame.negated, frame.pending,
            max frame.depth (st.depth + 1), outer⟩
    | '[' :: cs =>
      match readAsciiClass? f s with
      | some (cls, rest) =>
        readClassItems f fuel { st with rest := rest, members := .union st.members cls }
      | none => do
        let inner ← openClass f (⟨st.members, st.negated, st.pending, st.depth⟩ :: st.outer) cs
        readClassItems f fuel inner
    | _ =>
      match classOperator? s with
      | some (op, rest) =>
        readClassItems f fuel
          { st with
            rest := rest, members := .none, pending := some (op, settle f st.pending st.members),
            depth := st.depth + 1 }
      | none => do
        let (cls, rest) ← readMember f s
        readClassItems f fuel { st with rest := rest, members := .union st.members cls }

/-! ## Expressions -/

/-- A part of a sequence: an expression with the depth of its nesting, or a directive, which
nothing can repeat. -/
structure Item where
  regex : Regex
  depth : Nat
  directive : Bool

/-- What has been read of an enclosing group. -/
structure Frame where
  items : List Item
  branches : List Item
  flags : Flags

/-- An expression being read: the current sequence and the finished branches before it, both in
reverse, and the enclosing groups. -/
structure State where
  rest : List Char
  flags : Flags
  names : List (List Char)
  items : List Item
  branches : List Item
  frames : List Frame

/-- The expression of a sequence, whose items are given in reverse. -/
def joinItems (items : List Item) : Item :=
  match items with
  | [] => ⟨.empty, 0, false⟩
  | [item] => { item with directive := false }
  | items =>
    ⟨seq ((items.reverse.filter (!·.directive)).map Item.regex),
      items.foldl (fun d i => max d i.depth) 0 + 1, false⟩

/-- The expression of branches, given in reverse. -/
def joinBranches (branches : List Item) : Item :=
  match branches with
  | [] => ⟨.empty, 0, false⟩
  | [item] => item
  | last :: before =>
    ⟨before.foldl (fun r i => .alt i.regex r) last.regex,
      branches.foldl (fun d i => max d i.depth) 0 + 1, false⟩

/-- The expression of a group read to its end. -/
def State.close (st : State) : Item := joinBranches (joinItems st.items :: st.branches)

/-- Whether a character may be part of the name of a group. -/
def isNameChar (first : Bool) (c : Char) : Bool :=
  c == '_' || isAlphabetic c ||
    (!first && (c == '.' || c == '[' || c == ']' || isDecimalDigit c ||
      (CharClass.ranges (categoryRanges "N")).holds c))

/-- Reads the name of a group up to the closing angle. -/
def readName (s : List Char) : Option (List Char × List Char) :=
  let name := s.takeWhile (· ≠ '>')
  match name, s.dropWhile (· ≠ '>') with
  | c :: cs, '>' :: rest =>
    if isNameChar true c && cs.all (isNameChar false) then some (c :: cs, rest) else none
  | _, _ => none

/-- What a parenthesis opens. -/
inductive Opening
  | group (flags : Flags) (name : Option (List Char)) (rest : List Char)
  | directive (flags : Flags) (rest : List Char)

/-- Reads the front of a group behind its parenthesis. Looking around is refused. -/
def readOpening (f : Flags) (s : List Char) : Option Opening :=
  match skip f s with
  | '?' :: 'P' :: '<' :: rest => (readName rest).map fun (n, rest) => .group f (some n) rest
  | '?' :: '=' :: _ => none
  | '?' :: '!' :: _ => none
  | '?' :: '<' :: rest => (readName rest).map fun (n, rest) => .group f (some n) rest
  | '?' :: rest =>
    match f.read [] false rest with
    | some (g, true, _, rest) => some (.group g none rest)
    | some (g, false, true, rest) => some (.directive g rest)
    | _ => none
  | rest => some (.group f none rest)

/-- Reads a decimal number with blanks around it; its bound is that of 32 bits. -/
def readCount (f : Flags) : Nat → (sofar : Option Nat) → List Char → Option (Option Nat × List Char)
  | 0, _, _ => none
  | fuel + 1, n, s =>
    match s with
    | c :: cs =>
      if c.isDigit then
        let m := 10 * n.getD 0 + (c.toNat - '0'.toNat)
        if m ≤ 0xffffffff then readCount f fuel (some m) (skip f cs) else none
      else some (n, (s.dropWhile isBlank))
    | [] => some (n, [])

/-- Reads the counts of a repetition behind the brace: `{n}`, `{n,}` or `{n,m}`. -/
def readCounts (f : Flags) (s : List Char) : Option (Nat × Option Nat × List Char) := do
  let s := (skip f s).dropWhile isBlank
  let (least, rest) ← readCount f (s.length + 1) none s
  let least ← least
  match skip f rest with
  | '\x7d' :: rest => return (least, some least, rest)
  | ',' :: rest =>
    let rest := (skip f rest)
    match rest with
    | '\x7d' :: rest => return (least, none, rest)
    | _ =>
      let rest := rest.dropWhile isBlank
      let (most, rest) ← readCount f (rest.length + 1) none rest
      let most ← most
      match skip f rest with
      | '\x7d' :: rest => if least ≤ most then return (least, some most, rest) else none
      | _ => none
  | _ => none

/-- Repeats the last item of the sequence. A question mark behind makes the repetition lazy. -/
def repeatLast (st : State) (least : Nat) (most : Option Nat) (rest : List Char) : Option State :=
  match st.items with
  | [] => none
  | item :: items =>
    if item.directive then none
    else
      let (lazy, rest) := match rest with
        | '?' :: rest => (true, rest)
        | rest => (false, rest)
      let greedy := lazy == st.flags.swapGreed
      some
        { st with
          rest := rest,
          items := ⟨.rep item.regex least most greedy, item.depth + 1, false⟩ :: items }

/-- The expression of one element outside classes. -/
def atomRegex? (f : Flags) : Atom → Option Regex
  | .literal c fromByte =>
    if literalAllowed f c fromByte then
      some (.chars (if f.insensitive then .folded (.single c) else .single c))
    else none
  | .set cls => some (.chars cls)
  | .look l => some (.look l)

/-- Reads one element that is neither a group nor a class nor a repetition. -/
def readAtom (f : Flags) : List Char → Option (Regex × List Char)
  | [] => none
  | '\\' :: cs => do
    let (atom, rest) ← readEscape f cs
    return (← atomRegex? f atom, rest)
  | '.' :: cs =>
    if !f.unicode then none
    else if f.dotAll then some (.chars (.ranges [(0, 0x10FFFF)]), cs)
    else some (.chars (.allBut (if f.crlf then ['\r', '\n'] else ['\n'])), cs)
  | '^' :: cs =>
    some (.look (if !f.multiline then .textStart else if f.crlf then .crlfLineStart
      else .lineStart), cs)
  | '$' :: cs =>
    some (.look (if !f.multiline then .textEnd else if f.crlf then .crlfLineEnd else .lineEnd), cs)
  | c :: cs => (atomRegex? f (.literal c false)).map fun r => (r, cs)

/-- Takes one construct from the text; at its end the state does not change. -/
def State.step (st : State) : Option State :=
  let s := skip st.flags st.rest
  match s with
  | [] => some { st with rest := [] }
  | '(' :: cs => do
    match ← readOpening st.flags cs with
    | .directive g rest =>
      return { st with rest := rest, flags := g, items := ⟨.empty, 0, true⟩ :: st.items }
    | .group g name rest =>
      let fresh := match name with
        | some n => !st.names.contains n
        | none => true
      if !fresh then none
      else
        return {
          rest := rest, flags := g, names := name.toList ++ st.names, items := [], branches := [],
          frames := ⟨st.items, st.branches, st.flags⟩ :: st.frames }
  | ')' :: cs =>
    match st.frames with
    | [] => none
    | frame :: frames =>
      let inner := st.close
      some
        { st with
          rest := cs, flags := frame.flags, frames := frames, branches := frame.branches,
          items := ⟨inner.regex, inner.depth + 1, false⟩ :: frame.items }
  | '|' :: cs =>
    some { st with rest := cs, items := [], branches := joinItems st.items :: st.branches }
  | '[' :: cs => do
    let opened ← openClass st.flags [] cs
    let (cls, depth, rest) ← readClassItems st.flags (s.length + 1) opened
    return { st with rest := rest, items := ⟨.chars cls, depth, false⟩ :: st.items }
  | '?' :: cs => repeatLast st 0 (some 1) cs
  | '*' :: cs => repeatLast st 0 none cs
  | '+' :: cs => repeatLast st 1 none cs
  | '\x7b' :: cs => do
    let (least, most, rest) ← readCounts st.flags cs
    repeatLast st least most (skip st.flags rest)
  | _ => do
    let (r, rest) ← readAtom st.flags s
    return { st with rest := rest, items := ⟨r, 0, false⟩ :: st.items }

/-- Takes constructs until the text is used up. -/
def State.run : Nat → State → Option State
  | 0, st => if st.rest.isEmpty then some st else none
  | fuel + 1, st => if st.rest.isEmpty then some st else st.step.bind (State.run fuel)

/-- How deep an expression may nest. -/
def depthLimit : Nat := 250

/-- Reads a regular expression. -/
def parse? (s : List Char) : Option Regex := do
  let st ← State.run s.length ⟨s, {}, [], [], [], []⟩
  if !st.frames.isEmpty then none
  else
    let item := st.close
    if item.depth ≤ depthLimit ∧ item.regex.room ≤ roomLimit then return item.regex else none

end Regex

end TopicBridge
