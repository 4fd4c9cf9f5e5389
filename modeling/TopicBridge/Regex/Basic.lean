import TopicBridge.Regex.CharClass

/-! # Regular expressions

A regular expression matches pieces of a text. Alternatives are ordered: of two ways to match, the
one that an earlier branch gives is preferred, a greedy repetition prefers one more round, and a
lazy one prefers to stop. A mark matches nothing and records where it stands.

`heads` takes an expression apart at a place in the text: the ways to go on, in order of
preference, are to be done or to consume one character of a class and continue with a rest.
-/

namespace TopicBridge

open Unicode

/-- A condition on a place in a text. -/
inductive Look
  | textStart
  | textEnd
  | lineStart
  | lineEnd
  /-- Line borders where a carriage return, a line feed, or both in this order end a line. -/
  | crlfLineStart
  | crlfLineEnd
  | wordBorder (unicode : Bool)
  | noWordBorder (unicode : Bool)
  | wordStart (unicode : Bool)
  | wordEnd (unicode : Bool)
  /-- No word character in front. -/
  | wordStartHalf (unicode : Bool)
  /-- No word character behind. -/
  | wordEndHalf (unicode : Bool)
  deriving DecidableEq, Repr

namespace Look

/-- Whether a neighbour is a word character: of any script, or of ASCII. -/
def isWord (unicode : Bool) : Option Char → Bool
  | none => false
  | some c => if unicode then isWordChar c else c.isAlphanum || c == '_'

/-- Whether a condition holds between two neighbours; the ends of the text have none. -/
def holds (prev next : Option Char) : Look → Bool
  | textStart => prev.isNone
  | textEnd => next.isNone
  | lineStart => prev.isNone || prev == some '\n'
  | lineEnd => next.isNone || next == some '\n'
  | crlfLineStart => prev.isNone || prev == some '\n' || (prev == some '\r' && next != some '\n')
  | crlfLineEnd => next.isNone || next == some '\r' || (next == some '\n' && prev != some '\r')
  | wordBorder u => isWord u prev != isWord u next
  | noWordBorder u => isWord u prev == isWord u next
  | wordStart u => !isWord u prev && isWord u next
  | wordEnd u => isWord u prev && !isWord u next
  | wordStartHalf u => !isWord u prev
  | wordEndHalf u => !isWord u next

end Look

/-- A regular expression. -/
inductive Regex
  | empty
  | chars (cls : CharClass)
  | look (condition : Look)
  | mark (slot : Nat)
  | cat (a b : Regex)
  | alt (a b : Regex)
  /-- Between `least` and `most` rounds of the body. -/
  | rep (body : Regex) (least : Nat) (most : Option Nat) (greedy : Bool)
  deriving DecidableEq, Repr

namespace Regex

/-- A way to go on, after the marks passed on the way. -/
inductive Head
  | done (marks : List Nat)
  | step (marks : List Nat) (cls : CharClass) (rest : Regex)
  deriving DecidableEq, Repr

namespace Head

/-- The way with marks passed before it. -/
def after (marks : List Nat) : Head → Head
  | done ms => done (marks ++ ms)
  | step ms cls rest => step (marks ++ ms) cls rest

/-- The ways through an expression and then through one whose ways are `next`. -/
def andThen (next : List Head) (tail : Regex) : Head → List Head
  | done ms => next.map (after ms)
  | step ms cls rest => [step ms cls (cat rest tail)]

end Head

/-- The ways to start a repetition, given the ways through its body. A round that consumes nothing
counts; once enough rounds are made, it ends the repetition. -/
def repHeads (ways : List Head) (body : Regex) (greedy : Bool) : Nat → Option Nat → List Head
  | _, some 0 => [.done []]
  | 0, most =>
    let again := ways.map fun
      | .done ms => .done ms
      | .step ms cls rest => .step ms cls (cat rest (rep body 0 (most.map (· - 1)) greedy))
    if greedy then again ++ [.done []] else .done [] :: again
  | least + 1, most =>
    ways.flatMap (Head.andThen (repHeads ways body greedy least (most.map (· - 1)))
      (rep body least (most.map (· - 1)) greedy))

/-- The ways to go on between two neighbours, the preferred one first. -/
def heads (prev next : Option Char) : Regex → List Head
  | empty => [.done []]
  | chars cls => [.step [] cls empty]
  | look condition => if condition.holds prev next then [.done []] else []
  | mark slot => [.done [slot]]
  | cat a b => (heads prev next a).flatMap (Head.andThen (heads prev next b) b)
  | alt a b => heads prev next a ++ heads prev next b
  | rep body least most greedy => repHeads (heads prev next body) body greedy least most

/-! ## Common expressions -/

/-- The expressions one after the other. -/
def seq : List Regex → Regex
  | [] => empty
  | [r] => r
  | r :: rs => cat r (seq rs)

/-- Exactly the given text. -/
def literal (s : List Char) : Regex := seq (s.map fun c => chars (.single c))

/-- One round or none, preferring one. -/
def opt (r : Regex) : Regex := rep r 0 (some 1) true

/-- One round or more, as many as possible. -/
def plus (r : Regex) : Regex := rep r 1 none true

/-- Any number of rounds, as many as possible. -/
def star (r : Regex) : Regex := rep r 0 none true

/-- The expression with a mark at either end: group `index` of a match. -/
def group (index : Nat) (r : Regex) : Regex :=
  cat (mark (2 * index)) (cat r (mark (2 * index + 1)))

/-! ## Size -/

/-- An estimate of the room that the states for one class take: characters beyond ASCII are read
byte by byte, in up to four steps. -/
def classRoom (cls : CharClass) : Nat :=
  if cls.holdsCode 0x10FFFF || 8 < cls.rangeCount then 450 + 60 * cls.rangeCount
  else 24 + 8 * cls.rangeCount

/-- An estimate of the room that an expression takes as a machine, with counted repetitions written
out. -/
def room : Regex → Nat
  | empty => 8
  | chars cls => classRoom cls
  | look _ => 24
  | mark _ => 24
  | cat a b => room a + room b
  | alt a b => room a + room b + 32
  | rep body least most _ =>
    match most with
    | none => room body * max least 1 + 32
    | some most => (room body + 32) * most

/-- The room that an expression may take. -/
def roomLimit : Nat := 10 * 1024 * 1024

end Regex

end TopicBridge
