import TopicBridge.Table
import TopicBridge.Topic.Captures
import TopicBridge.Topic.Filter
import TopicBridge.Topic.Validator

/-! # Topic patterns

A pattern is a topic whose levels are literals, single wildcards `+name` or multi wildcards
`#name`. It is matched as one regular expression over the whole topic, with a group for each
wildcard. The named wildcards become captures, and validators may veto single ones.
-/

namespace TopicBridge

/-- One level of a pattern. -/
inductive Token
  | literal (text : String)
  | single (name : String)
  | multi (name : String)
  deriving DecidableEq, Repr

namespace Token

/-- The token that a level writes. -/
def ofLevel : Level → Token
  | '+' :: name => single (String.ofList name)
  | '#' :: name => multi (String.ofList name)
  | text => literal (String.ofList text)

/-- The name of a capture; a wildcard without name has none. -/
def name? : Token → Option String
  | literal _ => none
  | single name => if name.isEmpty then none else some name
  | multi name => if name.isEmpty then none else some name

/-- Whether a token is a wildcard, which owns a group of the expression. -/
def isWildcard : Token → Bool
  | literal _ => false
  | _ => true

/-- The level that stands for a token in a subscription filter. -/
def normalized : Token → String
  | literal text => text
  | single _ => "+"
  | multi _ => "#"

/-- A character that a wildcard takes. -/
def levelChar : Regex := .chars (.allBut ['/', '#', '+'])

/-- The character between levels. -/
def slash : Regex := .chars (.single '/')

/-- The expression of a token. At the end of a pattern the slash behind a level may be missing. -/
def expr (group : Nat) (atEnd : Bool) : Token → Regex
  | literal text => .cat (.literal text.toList) (close atEnd)
  | single _ => .group group (.cat (.plus levelChar) (close atEnd))
  | multi _ => .group group (.star (.cat (.plus levelChar) (close atEnd)))
where
  /-- The slash behind a level. -/
  close (atEnd : Bool) : Regex := if atEnd then .opt slash else slash

/-- Whether the tokens behind a token leave it at the end: none, or one last multi wildcard. -/
def endsAt : List Token → Bool
  | [] => true
  | [multi _] => true
  | _ => false

/-- The expression of tokens up to the end of the topic, numbering groups from `group` on. -/
def exprFrom (group : Nat) : List Token → Regex
  | [] => .look .textEnd
  | t :: ts =>
    .cat (t.expr group (endsAt ts)) (exprFrom (if t.isWildcard then group + 1 else group) ts)

/-- The expression of a pattern. -/
def matcher (tokens : List Token) : Regex := .cat (.look .textStart) (exprFrom 1 tokens)

end Token

/-- Why a pattern cannot be used. -/
inductive PatternFault
  /-- The expression of the pattern is too large. -/
  | tooLarge (pattern : String)
  /-- The rule of a token is no regular expression. -/
  | invalidRule (token rule : String)
  deriving DecidableEq, Repr

/-- A pattern with validators by capture name; the latest one of a name counts. -/
structure Pattern where
  topic : String
  tokens : List Token
  validators : Table Validator
  deriving DecidableEq, Repr

/-- What a topic gives: captures, or the veto of a validator. -/
inductive Reading
  | captured (captures : Captures)
  | rejected (token value rule : String)
  deriving DecidableEq, Repr

namespace Pattern

/-- Compiles a pattern. -/
def compile (topic : String) : Except PatternFault Pattern :=
  let tokens := (levels topic).map Token.ofLevel
  if (Token.matcher tokens).room ≤ Regex.roomLimit then .ok ⟨topic, tokens, .empty⟩
  else .error (.tooLarge topic)

/-- The subscription filter of a pattern: its levels without the names of the wildcards. -/
def normalized (p : Pattern) : String := Text.joined '/' (p.tokens.map Token.normalized)

/-- The names of the named wildcards in order. -/
def names (p : Pattern) : List String := p.tokens.filterMap Token.name?

/-- The validator registered for a name. -/
def validator? (p : Pattern) (name : String) : Option Validator := p.validators.get? name

/-- Registers a validator for a name in place of an earlier one. -/
def addValidator (p : Pattern) (name rule : String) : Except PatternFault Pattern :=
  match Validator.ofRule? rule with
  | none => .error (.invalidRule name rule)
  | some v => .ok { p with validators := p.validators.insert name v }

/-- Removes all validators. -/
def clearValidators (p : Pattern) : Pattern := { p with validators := .empty }

/-- Whether a topic matches, whatever the validators say. -/
def isMatch (p : Pattern) (topic : String) : Bool := (Token.matcher p.tokens).isMatch topic.toList

/-- The levels that the group of a multi wildcard holds; a slash at its end adds none. -/
def levelsOfGroup (group : List Char) : List Level :=
  let parts := Text.split '/' group
  if parts.getLast? = some [] then parts.dropLast else parts

/-- A group without a slash at its end. -/
def dropSlash (group : List Char) : List Char :=
  if group.getLast? = some '/' then group.dropLast else group

/-- Gathers captures from the groups of a match, numbered from `group` on. -/
def gather (p : Pattern) (topic : List Char) (found : Regex.Found) :
    (group : Nat) → Captures → List Token → Reading
  | _, acc, [] => .captured acc
  | n, acc, .literal _ :: ts => gather p topic found n acc ts
  | n, acc, .multi name :: ts =>
    if name.isEmpty then gather p topic found (n + 1) acc ts
    else
      let group := (found.group? topic n).getD []
      let value := Capture.multi ((levelsOfGroup group).map String.ofList)
      gather p topic found (n + 1) (acc.insert name value) ts
  | n, acc, .single name :: ts =>
    if name.isEmpty then gather p topic found (n + 1) acc ts
    else
      let value := String.ofList (dropSlash ((found.group? topic n).getD []))
      match p.validator? name with
      | some v =>
        if v.accepts value then gather p topic found (n + 1) (acc.insert name (.single value)) ts
        else .rejected name value v.rule
      | none => gather p topic found (n + 1) (acc.insert name (.single value)) ts

/-- Reads a topic. One that does not match gives no captures. -/
def parse (p : Pattern) (topic : String) : Reading :=
  match (Token.matcher p.tokens).search topic.toList with
  | none => .captured .empty
  | some found => gather p topic.toList found 1 .empty p.tokens

end Pattern

end TopicBridge
