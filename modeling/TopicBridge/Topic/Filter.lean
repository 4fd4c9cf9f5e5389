import TopicBridge.Text.Split

/-! # Subscription filters

A topic is a text of levels with `/` between them. A filter is a topic in which `+` stands for any
one level and a final `#` for any number of levels, none included. Topics that start with `$` are
out of reach of a wildcard in the first level.
-/

namespace TopicBridge

/-- One level of a topic. -/
abbrev Level := List Char

/-- The levels of a topic; even the empty topic has one. -/
def levels (topic : String) : List Level := Text.split '/' topic.toList

namespace Filter

/-- Whether a level is a wildcard or holds no wildcard character. -/
def plainOrSingle (l : Level) : Bool :=
  l == ['+'] || (!l.contains '+' && !l.contains '#')

/-- Whether wildcards stand only where they may: `#` as the last level, `+` as a whole level. -/
def validLevels : List Level → Bool
  | [] => true
  | [l] => l == ['#'] || plainOrSingle l
  | l :: ls => plainOrSingle l && validLevels ls

/-- Whether a text may be subscribed to. -/
def isValid (filter : String) : Bool :=
  !filter.isEmpty && validLevels (levels filter)

/-- Walks through the levels of a filter and of a topic side by side. -/
def walk : (filter topic : List Level) → Bool
  | [], topic => topic.isEmpty
  | l :: ls, topic =>
    if l = ['#'] then true
    else
      match topic with
      | [] => false
      | t :: ts => (l == ['+'] || l == t) && walk ls ts

/-- Whether a topic is hidden from a filter: it starts with `$` and the filter with a wildcard. -/
def hides (filter topic : List Char) : Bool :=
  topic.head? == some '$' && (filter.head? == some '+' || filter.head? == some '#')

/-- Whether a filter selects a topic. A filter that may not be subscribed to selects none. -/
def selects (filter topic : String) : Bool :=
  isValid filter && !hides filter.toList topic.toList &&
    (filter == topic || filter == "#" || walk (levels filter) (levels topic))

end Filter

end TopicBridge
