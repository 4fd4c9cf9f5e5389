import TopicBridge.Regex.Grammar
import TopicBridge.Regex.Search

/-! # Validators

A validator accepts the texts that start with a match of its rule, so `temp` accepts
`temperature`, and `temp$` only `temp`. The rule is set between `^(?:` and `)` as text.
-/

namespace TopicBridge

/-- A rule for a captured level. -/
structure Validator where
  rule : String
  expr : Regex
  deriving DecidableEq, Repr

namespace Validator

/-- The expression whose match a validator asks for. -/
def anchored (rule : List Char) : List Char := "^(?:".toList ++ rule ++ [')']

/-- The validator with a rule, if the rule is well formed. -/
def ofRule? (rule : String) : Option Validator :=
  (Regex.parse? (anchored rule.toList)).map (⟨rule, ·⟩)

/-- Whether a validator accepts a text. -/
def accepts (v : Validator) (text : String) : Bool := v.expr.isMatch text.toList

end Validator

end TopicBridge
