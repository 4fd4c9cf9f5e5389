import Mathlib.Data.List.Basic
import TopicBridge.Proofs.Rule.Steps

/-! # The last writer of a key

Parts of the payload, the payload, the values that are the same for every record and the captures
put values under keys, in this order. The record of a rule holds the last value of each key, and
nothing under a key that nothing was put under. -/

namespace TopicBridge

namespace Rule

/-! ## Writers -/

/-- What a payload puts into the fields: its parts in order, then the payload itself. -/
def payloadFields (rule : Rule) (payload : List UInt8) :
    List (String × Except RecordFault Value) :=
  match rule.usedPayload?, Text.Utf8.decode? payload with
  | some u, some raw => u.partFields raw ++ u.wholeFields raw
  | _, _ => []

def captureField? (rule : Rule) : String × Capture → Option (String × Except RecordFault Value)
  | (name, c) => (rule.tokens.get? name).bind fun u => u.fieldEntry name c.text

/-- What is put into the fields after the payload. -/
def laterFields (rule : Rule) (captures : Captures) : List (String × Except RecordFault Value) :=
  rule.fields.entries.map (fun (key, v) => (key, .ok v)) ++
    captures.entries.filterMap rule.captureField?

def fieldWrites (rule : Rule) (payload : List UInt8) (captures : Captures) :
    List (String × Except RecordFault Value) :=
  rule.payloadFields payload ++ rule.laterFields captures

end Rule

/-! ## What steps write -/

namespace TokenUse

theorem filterMap_field?_steps (u : TokenUse) (token text : String) :
    (u.steps token text).filterMap Step.field? = (u.fieldEntry token text).toList := by
  rw [steps]
  cases u.fieldEntry token text <;> cases u.tagEntry token text <;> cases u.isMeasurement <;> rfl

end TokenUse

namespace Rule

theorem filterMap_field?_payloadSteps (rule : Rule) (payload : List UInt8) :
    (rule.payloadSteps payload).filterMap Step.field? = rule.payloadFields payload := by
  rw [payloadSteps, payloadFields]
  cases rule.usedPayload? with
  | none => rfl
  | some u =>
      simp only [PayloadUse.steps]
      cases Text.Utf8.decode? payload with
      | none => rfl
      | some raw =>
          rw [List.filterMap_map]
          exact List.filterMap_some

theorem filterMap_captures {α : Type} (rule : Rule) {f : Step → Option α}
    {g : TokenUse → String → String → Option α}
    (h : ∀ u token text, (TokenUse.steps u token text).filterMap f = (g u token text).toList)
    (entries : List (String × Capture)) :
    (entries.flatMap rule.captureSteps).filterMap f =
      entries.filterMap fun (name, c) => (rule.tokens.get? name).bind fun u => g u name c.text := by
  rw [List.filterMap_flatMap, List.filterMap_eq_flatMap_toList]
  apply List.flatMap_congr
  rintro ⟨name, c⟩ -
  simp only [captureSteps]
  cases rule.tokens.get? name with
  | none => rfl
  | some u => exact h u name c.text

theorem filterMap_field?_steps (rule : Rule) (payload : List UInt8) (captures : Captures) :
    (rule.steps payload captures).filterMap Step.field? = rule.fieldWrites payload captures := by
  have hstatic : rule.staticSteps.filterMap Step.field? =
      rule.fields.entries.map fun (key, v) => (key, .ok v) := by
    simp [staticSteps, Step.field?, Function.comp_def]
  rw [steps, List.filterMap_append, List.filterMap_append, filterMap_field?_payloadSteps, hstatic,
    rule.filterMap_captures TokenUse.filterMap_field?_steps, fieldWrites, laterFields,
    List.append_assoc]
  rfl

end Rule
end TopicBridge
