import TopicBridge.Proofs.Payload.Faults
import TopicBridge.Proofs.Record.Steps
import TopicBridge.Proofs.Table

/-! # The steps of a rule

The record of a rule is written in steps: parts of the payload, the payload, the values that are the
same for every record, and the captures in order. What a step writes, or why it cannot be taken,
hangs on nothing that was written before it. -/

namespace TopicBridge

theorem Record.setField_setField (r : Record) (key : String) (v w : Value) :
    (r.setField key v).setField key w = r.setField key w := by
  rw [setField, setField, setField, Table.insert_insert]

theorem Record.setTag_setTag (r : Record) (key s t : String) :
    (r.setTag key s).setTag key t = r.setTag key t := by
  rw [setTag, setTag, setTag, Table.insert_insert]

/-! ## Captures -/

namespace TokenUse

/-- The text that a capture is taken as: what the table has for it or, where the table is not in use,
the captured text if it is asked for. -/
def textOf (table : TextMap) (asked : Bool) (entries : Table String) (token text : String) :
    Option (Except RecordFault String) :=
  if entries.isEmpty then if asked then some (.ok text) else none
  else
    match entries.get? text with
    | some mapped => some (.ok mapped)
    | none => some (.error (.unmapped table token text))

def fieldEntry (u : TokenUse) (token text : String) :
    Option (String × Except RecordFault Value) :=
  (textOf .field u.isField u.fieldMap token text).map fun t => (u.fieldKey token, t.map .text)

def tagEntry (u : TokenUse) (token text : String) : Option (String × Except RecordFault String) :=
  (textOf .tag u.isTag u.tagMap token text).map fun t => (u.tagKey token, t)

def steps (u : TokenUse) (token text : String) : List Step :=
  ((u.fieldEntry token text).map fun (key, value) => Step.field key value).toList ++
    ((u.tagEntry token text).map fun (key, t) => Step.tag key t).toList ++
      if u.isMeasurement then [.measurement text] else []

theorem textOf_eq (table : TextMap) (asked : Bool) (entries : Table String) (token text : String) :
    textOf table asked entries token text =
      match mapText table entries token text with
      | .ok (some mapped) => some (.ok mapped)
      | .ok none => if asked then some (.ok text) else none
      | .error cause => some (.error cause) := by
  rw [textOf, mapText]
  split
  · rfl
  · cases entries.get? text <;> rfl

/-- A text that is written and then replaced by what it is mapped to is written once. -/
theorem run_textOf (step : Except RecordFault String → Step) (put : Record → String → Record)
    (hok : ∀ r s, (step (.ok s)).perform r = .ok (put r s))
    (herror : ∀ r cause, (step (.error cause)).perform r = .error cause)
    (hput : ∀ r s t, put (put r s) t = put r t) (table : TextMap) (asked : Bool)
    (entries : Table String) (token text : String) (r : Record) :
    Step.run ((textOf table asked entries token text).map step).toList r =
      (mapText table entries token text).map fun mapped =>
        let r := if asked then put r text else r
        match mapped with
        | some mapped => put r mapped
        | none => r := by
  rw [textOf_eq]
  cases mapText table entries token text with
  | error cause => simp [Step.run_cons, herror, bind, Except.bind, Except.map]
  | ok mapped =>
      cases mapped with
      | some mapped => cases asked <;> simp [Step.run, hok, hput, Except.map]
      | none =>
          cases asked
          · rfl
          · simp [Step.run, hok, Except.map]

theorem steps_eq (u : TokenUse) (token text : String) :
    u.steps token text =
      ((textOf .field u.isField u.fieldMap token text).map
          fun t => .field (u.fieldKey token) (t.map .text)).toList ++
        ((textOf .tag u.isTag u.tagMap token text).map (.tag (u.tagKey token))).toList ++
          if u.isMeasurement then [.measurement text] else [] := by
  rw [steps, fieldEntry, tagEntry, Option.map_map, Option.map_map]
  rfl

theorem run_steps (u : TokenUse) (token text : String) (r : Record) :
    Step.run (u.steps token text) r = u.apply token text r := by
  have hfield := run_textOf (fun t => .field (u.fieldKey token) (t.map .text))
    (fun r s => r.setField (u.fieldKey token) (.text s)) (fun r s => rfl) (fun r cause => rfl)
    (fun r s t => r.setField_setField _ _ _) .field u.isField u.fieldMap token text
  have htag := run_textOf (.tag (u.tagKey token)) (fun r s => r.setTag (u.tagKey token) s)
    (fun r s => rfl) (fun r cause => rfl) (fun r s t => r.setTag_setTag _ _ _) .tag u.isTag u.tagMap
    token text
  -- The field is written before the tag, and fails first if both do.
  rw [steps_eq, Step.run_append, Step.run_append, hfield, apply]
  cases mapText .field u.fieldMap token text with
  | error cause => rfl
  | ok mapped =>
      simp only [Except.map, bind, Except.bind, htag]
      cases mapText .tag u.tagMap token text with
      | error cause => rfl
      | ok t => cases u.isMeasurement <;> rfl

end TokenUse

/-! ## Payloads -/

namespace PayloadUse

theorem isUsed_of_isField {u : PayloadUse} (h : u.isField) : u.isUsed := by
  simp [isUsed, h]

theorem isUsed_of_mem {u : PayloadUse} {x : Extraction} (h : x ∈ u.extractions) : u.isUsed := by
  have hne : u.extractions ≠ [] := List.ne_nil_of_mem h
  simp [isUsed, hne]

/-- What the parts of a text put into the fields, if it is a document. -/
def partFields (u : PayloadUse) (raw : String) : List (String × Except RecordFault Value) :=
  match Json.parse? raw with
  | some document =>
    u.extractions.map fun x => (x.field, RecordFault.ofConversion (x.valueIn document))
  | none => []

/-- What a text as a whole puts into the fields. -/
def wholeFields (u : PayloadUse) (raw : String) : List (String × Except RecordFault Value) :=
  if u.isField then [(u.name, RecordFault.ofConversion (Payload.convert raw u.kind u.path))]
  else []

def steps (u : PayloadUse) (bytes : List UInt8) : List Step :=
  match Text.Utf8.decode? bytes with
  | some raw => (u.partFields raw ++ u.wholeFields raw).map fun (key, value) => .field key value
  | none => [.halt (.conversion .notText)]

theorem run_parts (document : Json) (xs : List Extraction) (r : Record) :
    Step.run (xs.map fun x => .field x.field (RecordFault.ofConversion (x.valueIn document))) r =
      RecordFault.ofConversion (xs.foldlM (takePart document) r) := by
  induction xs generalizing r with
  | nil => rfl
  | cons x xs ih =>
      rw [List.map_cons, Step.run_cons, List.foldlM_cons, takePart, Extraction.valueIn]
      cases Payload.readKind x.kind with
      | error cause => rfl
      | ok kind =>
          simp only [bind, Except.bind, Step.perform]
          cases Payload.extract document x.path kind with
          | error cause => rfl
          | ok v => exact ih (r.setField x.field v)

/-- Without parts it makes no difference whether a text is a document. -/
theorem takeParts_eq (u : PayloadUse) (raw : String) (r : Record) :
    takeParts u raw r =
      match Json.parse? raw with
      | some document => u.extractions.foldlM (takePart document) r
      | none => .ok r := by
  rw [takeParts]
  split
  · next hnil =>
      rw [List.isEmpty_iff.mp hnil]
      cases Json.parse? raw <;> rfl
  · rfl

theorem run_partFields (u : PayloadUse) (raw : String) (r : Record) :
    Step.run ((u.partFields raw).map fun (key, value) => .field key value) r =
      RecordFault.ofConversion (takeParts u raw r) := by
  rw [partFields, takeParts_eq]
  cases Json.parse? raw with
  | none => rfl
  | some document =>
      simp only [List.map_map, Function.comp_def]
      exact run_parts document u.extractions r

theorem run_wholeFields (u : PayloadUse) (raw : String) (r : Record) :
    Step.run ((u.wholeFields raw).map fun (key, value) => .field key value) r =
      RecordFault.ofConversion (takeWhole u raw r) := by
  rw [wholeFields, takeWhole]
  split
  · cases Payload.convert raw u.kind u.path <;> rfl
  · rfl

theorem run_steps (u : PayloadUse) (bytes : List UInt8) (r : Record) :
    Step.run (u.steps bytes) r = RecordFault.ofConversion (u.apply bytes r) := by
  rw [steps, apply, Payload.decode]
  cases Text.Utf8.decode? bytes with
  | none => rfl
  | some raw =>
      simp only [List.map_append, Step.run_append, run_partFields, bind, Except.bind]
      cases takeParts u raw r with
      | error cause => rfl
      | ok next => exact u.run_wholeFields raw next

end PayloadUse

/-! ## Rules -/

namespace Rule

/-- What a rule does with payloads, if anything. -/
def usedPayload? (rule : Rule) : Option PayloadUse := rule.payload.filter PayloadUse.isUsed

theorem usedPayload?_eq_some_iff (rule : Rule) (u : PayloadUse) :
    rule.usedPayload? = some u ↔ rule.payload = some u ∧ u.isUsed := by
  rw [usedPayload?, Option.filter_eq_some_iff]

def payloadSteps (rule : Rule) (payload : List UInt8) : List Step :=
  match rule.usedPayload? with
  | some u => u.steps payload
  | none => []

/-- The steps that are the same for every record of a rule. -/
def staticSteps (rule : Rule) : List Step :=
  rule.fields.entries.map (fun (key, v) => .field key (.ok v)) ++
    rule.tags.entries.map (fun (key, text) => .tag key (.ok text)) ++
      rule.measurement.toList.map .measurement

def captureSteps (rule : Rule) (entry : String × Capture) : List Step :=
  match rule.tokens.get? entry.1 with
  | some u => u.steps entry.1 entry.2.text
  | none => []

def steps (rule : Rule) (payload : List UInt8) (captures : Captures) : List Step :=
  rule.payloadSteps payload ++ rule.staticSteps ++ captures.entries.flatMap rule.captureSteps

theorem run_payloadSteps (rule : Rule) (payload : List UInt8) (r : Record) :
    Step.run (rule.payloadSteps payload) r = rule.applyPayload payload r := by
  rw [payloadSteps, usedPayload?, applyPayload]
  cases rule.payload with
  | none => rfl
  | some u =>
      rw [Option.filter_some]
      by_cases hu : u.isUsed = true
      · simp only [if_pos hu]
        exact u.run_steps payload r
      · simp only [if_neg hu]
        rfl

theorem run_staticSteps (rule : Rule) (r : Record) :
    Step.run rule.staticSteps r = .ok (rule.applyStatic r) := by
  have hfields := Step.run_map (fun (key, v) => .field key (.ok v))
    (fun r (key, v) => r.setField key v) (fun _ _ => rfl) rule.fields.entries
  have htags := Step.run_map (fun (key, text) => .tag key (.ok text))
    (fun r (key, text) => r.setTag key text) (fun _ _ => rfl) rule.tags.entries
  have hset : ∀ r : Record, rule.fields.entries.foldl (fun r (key, v) => r.setField key v) r =
      { r with fields := r.fields.insertAll rule.fields.entries } := fun r =>
    List.foldl_hom (fun t => { r with fields := t }) fun _ _ => rfl
  have hmark : ∀ r : Record, rule.tags.entries.foldl (fun r (key, text) => r.setTag key text) r =
      { r with tags := r.tags.insertAll rule.tags.entries } := fun r =>
    List.foldl_hom (fun t => { r with tags := t }) fun _ _ => rfl
  rw [staticSteps, Step.run_append, Step.run_append, hfields, hset]
  simp only [bind, Except.bind, htags, hmark, applyStatic]
  cases rule.measurement <;> rfl

theorem run_captureSteps (rule : Rule) (r : Record) (entry : String × Capture) :
    Step.run (rule.captureSteps entry) r = rule.applyCapture r entry := by
  rw [captureSteps, applyCapture]
  cases rule.tokens.get? entry.1 with
  | none => rfl
  | some u => exact u.run_steps entry.1 entry.2.text r

theorem run_captures (rule : Rule) (entries : List (String × Capture)) (r : Record) :
    Step.run (entries.flatMap rule.captureSteps) r = entries.foldlM rule.applyCapture r := by
  induction entries generalizing r with
  | nil => rfl
  | cons entry entries ih =>
      rw [List.flatMap_cons, Step.run_append, run_captureSteps, List.foldlM_cons]
      exact congrArg (rule.applyCapture r entry >>= ·) (funext ih)

/-- A record is what its steps come to. -/
theorem record_eq_run (rule : Rule) (payload : List UInt8) (captures : Captures) :
    rule.record payload captures = Step.run (rule.steps payload captures) .empty := by
  rw [steps, Step.run_append, Step.run_append, run_payloadSteps, record]
  cases rule.applyPayload payload .empty with
  | error cause => rfl
  | ok r =>
      simp only [bind, Except.bind, run_staticSteps]
      exact (rule.run_captures captures.entries _).symm

end Rule
end TopicBridge
