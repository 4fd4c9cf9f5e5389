import TopicBridge.Proofs.Rule.Writers

/-! # Why there is no record

Each part of a payload, the payload as a whole and each table of a captured token can be what a
record fails for, whatever became of the others. A record fails for the first of them, and there is
a record if there is none. -/

namespace TopicBridge

/-! ## Faults by themselves -/

/-- The faults of the parts of a text; a text that is no document has none. -/
def PayloadUse.partFaults (u : PayloadUse) (raw : String) : List ConversionFault :=
  match Json.parse? raw with
  | some document => u.extractions.filterMap fun x => faultOf? (x.valueIn document)
  | none => []

/-- The fault of a text as a whole, if it is converted. -/
def PayloadUse.wholeFaults (u : PayloadUse) (raw : String) : List ConversionFault :=
  if u.isField then (faultOf? (Payload.convert raw u.kind u.path)).toList else []

def PayloadUse.faults (u : PayloadUse) (bytes : List UInt8) : List ConversionFault :=
  match Text.Utf8.decode? bytes with
  | some raw => u.partFaults raw ++ u.wholeFaults raw
  | none => [.notText]

/-- A table that is in use lacks a text. -/
def TokenUse.lacks (entries : Table String) (text : String) : Bool :=
  !entries.isEmpty && (entries.get? text).isNone

def TokenUse.faults (u : TokenUse) (token text : String) : List RecordFault :=
  (if lacks u.fieldMap text then [.unmapped .field token text] else []) ++
    if lacks u.tagMap text then [.unmapped .tag token text] else []

namespace Rule

/-- The faults of a payload at a rule, which has none if it is not used. -/
def payloadFaults (rule : Rule) (payload : List UInt8) : List RecordFault :=
  match rule.usedPayload? with
  | some u => (u.faults payload).map .conversion
  | none => []

def captureFaults (rule : Rule) : String × Capture → List RecordFault
  | (name, c) =>
    match rule.tokens.get? name with
    | some u => u.faults name c.text
    | none => []

/-- All faults, in the order in which they are met. -/
def faults (rule : Rule) (payload : List UInt8) (captures : Captures) : List RecordFault :=
  rule.payloadFaults payload ++ captures.entries.flatMap rule.captureFaults

end Rule

/-! ## Faults of steps -/

theorem faultOf?_ofConversion {α : Type} (x : Except ConversionFault α) :
    faultOf? (RecordFault.ofConversion x) = (faultOf? x).map .conversion := by
  cases x <;> rfl

theorem faultOf?_map {ε α β : Type} (f : α → β) (x : Except ε α) :
    faultOf? (x.map f) = faultOf? x := by
  cases x <;> rfl

theorem faultOf?_eq_some_iff {ε α : Type} (x : Except ε α) (cause : ε) :
    faultOf? x = some cause ↔ x = .error cause := by
  cases x <;> simp [faultOf?]

theorem PayloadUse.filterMap_fault?_steps (u : PayloadUse) (bytes : List UInt8) :
    (u.steps bytes).filterMap Step.fault? = (u.faults bytes).map .conversion := by
  rw [steps, faults]
  cases Text.Utf8.decode? bytes with
  | none => rfl
  | some raw =>
      simp only [List.map_append, List.filterMap_append, partFields, partFaults, wholeFields,
        wholeFaults]
      congr 1
      · cases Json.parse? raw with
        | none => rfl
        | some document =>
            simp [List.map_filterMap, Function.comp_def, Step.fault?, faultOf?_ofConversion]
      · split
        · simp only [List.map_cons, List.map_nil, List.filterMap_cons, Step.fault?,
            faultOf?_ofConversion]
          cases faultOf? (Payload.convert raw u.kind u.path) <;> rfl
        · rfl

namespace TokenUse

/-- A step for a captured text fails if and only if its table lacks the text. -/
theorem filterMap_textOf (step : Except RecordFault String → Step)
    (hstep : ∀ t, (step t).fault? = faultOf? t) (table : TextMap) (asked : Bool)
    (entries : Table String) (token text : String) :
    ((textOf table asked entries token text).map step).toList.filterMap Step.fault? =
      if lacks entries text then [.unmapped table token text] else [] := by
  rw [textOf, lacks]
  cases entries.isEmpty with
  | true => cases asked <;> simp [hstep, faultOf?]
  | false => cases entries.get? text <;> simp [hstep, faultOf?]

theorem filterMap_fault?_steps (u : TokenUse) (token text : String) :
    (u.steps token text).filterMap Step.fault? = u.faults token text := by
  have hfield := filterMap_textOf (fun t => .field (u.fieldKey token) (t.map .text))
    (faultOf?_map Value.text) .field u.isField u.fieldMap token text
  have htag := filterMap_textOf (.tag (u.tagKey token)) (fun t => rfl) .tag u.isTag u.tagMap
    token text
  have hmeasurement :
      (if u.isMeasurement then [Step.measurement text] else []).filterMap Step.fault? = [] := by
    split <;> rfl
  rw [steps_eq, List.filterMap_append, List.filterMap_append, hfield, htag, hmeasurement,
    List.append_nil, faults]

end TokenUse

namespace Rule

theorem filterMap_fault?_payloadSteps (rule : Rule) (payload : List UInt8) :
    (rule.payloadSteps payload).filterMap Step.fault? = rule.payloadFaults payload := by
  rw [payloadSteps, payloadFaults]
  cases rule.usedPayload? with
  | none => rfl
  | some u => exact u.filterMap_fault?_steps payload

theorem filterMap_fault?_steps (rule : Rule) (payload : List UInt8) (captures : Captures) :
    (rule.steps payload captures).filterMap Step.fault? = rule.faults payload captures := by
  have hstatic : rule.staticSteps.filterMap Step.fault? = [] := by
    simp [staticSteps, Step.fault?, faultOf?, Function.comp_def]
  have hcapture : ∀ entry,
      (rule.captureSteps entry).filterMap Step.fault? = rule.captureFaults entry := by
    rintro ⟨name, c⟩
    rw [captureSteps, captureFaults]
    cases rule.tokens.get? name with
    | none => rfl
    | some u => exact u.filterMap_fault?_steps name c.text
  rw [steps, List.filterMap_append, List.filterMap_append, filterMap_fault?_payloadSteps, hstatic,
    List.append_nil, List.filterMap_flatMap, faults]
  simp only [hcapture]

/-! ## What stands in the way of a record -/

/-- A cause that keeps a rule from making a record, in terms of the rule, the payload and the
captures. -/
inductive Objection (rule : Rule) (payload : List UInt8) (captures : Captures) :
    RecordFault → Prop where
  | notText {u} (hp : rule.payload = some u) (hu : u.isUsed)
      (hb : Text.Utf8.decode? payload = none) :
      Objection rule payload captures (.conversion .notText)
  | part {u raw document x cause} (hp : rule.payload = some u)
      (hb : Text.Utf8.decode? payload = some raw) (hd : Json.parse? raw = some document)
      (hx : x ∈ u.extractions) (hc : x.FaultDerivation document cause) :
      Objection rule payload captures (.conversion cause)
  | whole {u raw cause} (hp : rule.payload = some u)
      (hb : Text.Utf8.decode? payload = some raw) (hf : u.isField)
      (hc : Payload.convert raw u.kind u.path = .error cause) :
      Objection rule payload captures (.conversion cause)
  | fieldMap {name c u} (he : (name, c) ∈ captures.entries) (ht : rule.tokens.get? name = some u)
      (hm : TokenUse.lacks u.fieldMap c.text) :
      Objection rule payload captures (.unmapped .field name c.text)
  | tagMap {name c u} (he : (name, c) ∈ captures.entries) (ht : rule.tokens.get? name = some u)
      (hm : TokenUse.lacks u.tagMap c.text) :
      Objection rule payload captures (.unmapped .tag name c.text)

theorem mem_payloadFaults_iff (rule : Rule) (payload : List UInt8) (cause : RecordFault) :
    cause ∈ rule.payloadFaults payload ↔
      ∃ u, rule.usedPayload? = some u ∧ ∃ c ∈ u.faults payload, .conversion c = cause := by
  rw [payloadFaults]
  cases rule.usedPayload? with
  | none => simp
  | some u => simp

theorem objection_of_mem_payloadFaults {rule : Rule} {payload : List UInt8} (captures : Captures)
    {cause : RecordFault} (h : cause ∈ rule.payloadFaults payload) :
    Objection rule payload captures cause := by
  obtain ⟨u, hu, c, hc, rfl⟩ := (rule.mem_payloadFaults_iff payload cause).mp h
  obtain ⟨hp, hused⟩ := (rule.usedPayload?_eq_some_iff u).mp hu
  rw [PayloadUse.faults] at hc
  cases hb : Text.Utf8.decode? payload with
  | none =>
      rw [hb] at hc
      cases List.mem_singleton.mp hc
      exact .notText hp hused hb
  | some raw =>
      rw [hb, List.mem_append] at hc
      rcases hc with hc | hc
      · rw [PayloadUse.partFaults] at hc
        cases hd : Json.parse? raw with
        | none => simp [hd] at hc
        | some document =>
            rw [hd] at hc
            obtain ⟨x, hx, hfault⟩ := List.mem_filterMap.mp hc
            rw [faultOf?_eq_some_iff, ← Extraction.faultDerivation_iff] at hfault
            exact .part hp hb hd hx hfault
      · rw [PayloadUse.wholeFaults] at hc
        split at hc
        · next hf =>
            rw [Option.mem_toList, faultOf?_eq_some_iff] at hc
            exact .whole hp hb hf hc
        · cases hc

theorem mem_captureFaults_iff (rule : Rule) (name : String) (c : Capture) (cause : RecordFault) :
    cause ∈ rule.captureFaults (name, c) ↔ ∃ u, rule.tokens.get? name = some u ∧
      (TokenUse.lacks u.fieldMap c.text ∧ cause = .unmapped .field name c.text ∨
        TokenUse.lacks u.tagMap c.text ∧ cause = .unmapped .tag name c.text) := by
  rw [captureFaults]
  cases rule.tokens.get? name with
  | none => simp
  | some u => simp [TokenUse.faults]

theorem Objection.mem_faults {rule : Rule} {payload : List UInt8} {captures : Captures}
    {cause : RecordFault} (h : Objection rule payload captures cause) :
    cause ∈ rule.faults payload captures := by
  rw [faults, List.mem_append, mem_payloadFaults_iff, List.mem_flatMap]
  cases h with
  | @notText u hp hu hb =>
      refine .inl ⟨u, (rule.usedPayload?_eq_some_iff u).mpr ⟨hp, hu⟩, .notText, ?_, rfl⟩
      simp [PayloadUse.faults, hb]
  | @part u raw document x cause hp hb hd hx hc =>
      -- A payload of which a part is asked for is in use.
      have hused := (rule.usedPayload?_eq_some_iff u).mpr ⟨hp, PayloadUse.isUsed_of_mem hx⟩
      refine .inl ⟨u, hused, cause, ?_, rfl⟩
      simp only [PayloadUse.faults, hb, PayloadUse.partFaults, hd, List.mem_append]
      refine .inl (List.mem_filterMap.mpr ⟨x, hx, ?_⟩)
      rw [faultOf?_eq_some_iff, ← Extraction.faultDerivation_iff]
      exact hc
  | @whole u raw cause hp hb hf hc =>
      have hused := (rule.usedPayload?_eq_some_iff u).mpr ⟨hp, PayloadUse.isUsed_of_isField hf⟩
      refine .inl ⟨u, hused, cause, ?_, rfl⟩
      simp [PayloadUse.faults, hb, PayloadUse.wholeFaults, hf, hc, faultOf?]
  | @fieldMap name c u he ht hm =>
      exact .inr ⟨(name, c), he, (rule.mem_captureFaults_iff name c _).mpr
        ⟨u, ht, .inl ⟨hm, rfl⟩⟩⟩
  | @tagMap name c u he ht hm =>
      exact .inr ⟨(name, c), he, (rule.mem_captureFaults_iff name c _).mpr
        ⟨u, ht, .inr ⟨hm, rfl⟩⟩⟩

theorem mem_faults_iff (rule : Rule) (payload : List UInt8) (captures : Captures)
    (cause : RecordFault) :
    cause ∈ rule.faults payload captures ↔ Objection rule payload captures cause := by
  refine ⟨fun h => ?_, Objection.mem_faults⟩
  rw [faults, List.mem_append, List.mem_flatMap] at h
  rcases h with h | ⟨⟨name, c⟩, he, h⟩
  · exact objection_of_mem_payloadFaults captures h
  · obtain ⟨u, ht, ⟨hm, rfl⟩ | ⟨hm, rfl⟩⟩ := (rule.mem_captureFaults_iff name c cause).mp h
    · exact .fieldMap he ht hm
    · exact .tagMap he ht hm

/-! ## The first fault -/

theorem record_eq_error_iff (rule : Rule) (payload : List UInt8) (captures : Captures)
    (cause : RecordFault) :
    rule.record payload captures = .error cause ↔
      (rule.faults payload captures).head? = some cause := by
  rw [record_eq_run, Step.run_eq_error_iff, filterMap_fault?_steps]

theorem objection_of_record {rule : Rule} {payload : List UInt8} {captures : Captures}
    {cause : RecordFault} (h : rule.record payload captures = .error cause) :
    Objection rule payload captures cause := by
  rw [record_eq_error_iff] at h
  exact (rule.mem_faults_iff payload captures cause).mp (List.mem_of_mem_head? h)

theorem exists_record_eq_error_iff (rule : Rule) (payload : List UInt8) (captures : Captures) :
    (∃ cause, rule.record payload captures = .error cause) ↔
      ∃ cause, Objection rule payload captures cause := by
  constructor
  · rintro ⟨cause, h⟩
    exact ⟨cause, objection_of_record h⟩
  · rintro ⟨cause, h⟩
    have hne : rule.faults payload captures ≠ [] :=
      List.ne_nil_of_mem ((rule.mem_faults_iff payload captures cause).mpr h)
    refine ⟨(rule.faults payload captures).head hne, ?_⟩
    rw [record_eq_error_iff, List.head?_eq_some_head]

/-! ## Texts that are no documents -/

section NoDocument

variable {rule : Rule} {payload : List UInt8} {u : PayloadUse} {raw : String}

/-- Nothing is taken out of a text that is no document; what is done with the whole is left. -/
theorem payloadSteps_of_noDocument (hp : rule.payload = some u)
    (hb : Text.Utf8.decode? payload = some raw) (hd : Json.parse? raw = none) :
    rule.payloadSteps payload = (u.wholeFields raw).map fun (key, value) => .field key value := by
  rw [payloadSteps, usedPayload?, hp, Option.filter_some]
  cases hu : u.isUsed with
  | true => simp [PayloadUse.steps, hb, PayloadUse.partFields, hd]
  | false =>
      have hf : u.isField = false := (Bool.or_eq_false_iff.mp hu).1
      simp [PayloadUse.wholeFields, hf]

/-- Parts of a payload make no difference to a text that is no document. -/
theorem record_of_noDocument (hp : rule.payload = some u)
    (hb : Text.Utf8.decode? payload = some raw) (hd : Json.parse? raw = none)
    (captures : Captures) :
    rule.record payload captures =
      { rule with payload := some { u with extractions := [] } }.record payload captures := by
  rw [record_eq_run, record_eq_run, steps, steps, payloadSteps_of_noDocument hp hb hd,
    payloadSteps_of_noDocument rfl hb hd]
  rfl

/-- A part of a text that is no document is the text as it is. -/
theorem payloadSteps_of_rawText (hp : rule.payload = some u)
    (hb : Text.Utf8.decode? payload = some raw) (hd : Json.parse? raw = none) (hf : u.isField)
    {name path : String} (hk : u.kind = some name) (hj : Kind.ofName? name = some .json)
    (hpath : u.path = some path) :
    rule.payloadSteps payload = [.field u.name (.ok (.text raw))] := by
  have hconvert : Payload.convert raw u.kind u.path = .ok (.text raw) := by
    rw [hk, Payload.convert_of_ofName? hj, hpath, Payload.convertTo, hd]
  rw [payloadSteps_of_noDocument hp hb hd, PayloadUse.wholeFields, if_pos hf, hconvert]
  rfl

end NoDocument

/-! ## Failures -/

/-- When there is no record of a rule, and why. -/
structure FailureSpec (rule : Rule) (payload : List UInt8) (captures : Captures) : Prop where
  fails : (∃ cause, rule.record payload captures = .error cause) ↔
    ∃ cause, Objection rule payload captures cause
  first : ∀ cause, rule.record payload captures = .error cause ↔
    (rule.faults payload captures).head? = some cause
  objections : ∀ cause, cause ∈ rule.faults payload captures ↔ Objection rule payload captures cause
  /-- A payload that is no document fares as it does where no parts are asked for. -/
  noDocument : ∀ u raw, rule.payload = some u → Text.Utf8.decode? payload = some raw →
    Json.parse? raw = none →
      rule.record payload captures =
        { rule with payload := some { u with extractions := [] } }.record payload captures
  /-- A part that is asked for of a payload that is no document is the payload itself, unless it is
  replaced later on. -/
  rawText : ∀ u raw name path, rule.payload = some u → Text.Utf8.decode? payload = some raw →
    Json.parse? raw = none → u.isField → u.kind = some name → Kind.ofName? name = some .json →
    u.path = some path →
      rule.payloadFaults payload = [] ∧
        ∀ r, rule.record payload captures = .ok r →
          (∀ w ∈ rule.laterFields captures, w.1 ≠ u.name) →
            r.fields.get? u.name = some (.text raw)

theorem failure_spec (rule : Rule) (payload : List UInt8) (captures : Captures) :
    FailureSpec rule payload captures := by
  refine ⟨rule.exists_record_eq_error_iff payload captures,
    rule.record_eq_error_iff payload captures, rule.mem_faults_iff payload captures,
    fun u raw hp hb hd => record_of_noDocument hp hb hd captures, ?_⟩
  intro u raw name path hp hb hd hf hk hj hpath
  have hsteps := payloadSteps_of_rawText hp hb hd hf hk hj hpath
  constructor
  · rw [← filterMap_fault?_payloadSteps, hsteps]
    rfl
  · intro r hr hlater
    rw [record_eq_run] at hr
    have hfields := (Step.wrote_of_run hr).fields
    have hpayload : rule.payloadFields payload = [(u.name, .ok (.text raw))] := by
      rw [← filterMap_field?_payloadSteps, hsteps]
      rfl
    rw [filterMap_field?_steps, fieldWrites, hpayload] at hfields
    exact (hfields u.name (.text raw)).mpr ⟨[], _, rfl, hlater⟩

end Rule
end TopicBridge
