import TopicBridge.Dispatch
import TopicBridge.Proofs.Rule.Faults
import TopicBridge.Proofs.Rule.Loading

/-! # What is told of payloads in advance

A conversion can fail because of how it was set up, whatever the payload is. Each setup that can fail
like this is told when the rule is bound; a rule of which it is told that no part of a document is
named never makes a record. -/

namespace TopicBridge.Rule

variable {r : Rule} {payload : List UInt8} {captures : Captures}

/-! ## What conversions can fail for -/

/-- A fault of the setup is one that was told. -/
theorem Objection.suspicion {cause : ConversionFault}
    (h : Objection r payload captures (.conversion cause)) (hs : cause.OfSetup) :
    cause = .noPath ∧ Suspicion r (.jsonWithoutPath r.topic) ∨
      ∃ name, cause = .unknownKind name ∧ Suspicion r (.unknownKind r.topic name) := by
  cases h with
  | notText hp hu hb => cases hs
  | @part u raw document x cause hp hb hd hx hc =>
      cases hc with
      | unknownKind hn hk => exact .inr ⟨_, rfl, .unknownKind hp (.inr ⟨x, hx, hn⟩) hk⟩
      | unresolved hk hpath => cases hs
      | unconverted hn hk hpath hj hc =>
          -- A part that is taken as a document is never converted.
          exact absurd (Payload.convertTo_of_ofSetup hc hs).1 hj
  | whole hp hb hf hc =>
      cases Payload.setupFault_of_convert hc hs with
      | unknownKind hn hk => exact .inr ⟨_, rfl, .unknownKind hp (.inl hn) hk⟩
      | noPath hn hk hpath => exact .inl ⟨rfl, .noPath hp hf hn hk hpath⟩

theorem suspicion_of_unknownKind {name : String}
    (h : r.record payload captures = .error (.conversion (.unknownKind name))) :
    Suspicion r (.unknownKind r.topic name) := by
  rcases (objection_of_record h).suspicion trivial with ⟨hc, -⟩ | ⟨name', hc, hw⟩
  · cases hc
  · cases hc
    exact hw

theorem suspicion_of_noPath (h : r.record payload captures = .error (.conversion .noPath)) :
    Suspicion r (.jsonWithoutPath r.topic) := by
  rcases (objection_of_record h).suspicion trivial with ⟨-, hw⟩ | ⟨name, hc, -⟩
  · exact hw
  · cases hc

/-! ## Rules without records -/

/-- Where documents are asked for and no part of them is named, each payload is either no text or a
text that cannot be converted. -/
theorem exists_record_eq_error_of_suspicion {topic : String}
    (h : Suspicion r (.jsonWithoutPath topic)) (payload : List UInt8) (captures : Captures) :
    ∃ cause, r.record payload captures = .error cause := by
  rw [exists_record_eq_error_iff]
  cases h with
  | @noPath u name hp hf hn hk hpath =>
      cases hb : Text.Utf8.decode? payload with
      | none => exact ⟨_, .notText hp (PayloadUse.isUsed_of_isField hf) hb⟩
      | some raw =>
          have hfault : Payload.SetupFault u.kind u.path .noPath := .noPath hn hk hpath
          exact ⟨_, .whole hp hb hf hfault.convert_eq⟩

theorem evaluate_ne_built (h : ∀ payload captures, ∃ cause, r.record payload captures = .error cause)
    (m : Message) (record : Record) : r.evaluate m ≠ .built record := by
  intro hbuilt
  rw [evaluate] at hbuilt
  split at hbuilt
  · cases hbuilt
  · split at hbuilt
    · cases hbuilt
    · next captures _ =>
        obtain ⟨cause, hcause⟩ := h m.payload captures
        rw [hcause] at hbuilt
        cases hbuilt

/-! ## Diagnostics -/

theorem eq_of_message_eq_jsonWithoutPath {ev : Event} (h : Suspicion r ev)
    (hm : ev.message = "Payload type json has no json path, conversion will fail") :
    ev = .jsonWithoutPath r.topic := by
  cases h with
  | uncaptured ht hn => simp [Event.message] at hm
  | noPath hp hf hn hk hpath => rfl
  | unknownKind hp hn hk => simp [Event.message] at hm

/-- What the events of binding a rule say about its records. -/
structure DiagnosticsSpec (r : Rule) (events : List Event) : Prop where
  /-- Without a warning there is no fault of the setup. -/
  silent : (∀ ev ∈ events, ev.message ≠ "Unknown payload type, conversion will fail" ∧
      ev.message ≠ "Payload type json has no json path, conversion will fail") →
    ∀ payload captures cause, r.record payload captures = .error (.conversion cause) →
      cause ≠ .noPath ∧ ∀ name, cause ≠ .unknownKind name
  unknownKind : ∀ payload captures name,
    r.record payload captures = .error (.conversion (.unknownKind name)) →
      .unknownKind r.topic name ∈ events
  noPath : ∀ payload captures,
    r.record payload captures = .error (.conversion .noPath) → .jsonWithoutPath r.topic ∈ events
  doomed : (∃ ev ∈ events,
      ev.message = "Payload type json has no json path, conversion will fail") →
    (∀ payload captures, ∃ cause, r.record payload captures = .error cause) ∧
      ∀ m record, r.evaluate m ≠ .built record

theorem diagnostics_spec {e : RuleEntry} {r : Rule} (h : bind e = .ok r) (index : Nat) :
    DiagnosticsSpec r (RuleSet.bindingEvents index [e]) := by
  have hevents : RuleSet.bindingEvents index [e] = r.warnings := by
    rw [RuleSet.bindingEvents_cons_of_ok h, RuleSet.bindingEvents, List.append_nil]
  rw [hevents]
  have hkind : ∀ payload captures name,
      r.record payload captures = .error (.conversion (.unknownKind name)) →
        .unknownKind r.topic name ∈ r.warnings :=
    fun _ _ _ hr => (r.mem_warnings_iff _).mpr (suspicion_of_unknownKind hr)
  have hpath : ∀ payload captures,
      r.record payload captures = .error (.conversion .noPath) →
        .jsonWithoutPath r.topic ∈ r.warnings :=
    fun _ _ hr => (r.mem_warnings_iff _).mpr (suspicion_of_noPath hr)
  refine ⟨?_, hkind, hpath, ?_⟩
  · intro hsilent payload captures cause hr
    constructor
    · rintro rfl
      exact (hsilent _ (hpath payload captures hr)).2 rfl
    · rintro name rfl
      exact (hsilent _ (hkind payload captures name hr)).1 rfl
  · rintro ⟨ev, hev, hm⟩
    have hw := (r.mem_warnings_iff ev).mp hev
    rw [eq_of_message_eq_jsonWithoutPath hw hm] at hw
    have hfails := exists_record_eq_error_of_suspicion hw
    exact ⟨hfails, evaluate_ne_built hfails⟩

/-- An entry that reads payloads as documents and does not say which part. -/
def meterEntry : RuleEntry where
  topic := some "meter/+id"
  retain := false
  disableWrite := false
  measurement := some (.text "meter")
  payload := some ⟨"value", true, some "JSON", none, .empty⟩
  fields := none
  tags := none
  tokens := none

/-- What the entry is bound to. -/
def meter : Rule :=
  { Rule.ofPattern ⟨"meter/+id", [.literal "meter", .single "id"], .empty⟩ with
    payload := some ⟨"value", true, some "JSON", none, []⟩
    measurement := some "meter" }

theorem diagnostics_spec_meter :
    bind meterEntry = .ok meter ∧
      DiagnosticsSpec meter (RuleSet.bindingEvents 0 [meterEntry]) := by
  have h : bind meterEntry = .ok meter := by decide +kernel
  exact ⟨h, diagnostics_spec h 0⟩

end TopicBridge.Rule
