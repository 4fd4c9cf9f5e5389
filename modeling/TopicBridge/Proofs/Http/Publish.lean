import TopicBridge.Http.Service
import TopicBridge.Proofs.Source.Gate

/-! # Publishing

A publication is answered by what becomes of its message at the gate. -/

namespace TopicBridge

/-- What a call at a gate comes back with, if it does: whether its message is in the queue, or why
it is turned away. -/
def Gate.Admission.result? : Gate.Admission → Option (Except SourceFault Bool)
  | .queued _ => some (.ok true)
  | .unsubscribed => some (.ok false)
  | .refused cause => some (.error cause)
  | .waits => none

namespace Http

/-- The answer to a publication, from what the call at the gate comes back with. -/
def answerTo (topic : String) : Except SourceFault Bool → Response
  | .ok true => .json 202 (publishedJson true topic)
  | .ok false => .json 200 (publishedJson false topic)
  | .error cause => ofSourceFault cause

/-- The message of a publication under a topic behind the prefix. -/
def Publication.message (p : Publication) (inner : String) : Message :=
  ⟨inner, Text.Utf8.encode p.payload, p.qos, p.retain⟩

/-- A service whose queue holds one more entry. -/
def Service.add (s : Service) (item : Item) : Service :=
  { s with gate := { s.gate with queue := s.gate.queue.add item } }

theorem Service.add_ne (s : Service) (item : Item) : s ≠ s.add item := by
  intro h
  have hlength := congrArg (·.gate.queue.items.length) h
  simp [Service.add, Queue.add] at hlength

/-- The answer to a publication whose call at the gate came back: its status says what became of
the message. -/
structure AnswerSpec (s : Service) (p : Publication) (result : Except SourceFault Bool)
    (s' : Service) : Prop where
  accepted : (answerTo p.topic result).status = 202 ↔
    ∃ inner, p.topic = s.gate.lead ++ inner ∧ s' = s.add (.message (p.message inner))
  unchanged : (answerTo p.topic result).status ≠ 202 ↔ s' = s
  unsubscribed : (answerTo p.topic result).status = 200 ↔
    ∃ inner, p.topic = s.gate.lead ++ inner ∧ s.gate.isSubscribed inner = false
  outside : (answerTo p.topic result).status = 400 ↔ ∀ inner, p.topic ≠ s.gate.lead ++ inner
  closed : (answerTo p.topic result).status = 503 ↔ s.gate.queue.isClosed = true ∧
    ∃ inner, p.topic = s.gate.lead ++ inner ∧ s.gate.isSubscribed inner = true

namespace AnswerSpec

variable {s : Service} {p : Publication} {inner : String}

theorem of_queued (htopic : p.topic = s.gate.lead ++ inner)
    (hs : s.gate.isSubscribed inner = true) (hopen : s.gate.queue.isClosed = false) :
    AnswerSpec s p (.ok true) (s.add (.message (p.message inner))) := by
  have hstatus : (answerTo p.topic (.ok true)).status = 202 := rfl
  refine ⟨iff_of_true hstatus ⟨inner, htopic, rfl⟩, ?_, ?_, ?_, ?_⟩
  · exact iff_of_false (fun h => h hstatus) (s.add_ne _).symm
  · refine iff_of_false (by simp [hstatus]) ?_
    rintro ⟨inner', htopic', hs'⟩
    rw [Gate.eq_of_lead_append (htopic.symm.trans htopic'), hs'] at hs
    cases hs
  · exact iff_of_false (by simp [hstatus]) fun h => h inner htopic
  · exact iff_of_false (by simp [hstatus]) (by simp [hopen])

theorem of_unsubscribed (htopic : p.topic = s.gate.lead ++ inner)
    (hs : s.gate.isSubscribed inner = false) : AnswerSpec s p (.ok false) s := by
  have hstatus : (answerTo p.topic (.ok false)).status = 200 := rfl
  refine ⟨?_, iff_of_true (by simp [hstatus]) rfl, iff_of_true hstatus ⟨inner, htopic, hs⟩, ?_, ?_⟩
  · refine iff_of_false (by simp [hstatus]) ?_
    rintro ⟨_, _, hadd⟩
    exact s.add_ne _ hadd
  · exact iff_of_false (by simp [hstatus]) fun h => h inner htopic
  · refine iff_of_false (by simp [hstatus]) ?_
    rintro ⟨-, inner', htopic', hs'⟩
    rw [← Gate.eq_of_lead_append (htopic.symm.trans htopic'), hs] at hs'
    cases hs'

theorem of_outside (h : ∀ inner, p.topic ≠ s.gate.lead ++ inner) :
    AnswerSpec s p (.error (.outsidePrefix p.topic s.gate.lead)) s := by
  have hstatus : (answerTo p.topic (.error (.outsidePrefix p.topic s.gate.lead))).status = 400 :=
    rfl
  refine ⟨?_, iff_of_true (by simp [hstatus]) rfl, ?_, iff_of_true hstatus h, ?_⟩
  · exact iff_of_false (by simp [hstatus]) fun ⟨inner, htopic, _⟩ => h inner htopic
  · exact iff_of_false (by simp [hstatus]) fun ⟨inner, htopic, _⟩ => h inner htopic
  · exact iff_of_false (by simp [hstatus]) fun ⟨_, inner, htopic, _⟩ => h inner htopic

theorem of_closed (htopic : p.topic = s.gate.lead ++ inner)
    (hs : s.gate.isSubscribed inner = true) (hclosed : s.gate.queue.isClosed = true) :
    AnswerSpec s p (.error .closed) s := by
  have hstatus : (answerTo p.topic (.error .closed)).status = 503 := rfl
  refine ⟨?_, iff_of_true (by simp [hstatus]) rfl, ?_, ?_,
    iff_of_true hstatus ⟨hclosed, inner, htopic, hs⟩⟩
  · refine iff_of_false (by simp [hstatus]) ?_
    rintro ⟨_, _, hadd⟩
    exact s.add_ne _ hadd
  · refine iff_of_false (by simp [hstatus]) ?_
    rintro ⟨inner', htopic', hs'⟩
    rw [Gate.eq_of_lead_append (htopic.symm.trans htopic'), hs'] at hs
    cases hs
  · exact iff_of_false (by simp [hstatus]) fun h => h inner htopic

end AnswerSpec

/-- What becomes of a request whose publication is read. -/
structure PublishSpec (s : Service) (p : Publication) (o : Outcome) : Prop where
  waits : o = .waits ↔ s.gate.queue.isClosed = false ∧
    s.gate.queue.capacity ≤ s.gate.queue.items.length ∧
      ∃ inner, p.topic = s.gate.lead ++ inner ∧ s.gate.isSubscribed inner = true
  answered : ∀ response s', o = .answered response s' → ∃ result,
    (s.bring p).result? = some result ∧ response = answerTo p.topic result ∧
      AnswerSpec s p result s'

theorem ofAdmission_spec {s : Service} {p : Publication} {a : Gate.Admission}
    (h : s.gate.AdmissionDerivation p.topic (Text.Utf8.encode p.payload) p.qos p.retain a)
    (ha : s.bring p = a) : PublishSpec s p (ofAdmission s p.topic a) := by
  have hanswered : ∀ {result response s' s''}, a.result? = some result →
      AnswerSpec s p result s'' → Outcome.answered (answerTo p.topic result) s'' =
        .answered response s' → ∃ result, (s.bring p).result? = some result ∧
          response = answerTo p.topic result ∧ AnswerSpec s p result s' := by
    intro result response s' s'' hresult hspec heq
    cases heq
    exact ⟨result, by rw [ha, hresult], rfl, hspec⟩
  cases h with
  | outside houtside =>
      refine ⟨iff_of_false (by simp [ofAdmission]) ?_, fun response s' heq => ?_⟩
      · exact fun ⟨_, _, inner, htopic, _⟩ => houtside inner htopic
      · exact hanswered rfl (.of_outside houtside) heq
  | @unsubscribed inner htopic hs =>
      refine ⟨iff_of_false (by simp [ofAdmission]) ?_, fun response s' heq => ?_⟩
      · rintro ⟨-, -, inner', htopic', hs'⟩
        rw [← Gate.eq_of_lead_append (htopic.symm.trans htopic'), hs] at hs'
        cases hs'
      · exact hanswered rfl (.of_unsubscribed htopic hs) heq
  | closed htopic hs hclosed =>
      refine ⟨iff_of_false (by simp [ofAdmission]) ?_, fun response s' heq => ?_⟩
      · rintro ⟨hopen, -, -⟩
        rw [hclosed] at hopen
        cases hopen
      · exact hanswered rfl (.of_closed htopic hs hclosed) heq
  | @waits inner htopic hs hopen hfull =>
      exact ⟨iff_of_true rfl ⟨hopen, hfull, inner, htopic, hs⟩, by simp [ofAdmission]⟩
  | queued htopic hs hopen hroom =>
      refine ⟨iff_of_false (by simp [ofAdmission]) ?_, fun response s' heq => ?_⟩
      · rintro ⟨-, hfull, -⟩
        exact absurd hroom (Nat.not_lt.mpr hfull)
      · exact hanswered rfl (.of_queued htopic hs hopen) heq

theorem publish_outcome {s : Service} {r : Request} {p : Publication}
    (hp : readPublication r = .ok p) : PublishSpec s p (s.publish r) := by
  have hpublish : s.publish r = ofAdmission s p.topic (s.bring p) := by
    rw [Service.publish, hp]
  rw [hpublish]
  exact ofAdmission_spec (s.gate.accept_derivation _ _ _ _) rfl

end Http
end TopicBridge
