import TopicBridge.Payload.Convert
import TopicBridge.Proofs.Number.Integer

/-! # What paths lead to

A path leads to the part of a document that its segments name one after the other, and each part
that a document has can be named. -/

namespace TopicBridge

namespace Json

/-! ## Segments -/

/-- The part that a segment names: the member under a key, or the item at a place. -/
inductive Names (segment : String) : Json → Json → Prop where
  | member {members part} (h : lookup? segment members = some part) :
      Names segment (.object members) part
  | item {items part i} (hs : NaturalText i segment.toList) (hbound : i < 2 ^ 64)
      (h : items[i]? = some part) : Names segment (.array items) part

theorem names_iff {segment : String} {document part : Json} :
    Names segment document part ↔ document.child? segment = some part := by
  constructor
  · intro h
    cases h with
    | member h => exact h
    | item hs hbound h => simp only [child?, readNat64_eq_ok_iff.mpr ⟨hs, hbound⟩, h]
  · intro h
    cases document with
    | object members => exact .member h
    | array items =>
        simp only [child?] at h
        split at h
        · next i hi =>
            obtain ⟨hs, hbound⟩ := readNat64_eq_ok_iff.mp hi
            exact .item hs hbound h
        · cases h
    | null => cases h
    | bool b => cases h
    | number n => cases h
    | text s => cases h

/-- What segments lead to when they are followed in order. -/
inductive Reaches : List String → Json → Json → Prop where
  | nil (document) : Reaches [] document document
  | cons {segment rest document next part} (h : Names segment document next)
      (hrest : Reaches rest next part) : Reaches (segment :: rest) document part

theorem follow_cons_of_names {segment : String} {document next : Json}
    (h : Names segment document next) (rest : List String) :
    follow (segment :: rest) document = follow rest next := by
  rw [follow, names_iff.mp h]

theorem follow_cons_of_not_names {segment : String} {document : Json}
    (h : ∀ next, ¬ Names segment document next) (rest : List String) :
    follow (segment :: rest) document = .error segment := by
  have hnone : document.child? segment = none :=
    Option.eq_none_iff_forall_ne_some.mpr fun next hnext => h next (names_iff.mpr hnext)
  rw [follow, hnone]

theorem follow_eq_ok_iff {segments : List String} {document part : Json} :
    follow segments document = .ok part ↔ Reaches segments document part := by
  constructor
  · intro h
    induction segments generalizing document with
    | nil =>
        cases h
        exact .nil _
    | cons segment rest ih =>
        by_cases hnames : ∃ next, Names segment document next
        · obtain ⟨next, hnext⟩ := hnames
          rw [follow_cons_of_names hnext] at h
          exact .cons hnext (ih h)
        · rw [follow_cons_of_not_names (not_exists.mp hnames)] at h
          cases h
  · intro h
    induction h with
    | nil document => rfl
    | cons h _ ih => rw [follow_cons_of_names h, ih]

/-- The segment that is reported is the first one that names nothing. -/
theorem follow_eq_error_iff {segments : List String} {document : Json} {segment : String} :
    follow segments document = .error segment ↔
      ∃ front back part, segments = front ++ segment :: back ∧ Reaches front document part ∧
        ∀ next, ¬ Names segment part next := by
  constructor
  · intro h
    induction segments generalizing document with
    | nil => cases h
    | cons first rest ih =>
        by_cases hnames : ∃ next, Names first document next
        · obtain ⟨next, hnext⟩ := hnames
          rw [follow_cons_of_names hnext] at h
          obtain ⟨front, back, part, rfl, hfront, hstop⟩ := ih h
          exact ⟨first :: front, back, part, rfl, .cons hnext hfront, hstop⟩
        · have hstop := not_exists.mp hnames
          rw [follow_cons_of_not_names hstop] at h
          cases h
          exact ⟨[], rest, document, rfl, .nil document, hstop⟩
  · rintro ⟨front, back, part, rfl, hfront, hstop⟩
    rw [follow_append, follow_eq_ok_iff.mpr hfront]
    exact follow_cons_of_not_names hstop back

/-! ## Positions -/

/-- A step into a document: to the member under a key, or to the item at a place. Places are counted
with 64 bits. -/
inductive Step
  | key (name : String)
  | place (i : Fin (2 ^ 64))

/-- How a step is written in a path. -/
def Step.segment : Step → String
  | .key name => name
  | .place i => toString i.val

/-- The part of a document at a position. -/
inductive At : List Step → Json → Json → Prop where
  | root (document) : At [] document document
  | member {name members next steps part} (h : lookup? name members = some next)
      (hrest : At steps next part) : At (.key name :: steps) (.object members) part
  | item {i : Fin (2 ^ 64)} {items next steps part} (h : items[i.val]? = some next)
      (hrest : At steps next part) : At (.place i :: steps) (.array items) part

theorem reaches_of_at {steps : List Step} {document part : Json} (h : At steps document part) :
    Reaches (steps.map Step.segment) document part := by
  induction h with
  | root document => exact .nil document
  | member h _ ih => exact .cons (.member h) ih
  | @item i _ _ _ _ h _ ih => exact .cons (.item (naturalText_toString i.val) i.isLt h) ih

theorem comma_not_mem_segment {step : Step} (h : ∀ name, step = .key name → ',' ∉ name.toList) :
    ',' ∉ step.segment.toList := by
  cases step with
  | key name => exact h name rfl
  | place i =>
      intro hmem
      rw [Step.segment, toList_toString_nat] at hmem
      exact absurd (isDigit_of_mem_toDigits hmem) (by decide)

end Json

namespace Payload

open Json

/-! ## Paths -/

theorem resolve_eq_ok_iff {document part : Json} {path : String} :
    resolve document path = .ok part ↔ document.resolve path = .ok part := by
  rw [resolve]
  cases document.resolve path with
  | ok leaf => simp
  | error segment => simp

theorem resolve_eq_error_iff {document : Json} {path : String} {cause : ConversionFault} :
    resolve document path = .error cause ↔
      ∃ segment, document.resolve path = .error segment ∧ cause = .unresolved path segment := by
  rw [resolve]
  cases document.resolve path with
  | ok leaf => simp
  | error segment => simp [eq_comm]

theorem resolve_eq_unresolved_iff {document : Json} {path segment : String} :
    resolve document path = .error (.unresolved path segment) ↔
      document.resolve path = .error segment := by
  rw [resolve_eq_error_iff]
  constructor
  · rintro ⟨s, hs, hcause⟩
    cases hcause
    exact hs
  · exact fun h => ⟨segment, h, rfl⟩

theorem pieces_append (p q : String) :
    Text.pieces ',' (p ++ "," ++ q) = Text.pieces ',' p ++ Text.pieces ',' q := by
  have hlist : (p ++ "," ++ q).toList = p.toList ++ ',' :: q.toList := by simp
  rw [Text.pieces, hlist, Text.split_append_sep, List.map_append]
  rfl

/-- A path behind a path leads on from where the first one leads to. -/
theorem resolve_append (document : Json) (p q : String) :
    document.resolve (p ++ "," ++ q) = (document.resolve p).bind (Json.resolve q) := by
  rw [Json.resolve, pieces_append, follow_append]
  rfl

/-- How paths lead into a document. -/
structure ResolutionSpec (document : Json) : Prop where
  /-- Every part but the whole document is found under its position. -/
  complete : ∀ steps part, steps ≠ [] → (∀ name, .key name ∈ steps → ',' ∉ name.toList) →
    At steps document part →
      resolve document (Text.joined ',' (steps.map Step.segment)) = .ok part
  /-- What is found is what the segments lead to, each followed in order. -/
  sound : ∀ path part,
    resolve document path = .ok part ↔ Reaches (Text.pieces ',' path) document part
  /-- A fault names the path and the first segment that leads nowhere. -/
  fault : ∀ path cause, resolve document path = .error cause ↔
    ∃ front segment back part, Text.pieces ',' path = front ++ segment :: back ∧
      Reaches front document part ∧ (∀ next, ¬ Names segment part next) ∧
        cause = .unresolved path segment
  append : ∀ p q part, resolve document (p ++ "," ++ q) = .ok part ↔
    ∃ next, resolve document p = .ok next ∧ resolve next q = .ok part
  appendFault : ∀ p q segment,
    resolve document (p ++ "," ++ q) = .error (.unresolved (p ++ "," ++ q) segment) ↔
      resolve document p = .error (.unresolved p segment) ∨
        ∃ next, resolve document p = .ok next ∧ resolve next q = .error (.unresolved q segment)

theorem resolution_spec (document : Json) : ResolutionSpec document where
  complete steps part hne hkeys hat := by
    have hcomma : ∀ segment ∈ steps.map Step.segment, ',' ∉ segment.toList := by
      intro segment hsegment
      obtain ⟨step, hstep, rfl⟩ := List.mem_map.mp hsegment
      refine comma_not_mem_segment ?_
      rintro name rfl
      exact hkeys name hstep
    rw [resolve_eq_ok_iff, Json.resolve, Text.pieces_joined (by simpa using hne) hcomma,
      follow_eq_ok_iff]
    exact reaches_of_at hat
  sound path part := by
    rw [resolve_eq_ok_iff, Json.resolve, follow_eq_ok_iff]
  fault path cause := by
    simp only [resolve_eq_error_iff, Json.resolve, follow_eq_error_iff]
    constructor
    · rintro ⟨segment, ⟨front, back, part, hpath, hfront, hstop⟩, hcause⟩
      exact ⟨front, segment, back, part, hpath, hfront, hstop, hcause⟩
    · rintro ⟨front, segment, back, part, hpath, hfront, hstop, hcause⟩
      exact ⟨segment, ⟨front, back, part, hpath, hfront, hstop⟩, hcause⟩
  append p q part := by
    simp only [resolve_eq_ok_iff, resolve_append]
    cases document.resolve p with
    | ok next => simp [Except.bind]
    | error segment => simp [Except.bind]
  appendFault p q segment := by
    simp only [resolve_eq_unresolved_iff, resolve_eq_ok_iff, resolve_append]
    cases document.resolve p with
    | ok next => simp [Except.bind]
    | error first => simp [Except.bind]

end Payload
end TopicBridge
