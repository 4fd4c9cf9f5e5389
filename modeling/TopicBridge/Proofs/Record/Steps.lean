import Mathlib.Data.List.Induction
import TopicBridge.Record.Basic
import TopicBridge.Record.Fault

/-! # Records step by step

A record is written in steps, each of which puts something under a key or cannot. The first step
that cannot is what a record fails for. If there is none, each key holds what was put under it last.
-/

namespace TopicBridge

/-! ## Last writes -/

section LastWrite

variable {α : Type}

/-- A value is the last one that is put under a key. -/
def LastWrite (ws : List (String × α)) (key : String) (a : α) : Prop :=
  ∃ before after, ws = before ++ (key, a) :: after ∧ ∀ w ∈ after, w.1 ≠ key

theorem not_lastWrite_nil (key : String) (a : α) : ¬ LastWrite [] key a := by
  rintro ⟨before, after, h, -⟩
  simp at h

theorem lastWrite_append_singleton (ws : List (String × α)) (w : String × α) (key : String)
    (a : α) :
    LastWrite (ws ++ [w]) key a ↔ if w.1 = key then w.2 = a else LastWrite ws key a := by
  constructor
  · rintro ⟨before, after, h, hlater⟩
    cases after using List.reverseRecOn with
    | nil =>
        obtain ⟨-, rfl⟩ := List.append_inj' h rfl |>.imp_right List.singleton_inj.mp
        simp
    | append_singleton after last =>
        rw [← List.cons_append, ← List.append_assoc] at h
        obtain ⟨rfl, hlast⟩ := List.append_inj' h rfl
        obtain rfl := List.singleton_inj.mp hlast
        rw [if_neg (hlater w (by simp))]
        exact ⟨before, after, rfl, fun x hx => hlater x (List.mem_append_left _ hx)⟩
  · intro h
    split at h
    · next hkey =>
        subst hkey h
        exact ⟨ws, [], rfl, by simp⟩
    · next hkey =>
        obtain ⟨before, after, rfl, hlater⟩ := h
        refine ⟨before, after ++ [w], by simp, fun x hx => ?_⟩
        rcases List.mem_append.mp hx with hx | hx
        · exact hlater x hx
        · exact List.mem_singleton.mp hx ▸ hkey

/-- A key that something is put under has a last value. -/
theorem exists_lastWrite_iff (ws : List (String × α)) (key : String) :
    (∃ a, LastWrite ws key a) ↔ ∃ w ∈ ws, w.1 = key := by
  induction ws using List.reverseRecOn with
  | nil => simp [not_lastWrite_nil]
  | append_singleton ws w ih =>
      simp only [lastWrite_append_singleton]
      by_cases hkey : w.1 = key
      · simp only [if_pos hkey]
        exact ⟨fun _ => ⟨w, by simp, hkey⟩, fun _ => ⟨w.2, rfl⟩⟩
      · simp only [if_neg hkey, ih, List.mem_append, List.mem_singleton]
        constructor
        · rintro ⟨x, hx, hk⟩
          exact ⟨x, .inl hx, hk⟩
        · rintro ⟨x, hx | rfl, hk⟩
          · exact ⟨x, hx, hk⟩
          · exact absurd hk hkey

end LastWrite

/-- A table holds what was put into it last under each key. -/
def Table.Holds {α : Type} (ws : List (String × Except RecordFault α)) (t : Table α) : Prop :=
  ∀ key a, t.get? key = some a ↔ LastWrite ws key (.ok a)

theorem Table.holds_empty {α : Type} : Table.Holds [] (.empty : Table α) := by
  intro key a
  simp [get?_empty, not_lastWrite_nil]

theorem Table.Holds.insert {α : Type} {ws : List (String × Except RecordFault α)} {t : Table α}
    (h : Table.Holds ws t) (key : String) (a : α) :
    Table.Holds (ws ++ [(key, .ok a)]) (t.insert key a) := by
  intro other b
  rw [get?_insert, lastWrite_append_singleton]
  by_cases hkey : key = other
  · simp [hkey]
  · simp only [if_neg hkey]
    exact h other b

/-- What an outcome failed for. -/
def faultOf? {ε α : Type} : Except ε α → Option ε
  | .ok _ => none
  | .error cause => some cause

inductive Step
  /-- Nothing more can be written. -/
  | halt (cause : RecordFault)
  | field (key : String) (value : Except RecordFault Value)
  | tag (key : String) (text : Except RecordFault String)
  | measurement (name : String)

namespace Step

def perform (r : Record) : Step → Except RecordFault Record
  | halt cause => .error cause
  | field key value => value.map (r.setField key)
  | tag key text => text.map (r.setTag key)
  | measurement name => .ok (r.setMeasurement name)

def run (steps : List Step) (r : Record) : Except RecordFault Record := steps.foldlM perform r

def fault? : Step → Option RecordFault
  | halt cause => some cause
  | field _ value => faultOf? value
  | tag _ text => faultOf? text
  | measurement _ => none

def field? : Step → Option (String × Except RecordFault Value)
  | field key value => some (key, value)
  | _ => none

def tag? : Step → Option (String × Except RecordFault String)
  | tag key text => some (key, text)
  | _ => none

def measurement? : Step → Option String
  | measurement name => some name
  | _ => none

/-! ## Faults -/

theorem perform_eq_error_iff (r : Record) (s : Step) (cause : RecordFault) :
    s.perform r = .error cause ↔ s.fault? = some cause := by
  cases s with
  | halt cause => simp [perform, fault?]
  | field key value => cases value <;> simp [perform, fault?, faultOf?, Except.map]
  | tag key text => cases text <;> simp [perform, fault?, faultOf?, Except.map]
  | measurement name => simp [perform, fault?]

theorem run_cons (s : Step) (steps : List Step) (r : Record) :
    run (s :: steps) r = s.perform r >>= run steps := by
  rw [run, List.foldlM_cons]
  rfl

theorem run_append (steps others : List Step) (r : Record) :
    run (steps ++ others) r = run steps r >>= run others := by
  rw [run, List.foldlM_append]
  rfl

theorem run_map {β : Type} (step : β → Step) (put : Record → β → Record)
    (h : ∀ r b, (step b).perform r = .ok (put r b)) (bs : List β) (r : Record) :
    run (bs.map step) r = .ok (bs.foldl put r) := by
  induction bs generalizing r with
  | nil => rfl
  | cons b bs ih =>
      rw [List.map_cons, run_cons, h, List.foldl_cons, ← ih]
      rfl

/-- Whatever was written before, the first step that cannot be taken decides. -/
theorem run_eq_error_iff (steps : List Step) (r : Record) (cause : RecordFault) :
    run steps r = .error cause ↔ (steps.filterMap fault?).head? = some cause := by
  -- What a step fails for does not hang on the record, so the record is any.
  induction steps generalizing r with
  | nil => simp [run, pure, Except.pure]
  | cons s steps ih =>
      rw [run_cons]
      cases hs : s.perform r with
      | error fault =>
          rw [List.filterMap_cons_some ((perform_eq_error_iff r s fault).mp hs)]
          simp [bind, Except.bind]
      | ok next =>
          have hnone : s.fault? = none := by
            cases hf : s.fault? with
            | none => rfl
            | some fault =>
                rw [(perform_eq_error_iff r s fault).mpr hf] at hs
                cases hs
          rw [List.filterMap_cons_none hnone]
          exact ih next

/-- A record is what steps wrote into an empty one. -/
structure Wrote (steps : List Step) (r : Record) : Prop where
  fields : r.fields.Holds (steps.filterMap field?)
  tags : r.tags.Holds (steps.filterMap tag?)
  measurement : r.measurement = (steps.filterMap measurement?).getLast?

theorem Wrote.perform {steps : List Step} {r next : Record} (h : Wrote steps r) {s : Step}
    (hs : s.perform r = .ok next) : Wrote (steps ++ [s]) next := by
  cases s with
  | halt cause => cases hs
  | field key value =>
      cases value with
      | error cause => cases hs
      | ok v =>
          cases hs
          refine ⟨?_, ?_, ?_⟩ <;> rw [List.filterMap_append]
          · exact h.fields.insert key v
          · simpa [tag?, List.filterMap_cons, Record.setField] using h.tags
          · simpa [measurement?, List.filterMap_cons, Record.setField] using h.measurement
  | tag key text =>
      cases text with
      | error cause => cases hs
      | ok text =>
          cases hs
          refine ⟨?_, ?_, ?_⟩ <;> rw [List.filterMap_append]
          · simpa [field?, List.filterMap_cons, Record.setTag] using h.fields
          · exact h.tags.insert key text
          · simpa [measurement?, List.filterMap_cons, Record.setTag] using h.measurement
  | measurement name =>
      cases hs
      refine ⟨?_, ?_, ?_⟩ <;> rw [List.filterMap_append]
      · simpa [field?, List.filterMap_cons, Record.setMeasurement] using h.fields
      · simpa [tag?, List.filterMap_cons, Record.setMeasurement] using h.tags
      · simp [measurement?, Record.setMeasurement]

theorem wrote_of_run {steps : List Step} {r : Record} (h : run steps .empty = .ok r) :
    Wrote steps r := by
  -- The last write is at the end, and so is the step that is taken off.
  induction steps using List.reverseRecOn generalizing r with
  | nil =>
      cases h
      exact ⟨Table.holds_empty, Table.holds_empty, rfl⟩
  | append_singleton steps s ih =>
      rw [run_append] at h
      cases hsteps : run steps .empty with
      | error cause =>
          rw [hsteps] at h
          cases h
      | ok before =>
          rw [hsteps] at h
          change run [s] before = .ok r at h
          rw [run, List.foldlM_cons] at h
          cases hs : s.perform before with
          | error cause =>
              rw [hs] at h
              cases h
          | ok next =>
              rw [hs] at h
              cases h
              exact (ih hsteps).perform hs

end Step
end TopicBridge
