import Mathlib.Data.List.Basic
import Mathlib.Data.List.Induction

/-! # First occurrences

Names of captures, filters of groups and subscriptions stand in the order in which they came
first. -/

namespace TopicBridge

variable {α : Type} [BEq α] [LawfulBEq α]

theorem eraseDups_append_singleton (as : List α) (a : α) [Decidable (a ∈ as)] :
    (as ++ [a]).eraseDups = if a ∈ as then as.eraseDups else as.eraseDups ++ [a] := by
  rw [List.eraseDups_append]
  by_cases h : a ∈ as
  · simp [List.removeAll, h]
  · simp [List.removeAll, h, List.eraseDups_cons]

theorem nodup_eraseDups (as : List α) : as.eraseDups.Nodup := by
  induction as using List.reverseRecOn with
  | nil => exact List.nodup_nil
  | append_singleton as a ih =>
      rw [eraseDups_append_singleton]
      split
      · exact ih
      · next ha =>
          refine List.nodup_append.mpr ⟨ih, by simp, ?_⟩
          intro b hb c hc heq
          rw [heq, List.mem_singleton.mp hc] at hb
          exact ha (List.mem_eraseDups.mp hb)

theorem eraseDups_of_nodup {as : List α} (h : as.Nodup) : as.eraseDups = as := by
  induction as using List.reverseRecOn with
  | nil => rfl
  | append_singleton as a ih =>
      obtain ⟨has, -, hout⟩ := List.nodup_append.mp h
      rw [eraseDups_append_singleton, if_neg fun ha => hout a ha a List.mem_cons_self rfl, ih has]

/-- It makes no difference whether elements are left out before or after. -/
theorem eraseDups_filter (p : α → Bool) (as : List α) :
    (as.filter p).eraseDups = as.eraseDups.filter p := by
  induction as using List.reverseRecOn with
  | nil => rfl
  | append_singleton as a ih =>
      rw [List.filter_append, eraseDups_append_singleton]
      by_cases hp : p a
      · rw [List.filter_cons_of_pos hp, List.filter_nil, eraseDups_append_singleton, ih]
        by_cases ha : a ∈ as
        · simp [ha, hp]
        · simp [ha, hp]
      · rw [List.filter_cons_of_neg hp, List.filter_nil, List.append_nil, ih]
        split
        · rfl
        · simp [hp]

end TopicBridge
