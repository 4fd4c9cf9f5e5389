import Mathlib.Data.List.Induction
import TopicBridge.Proofs.FirstOccurrence
import TopicBridge.Topic.Captures

/-! # Captures keep the first position and the last value of a name -/

namespace TopicBridge.Captures

/-- The captures of a list of values: each name once, in the order in which the names came first,
and under each name the value that came last. -/
structure Collects (entries : List (String × Capture)) (c : Captures) : Prop where
  names : c.entries.map (·.1) = (entries.map (·.1)).eraseDups
  values : ∀ name, c.get? name = (entries.reverse.find? (·.1 = name)).map (·.2)

theorem map_fst_place (name : String) (value : Capture) (entries : List (String × Capture)) :
    (place name value entries).map (·.1) =
      if name ∈ entries.map (·.1) then entries.map (·.1) else entries.map (·.1) ++ [name] := by
  induction entries with
  | nil => rfl
  | cons entry rest ih =>
      obtain ⟨n, v⟩ := entry
      by_cases h : n = name
      · simp [place, h]
      · simp only [place, h, if_false, List.map_cons, ih, List.mem_cons, Ne.symm h, false_or]
        split <;> rfl

theorem find?_place (name : String) (value : Capture) (entries : List (String × Capture))
    (other : String) :
    ((place name value entries).find? (·.1 = other)).map (·.2) =
      if name = other then some value else (entries.find? (·.1 = other)).map (·.2) := by
  induction entries with
  | nil => by_cases h : name = other <;> simp [place, h]
  | cons entry rest ih =>
      obtain ⟨n, v⟩ := entry
      by_cases hn : n = name
      · subst hn
        by_cases h : n = other <;> simp [place, h]
      · simp only [place, hn, if_false, List.find?_cons]
        by_cases h : n = other
        · subst h
          simp [Ne.symm hn]
        · simpa [h] using ih

/-- Setting a value changes what is found under its name and nothing else. -/
theorem get?_insert (c : Captures) (name : String) (value : Capture) (other : String) :
    (c.insert name value).get? other = if name = other then some value else c.get? other :=
  find?_place name value c.entries other

theorem ofList_append_singleton (entries : List (String × Capture)) (name : String)
    (value : Capture) :
    ofList (entries ++ [(name, value)]) = (ofList entries).insert name value := by
  simp [ofList]

theorem collects_ofList (entries : List (String × Capture)) :
    Collects entries (ofList entries) := by
  induction entries using List.reverseRecOn with
  | nil => exact ⟨rfl, fun _ => rfl⟩
  | append_singleton entries entry ih =>
      obtain ⟨name, value⟩ := entry
      rw [ofList_append_singleton]
      refine ⟨?_, ?_⟩
      · rw [insert, map_fst_place, ih.names, List.map_append]
        simp only [List.mem_eraseDups]
        exact (eraseDups_append_singleton (entries.map (·.1)) name).symm
      · intro other
        rw [get?_insert, ih.values, List.reverse_append, List.reverse_singleton,
          List.singleton_append, List.find?_cons]
        by_cases h : name = other
        · simp [h]
        · simp [h]

end TopicBridge.Captures
