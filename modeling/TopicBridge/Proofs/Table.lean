import Mathlib.Data.List.Induction
import Mathlib.Data.List.Sort
import TopicBridge.Table

/-! # Tables of a list -/

namespace TopicBridge

variable {α : Type}

/-- A key behind all others is put at the end. -/
theorem insertSorted_append (key : String) (value : α) {entries : List (String × α)}
    (h : ∀ e ∈ entries, e.1 < key) :
    insertSorted key value entries = entries ++ [(key, value)] := by
  induction entries with
  | nil => rfl
  | cons e entries ih =>
      obtain ⟨k, v⟩ := e
      have hk : k < key := h (k, v) List.mem_cons_self
      have hne : key ≠ k := fun heq => String.lt_irrefl k (heq ▸ hk)
      have hrest := ih fun e he => h e (List.mem_cons_of_mem _ he)
      rw [insertSorted, if_neg (String.lt_asymm hk), if_neg hne, hrest, List.cons_append]

theorem insertSorted_insertSorted (key : String) (v w : α) (entries : List (String × α)) :
    insertSorted key w (insertSorted key v entries) = insertSorted key w entries := by
  induction entries with
  | nil => simp [insertSorted]
  | cons e entries ih =>
      obtain ⟨k, x⟩ := e
      simp only [insertSorted]
      split
      · simp [insertSorted]
      · split
        · simp [insertSorted]
        · next hlt hne => simp [insertSorted, hlt, hne, ih]

theorem lookup?_eq_some_iff {entries : List (String × α)} (h : Increasing entries) (key : String)
    (value : α) : lookup? key entries = some value ↔ (key, value) ∈ entries := by
  induction entries with
  | nil => simp [lookup?]
  | cons e entries ih =>
      obtain ⟨k, v⟩ := e
      obtain ⟨hfirst, hrest⟩ := List.pairwise_cons.mp h
      rw [lookup?, List.mem_cons, ← ih hrest, Prod.mk.injEq]
      by_cases hk : k = key
      · subst hk
        have hlater : lookup? k entries ≠ some value := fun hv =>
          String.lt_irrefl k (hfirst _ ((ih hrest).mp hv))
        simp [hlater, eq_comm]
      · simp [hk, Ne.symm hk]

namespace Table

/-- Of two values that are set under a key the second one counts. -/
theorem insert_insert (t : Table α) (key : String) (v w : α) :
    (t.insert key v).insert key w = t.insert key w := by
  simp only [insert, insertSorted_insertSorted]

/-- What is found in a table are its entries. -/
theorem get?_eq_some_iff (t : Table α) (key : String) (value : α) :
    t.get? key = some value ↔ (key, value) ∈ t.entries :=
  lookup?_eq_some_iff t.increasing key value

/-- Tables in which the same is found are equal. -/
theorem eq_of_get?_eq {t u : Table α} (h : ∀ key, t.get? key = u.get? key) : t = u := by
  have hirrefl : Std.Irrefl fun a b : String × α => a.1 < b.1 := ⟨fun a => String.lt_irrefl a.1⟩
  have hentries : t.entries = u.entries := by
    refine t.increasing.eq_of_mem_iff u.increasing fun e => ?_
    rw [← get?_eq_some_iff, ← get?_eq_some_iff, h]
  rwa [← Table.mk.injEq] at hentries

theorem nodup_keys (t : Table α) : t.keys.Nodup := by
  rw [keys, List.nodup_iff_pairwise_ne, List.pairwise_map]
  refine t.increasing.imp ?_
  intro a b hlt heq
  rw [heq] at hlt
  exact String.lt_irrefl _ hlt

theorem ofList_append_singleton (entries : List (String × α)) (e : String × α) :
    ofList (entries ++ [e]) = (ofList entries).insert e.1 e.2 := by
  simp [ofList, insertAll]

theorem mem_of_mem_ofList {entries : List (String × α)} {e : String × α}
    (h : e ∈ (ofList entries).entries) : e ∈ entries := by
  induction entries using List.reverseRecOn with
  | nil => exact h
  | append_singleton entries last ih =>
      rw [ofList_append_singleton] at h
      rcases mem_insertSorted h with rfl | h
      · simp
      · exact List.mem_append_left _ (ih h)

theorem entries_ofList {entries : List (String × α)} (h : Increasing entries) :
    (ofList entries).entries = entries := by
  induction entries using List.reverseRecOn with
  | nil => rfl
  | append_singleton entries last ih =>
      obtain ⟨hentries, -, hlast⟩ := List.pairwise_append.mp h
      have hbehind : ∀ e ∈ entries, e.1 < last.1 := fun e he => hlast e he last (by simp)
      rw [ofList_append_singleton]
      change insertSorted last.1 last.2 (ofList entries).entries = _
      rw [ih hentries]
      exact insertSorted_append last.1 last.2 hbehind

/-- Setting the values of a table one after the other makes the table. -/
theorem ofList_entries (t : Table α) : ofList t.entries = t := by
  have h := entries_ofList t.increasing
  rwa [← Table.mk.injEq] at h

/-- The entries of a table with values of a kind. -/
def filter (p : α → Bool) (t : Table α) : Table α :=
  ⟨t.entries.filter (p ·.2), t.increasing.filter _⟩

end Table

end TopicBridge
