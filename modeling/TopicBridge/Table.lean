/-! # Tables

A table holds values under keys, each key once and the keys in order, so two tables with the same
values under the same keys are equal. Setting a value changes what is found under its key and
nothing else.
-/

namespace TopicBridge

variable {α β : Type}

/-- Puts a value under a key into a list sorted by key, in place of an earlier value. -/
def insertSorted (key : String) (value : α) : List (String × α) → List (String × α)
  | [] => [(key, value)]
  | (k, v) :: rest =>
    if key < k then (key, value) :: (k, v) :: rest
    else if key = k then (key, value) :: rest
    else (k, v) :: insertSorted key value rest

/-- The list sorted by key in which a later value of a key replaces an earlier one. -/
def sortMembers (members : List (String × α)) : List (String × α) :=
  members.foldl (fun acc (k, v) => insertSorted k v acc) []

/-- The first value under a key. -/
def lookup? (key : String) : List (String × α) → Option α
  | [] => none
  | (k, v) :: rest => if k = key then some v else lookup? key rest

/-- The keys of a list increase. -/
def Increasing (entries : List (String × α)) : Prop :=
  entries.Pairwise fun a b => a.1 < b.1

theorem mem_insertSorted {key : String} {value : α} {entries : List (String × α)}
    {e : String × α} (h : e ∈ insertSorted key value entries) : e = (key, value) ∨ e ∈ entries := by
  induction entries with
  | nil => simpa [insertSorted] using h
  | cons head rest ih =>
    obtain ⟨k, v⟩ := head
    simp only [insertSorted] at h
    split at h
    · exact List.mem_cons.1 h
    · split at h
      · rcases List.mem_cons.1 h with h | h
        · exact .inl h
        · exact .inr (List.mem_cons_of_mem _ h)
      · rcases List.mem_cons.1 h with h | h
        · exact .inr (h ▸ List.mem_cons_self ..)
        · exact (ih h).imp_right (List.mem_cons_of_mem _)

theorem increasing_insertSorted {entries : List (String × α)} (h : Increasing entries)
    (key : String) (value : α) : Increasing (insertSorted key value entries) := by
  induction entries with
  | nil => simp [insertSorted, Increasing]
  | cons head rest ih =>
    obtain ⟨k, v⟩ := head
    have hk : ∀ e ∈ rest, k < e.1 := fun e he => List.rel_of_pairwise_cons h he
    have hrest : Increasing rest := List.Pairwise.of_cons h
    simp only [insertSorted]
    split
    · next hlt =>
      refine List.pairwise_cons.2 ⟨fun e he => ?_, h⟩
      rcases List.mem_cons.1 he with rfl | he
      · exact hlt
      · exact String.lt_trans hlt (hk _ he)
    · next hlt =>
      split
      · next heq => exact List.pairwise_cons.2 ⟨fun e he => heq ▸ hk _ he, hrest⟩
      · next heq =>
        refine List.pairwise_cons.2 ⟨fun e he => ?_, ih hrest⟩
        rcases mem_insertSorted he with rfl | he
        · exact Std.lt_of_le_of_ne (String.not_lt.1 hlt) (Ne.symm heq)
        · exact hk _ he

theorem lookup?_insertSorted (key : String) (value : α) (entries : List (String × α))
    (other : String) :
    lookup? other (insertSorted key value entries) =
      if key = other then some value else lookup? other entries := by
  induction entries with
  | nil => simp [insertSorted, lookup?]
  | cons head rest ih =>
    obtain ⟨k, v⟩ := head
    simp only [insertSorted]
    split
    · simp [lookup?]
    · split
      · next heq => subst heq; by_cases ho : key = other <;> simp [lookup?, ho]
      · next heq =>
        simp only [lookup?, ih]
        by_cases hk : k = other
        · have : key ≠ other := fun h => heq (h.trans hk.symm)
          simp [hk, this]
        · simp [hk]

/-- Values under keys, sorted by key. -/
structure Table (α : Type) where
  entries : List (String × α)
  increasing : Increasing entries
  deriving DecidableEq, Repr

namespace Table

/-- The table without keys. -/
def empty : Table α := ⟨[], .nil⟩

instance : Inhabited (Table α) := ⟨empty⟩

/-- Sets the value under a key. -/
def insert (t : Table α) (key : String) (value : α) : Table α :=
  ⟨insertSorted key value t.entries, increasing_insertSorted t.increasing key value⟩

/-- The value under a key. -/
def get? (t : Table α) (key : String) : Option α := lookup? key t.entries

/-- Sets the values of a list, one after the other. -/
def insertAll (t : Table α) (entries : List (String × α)) : Table α :=
  entries.foldl (fun t (k, v) => t.insert k v) t

/-- The table of a list; the last value of a key counts. -/
def ofList (entries : List (String × α)) : Table α := empty.insertAll entries

/-- The table with every value changed. -/
def map (f : α → β) (t : Table α) : Table β :=
  ⟨t.entries.map fun (k, v) => (k, f v), by
    rw [Increasing, List.pairwise_map]; exact t.increasing⟩

/-- The keys in order. -/
def keys (t : Table α) : List String := t.entries.map (·.1)

/-- Whether a table has no keys. -/
def isEmpty (t : Table α) : Bool := t.entries.isEmpty

theorem get?_empty (key : String) : (empty : Table α).get? key = none := rfl

/-- Setting a value changes what is found under its key and nothing else. -/
theorem get?_insert (t : Table α) (key : String) (value : α) (other : String) :
    (t.insert key value).get? other = if key = other then some value else t.get? other :=
  lookup?_insertSorted key value t.entries other

end Table

end TopicBridge
