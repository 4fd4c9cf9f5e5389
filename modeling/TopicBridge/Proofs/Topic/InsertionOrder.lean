import Mathlib.Data.Finset.Card
import TopicBridge.Proofs.Record.Steps
import TopicBridge.Proofs.Topic.Captures
import TopicBridge.Proofs.Topic.Filling

/-! # Captures as a map in the order of insertion

Whatever is set one after the other, each name stands where it was set first and holds what was set
last. Setting a value moves and changes nothing that stands under another name.
-/

namespace TopicBridge.Captures

/-! ## One insertion -/

/-- An entry under another name keeps its place and its value, and none appears. -/
theorem getElem?_place (name : String) (value : Capture) {entry : String × Capture}
    (h : entry.1 ≠ name) (entries : List (String × Capture)) (i : Nat) :
    (place name value entries)[i]? = some entry ↔ entries[i]? = some entry := by
  have hadded : (name, value) ≠ entry := fun heq => h (heq ▸ rfl)
  induction entries generalizing i with
  | nil =>
      cases i with
      | zero => simp [place, hadded]
      | succ i => simp [place]
  | cons first rest ih =>
      obtain ⟨n, v⟩ := first
      by_cases hn : n = name
      · subst hn
        have hreplaced : (n, v) ≠ entry := fun heq => h (heq ▸ rfl)
        cases i with
        | zero => simp [place, hadded, hreplaced]
        | succ i => simp [place]
      · cases i with
        | zero => simp [place, hn]
        | succ i => simpa [place, hn] using ih i

/-! ## Runs of insertions -/

theorem insertAll_empty (entries : List (String × Capture)) :
    empty.insertAll entries = ofList entries := rfl

/-- The value under a name is the one that was set last. -/
theorem get?_ofList_eq_some_iff (entries : List (String × Capture)) (name : String)
    (value : Capture) :
    (ofList entries).get? name = some value ↔ LastWrite entries name value := by
  induction entries using List.reverseRecOn with
  | nil => simp [ofList, empty, get?, not_lastWrite_nil]
  | append_singleton entries entry ih =>
      rw [ofList_append_singleton, get?_insert, lastWrite_append_singleton]
      split
      · exact Option.some_inj
      · exact ih

/-- The names in front of a name are those that were set before it was set first. -/
theorem names_of_first {entries : List (String × Capture)} {c : Captures} (h : Collects entries c)
    {before after : List String} {name : String}
    (hnames : entries.map (·.1) = before ++ name :: after) (hfirst : name ∉ before) :
    ∃ front back, c.entries.map (·.1) = front ++ name :: back ∧ ∀ n, n ∈ front ↔ n ∈ before := by
  have hlater : (name :: after).removeAll before = name :: after.removeAll before := by
    simp [List.removeAll, hfirst]
  refine ⟨before.eraseDups, ((after.removeAll before).filter fun n => !n == name).eraseDups, ?_,
    fun n => List.mem_eraseDups⟩
  rw [h.names, hnames, List.eraseDups_append, hlater, List.eraseDups_cons]

/-- What stands in captures is what is found in them. -/
theorem get?_eq_some_iff_mem {c : Captures} (h : (c.entries.map (·.1)).Nodup) (name : String)
    (value : Capture) : c.get? name = some value ↔ (name, value) ∈ c.entries := by
  refine ⟨fun hfound => ?_, get?_eq_of_mem h⟩
  rw [get?, Option.map_eq_some_iff] at hfound
  obtain ⟨entry, hentry, rfl⟩ := hfound
  have hname : entry.1 = name := by simpa using List.find?_some hentry
  exact hname ▸ List.mem_of_find?_eq_some hentry

/-- What a run of insertions leaves: a map in the order of insertion. -/
structure InsertionSpec (entries : List (String × Capture)) (c : Captures) : Prop where
  collected : c = ofList entries
  distinct : (c.entries.map (·.1)).Nodup
  /-- Names are in the order in which they were set first. -/
  order : ∀ before name after, entries.map (·.1) = before ++ name :: after → name ∉ before →
    ∃ front back, c.entries.map (·.1) = front ++ name :: back ∧ ∀ n, n ∈ front ↔ n ∈ before
  value : ∀ name value, c.get? name = some value ↔ LastWrite entries name value
  absent : ∀ name, c.get? name = none ↔ name ∉ entries.map (·.1)
  /-- Going through the entries gives the same values as asking for their names. -/
  entry : ∀ name value, (name, value) ∈ c.entries ↔ c.get? name = some value
  size : c.size = (entries.map (·.1)).toFinset.card
  /-- A name that is set once more stays where it is, and a new one comes last. -/
  place : ∀ name value, (c.insert name value).entries.map (·.1) =
    if name ∈ entries.map (·.1) then c.entries.map (·.1) else c.entries.map (·.1) ++ [name]
  others : ∀ name value other, other ≠ name →
    (c.insert name value).get? other = c.get? other ∧
      ∀ (i : Nat) (v : Capture),
        (c.insert name value).entries[i]? = some (other, v) ↔ c.entries[i]? = some (other, v)

theorem insertion_spec (entries : List (String × Capture)) :
    InsertionSpec entries (empty.insertAll entries) := by
  have hcollects := collects_ofList entries
  have hdistinct : ((ofList entries).entries.map (·.1)).Nodup :=
    hcollects.names ▸ nodup_eraseDups _
  have hmem : ∀ name, name ∈ (ofList entries).entries.map (·.1) ↔ name ∈ entries.map (·.1) := by
    intro name
    rw [hcollects.names, List.mem_eraseDups]
  rw [insertAll_empty]
  refine ⟨rfl, hdistinct, ?order, get?_ofList_eq_some_iff entries, ?absent, ?entry, ?size, ?place,
    ?others⟩
  case order =>
    intro before name after hnames hfirst
    exact names_of_first hcollects hnames hfirst
  case absent =>
    intro name
    have hset : (∃ value, (ofList entries).get? name = some value) ↔
        name ∈ entries.map (·.1) := by
      simp only [get?_ofList_eq_some_iff, exists_lastWrite_iff, List.mem_map]
    rw [← hset, Option.eq_none_iff_forall_ne_some, not_exists]
  case entry =>
    intro name value
    exact (get?_eq_some_iff_mem hdistinct name value).symm
  case size =>
    rw [size, ← List.length_map (·.1), ← List.toFinset_card_of_nodup hdistinct]
    congr 1
    ext name
    simp only [List.mem_toFinset, hmem]
  case place =>
    intro name value
    rw [insert, map_fst_place]
    simp only [hmem]
  case others =>
    intro name value other hne
    refine ⟨?_, fun i v => getElem?_place name value hne _ i⟩
    rw [get?_insert, if_neg (Ne.symm hne)]

end TopicBridge.Captures
