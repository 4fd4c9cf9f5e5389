/-! # Splitting text on a separator

A text is cut at every occurrence of a separator character, and the pieces joined with that
character give the text back. Topics are cut at `/`, paths into documents at `,`.
-/

namespace TopicBridge.Text

/-- The pieces between the occurrences of `sep`; even the empty text has one. -/
def split (sep : Char) : List Char → List (List Char)
  | [] => [[]]
  | c :: cs =>
    if c = sep then [] :: split sep cs
    else
      match split sep cs with
      | [] => [[c]]
      | piece :: pieces => (c :: piece) :: pieces

/-- The pieces in order with `sep` between neighbours. -/
def join (sep : Char) : List (List Char) → List Char
  | [] => []
  | [piece] => piece
  | piece :: pieces => piece ++ sep :: join sep pieces

/-- The pieces of a string between the occurrences of `sep`. -/
def pieces (sep : Char) (s : String) : List String :=
  (split sep s.toList).map String.ofList

/-- The strings in order with `sep` between neighbours. -/
def joined (sep : Char) (xs : List String) : String :=
  String.ofList (join sep (xs.map String.toList))

/-- What follows `lead` in `s`, if `s` starts with it. -/
def afterLead? : (lead s : List Char) → Option (List Char)
  | [], s => some s
  | _ :: _, [] => none
  | c :: lead, d :: s => if c = d then afterLead? lead s else none

/-! ## Laws -/

theorem split_ne_nil (sep : Char) (s : List Char) : split sep s ≠ [] := by
  cases s with
  | nil => simp [split]
  | cons c cs =>
    simp only [split]
    split
    · simp
    · split <;> simp

theorem split_sep_cons (sep : Char) (cs : List Char) :
    split sep (sep :: cs) = [] :: split sep cs := by
  simp [split]

theorem join_cons_cons (sep : Char) (p q : List Char) (ps : List (List Char)) :
    join sep (p :: q :: ps) = p ++ sep :: join sep (q :: ps) := rfl

theorem join_cons_of_ne_nil (sep : Char) (p : List Char) {ps : List (List Char)} (h : ps ≠ []) :
    join sep (p :: ps) = p ++ sep :: join sep ps := by
  cases ps with
  | nil => exact absurd rfl h
  | cons q ps => rfl

/-- Nothing is lost: the pieces joined again are the text. -/
theorem join_split (sep : Char) (s : List Char) : join sep (split sep s) = s := by
  induction s with
  | nil => rfl
  | cons c cs ih =>
    simp only [split]
    split
    · next h => rw [join_cons_of_ne_nil _ _ (split_ne_nil sep cs), ih, h]; rfl
    · next h =>
      cases hs : split sep cs with
      | nil => exact absurd hs (split_ne_nil sep cs)
      | cons p ps =>
        rw [hs] at ih
        cases ps with
        | nil => simpa [join] using ih
        | cons q qs => simpa [join] using ih

theorem not_mem_of_mem_split {sep : Char} {s p : List Char} (h : p ∈ split sep s) : sep ∉ p := by
  induction s generalizing p with
  | nil => simp [split] at h; simp [h]
  | cons c cs ih =>
    simp only [split] at h
    split at h
    · rcases List.mem_cons.1 h with rfl | h
      · simp
      · exact ih h
    · next hc =>
      cases hs : split sep cs with
      | nil => exact absurd hs (split_ne_nil sep cs)
      | cons q qs =>
        rw [hs] at h ih
        rcases List.mem_cons.1 h with rfl | h
        · simp only [List.mem_cons, not_or]
          exact ⟨fun e => hc e.symm, ih (List.mem_cons_self ..)⟩
        · exact ih (List.mem_cons_of_mem _ h)

theorem split_append_of_not_mem {sep : Char} {p : List Char} (h : sep ∉ p) (s : List Char) :
    split sep (p ++ sep :: s) = p :: split sep s := by
  induction p with
  | nil => simp [split]
  | cons c cs ih =>
    simp only [List.mem_cons, not_or] at h
    simp only [List.cons_append, split]
    rw [if_neg (fun e => h.1 e.symm), ih h.2]

/-- A separator divides a text into two whose pieces follow each other. -/
theorem split_append_sep (sep : Char) (p q : List Char) :
    split sep (p ++ sep :: q) = split sep p ++ split sep q := by
  induction p with
  | nil => exact split_sep_cons sep q
  | cons c cs ih =>
    by_cases hc : c = sep
    · rw [hc, List.cons_append, split_sep_cons, split_sep_cons, ih, List.cons_append]
    · simp only [List.cons_append, split, if_neg hc, ih]
      cases hs : split sep cs with
      | nil => exact absurd hs (split_ne_nil sep cs)
      | cons piece pieces => rfl

theorem split_of_not_mem {sep : Char} {p : List Char} (h : sep ∉ p) : split sep p = [p] := by
  induction p with
  | nil => rfl
  | cons c cs ih =>
    simp only [List.mem_cons, not_or] at h
    simp only [split]
    rw [if_neg (fun e => h.1 e.symm), ih h.2]

/-- What stands in front of the first separator belongs to the first piece. -/
theorem split_append_cons {sep : Char} {p s q : List Char} {qs : List (List Char)} (h : sep ∉ p)
    (hs : split sep s = q :: qs) : split sep (p ++ s) = (p ++ q) :: qs := by
  induction p with
  | nil => exact hs
  | cons c cs ih =>
    simp only [List.mem_cons, not_or] at h
    simp only [List.cons_append, split]
    rw [if_neg (fun e => h.1 e.symm), ih h.2]

/-- Pieces that hold no separator survive joining and splitting. -/
theorem split_join {sep : Char} {ps : List (List Char)} (hne : ps ≠ [])
    (h : ∀ p ∈ ps, sep ∉ p) : split sep (join sep ps) = ps := by
  induction ps with
  | nil => exact absurd rfl hne
  | cons p ps ih =>
    cases ps with
    | nil => exact split_of_not_mem (h p (List.mem_cons_self ..))
    | cons q qs =>
      rw [join_cons_cons, split_append_of_not_mem (h p (List.mem_cons_self ..)),
        ih (by simp) (fun r hr => h r (List.mem_cons_of_mem _ hr))]

/-- Strings that hold no separator survive joining and splitting. -/
theorem pieces_joined {sep : Char} {xs : List String} (hne : xs ≠ [])
    (h : ∀ x ∈ xs, sep ∉ x.toList) : pieces sep (joined sep xs) = xs := by
  have hpieces : ∀ p ∈ xs.map String.toList, sep ∉ p := by
    intro p hp
    obtain ⟨x, hx, rfl⟩ := List.mem_map.1 hp
    exact h x hx
  have hback : xs.map (String.ofList ∘ String.toList) = xs := by
    have hid : String.ofList ∘ String.toList = id := funext fun x => String.ofList_toList
    rw [hid, List.map_id]
  rw [pieces, joined, String.toList_ofList, split_join (by simpa using hne) hpieces, List.map_map,
    hback]

/-- A character that is no separator stands in one of the pieces. -/
theorem not_mem_join {sep c : Char} (hc : c ≠ sep) {ps : List (List Char)} :
    c ∉ join sep ps ↔ ∀ p ∈ ps, c ∉ p := by
  induction ps with
  | nil => simp [join]
  | cons p ps ih =>
    cases ps with
    | nil => simp [join]
    | cons q qs => simp [join_cons_cons, ih, hc]

theorem afterLead?_eq_some_iff {lead s rest : List Char} :
    afterLead? lead s = some rest ↔ s = lead ++ rest := by
  induction lead generalizing s with
  | nil => simp [afterLead?, eq_comm]
  | cons c lead ih =>
    cases s with
    | nil => simp [afterLead?]
    | cons d s =>
      by_cases h : c = d
      · simp [afterLead?, h, ih]
      · simp [afterLead?, h, Ne.symm h]

end TopicBridge.Text
