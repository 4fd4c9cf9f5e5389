import Mathlib.Data.List.Forall2
import TopicBridge.Proofs.Topic.Gathering

/-! # Fillings

Levels that stand for the tokens of a pattern in a topic: the text of a literal, one level for a
single wildcard, any number of levels for a multi wildcard. -/

namespace TopicBridge

/-- A level that a wildcard takes whole: not empty and free of `/`, `+` and `#`. -/
def Takeable (l : Level) : Prop := PlainLevel l ∧ '/' ∉ l

instance : DecidablePred Takeable := fun l =>
  inferInstanceAs (Decidable (PlainLevel l ∧ '/' ∉ l))

theorem Takeable.ne_nil {l : Level} (h : Takeable l) : l ≠ [] := h.1.1

theorem mem_of_mem_covered {l : Level} {ls : List Level} (h : l ∈ covered ls) : l ∈ ls := by
  unfold covered at h
  split at h
  · exact List.dropLast_subset ls h
  · exact h

theorem covered_of_takeable {ls : List Level} (h : ∀ l ∈ ls, Takeable l) : covered ls = ls :=
  if_neg fun hlast => (h [] (List.mem_of_getLast? hlast)).ne_nil rfl

namespace Token

/-- Levels that may stand for a token. -/
inductive Fills : Token → List Level → Prop where
  | literal (text : String) : Fills (literal text) [text.toList]
  | single {name : String} {l : Level} : Takeable l → Fills (single name) [l]
  | multi {name : String} {ls : List Level} : (∀ l ∈ ls, Takeable l) → Fills (multi name) ls

/-- Levels of which a token makes one capture if it has a name: any level for a single wildcard, any
levels for a multi wildcard. -/
inductive Shaped : Token → List Level → Prop where
  | literal (text : String) : Shaped (literal text) [text.toList]
  | single (name : String) (l : Level) : Shaped (single name) [l]
  | multi (name : String) (ls : List Level) : Shaped (multi name) ls

theorem Fills.shaped {t : Token} {part : List Level} (h : Fills t part) : Shaped t part := by
  cases h with
  | literal text => exact .literal text
  | single _ => exact .single _ _
  | multi _ => exact .multi _ _

theorem map_fst_named (name : String) (value : Capture) :
    (named name value).map (·.1) = (if name.isEmpty then none else some name).toList := by
  unfold named
  split <;> rfl

theorem map_fst_valuesOf_of_shaped {ts : List Token} {parts : List (List Level)}
    (h : List.Forall₂ Shaped ts parts) :
    (valuesOf (ts.zip parts)).map (·.1) = ts.filterMap name? := by
  induction h with
  | nil => rfl
  | @cons t part ts parts hshape _ ih =>
      rw [List.zip_cons_cons, List.filterMap_cons]
      cases hshape with
      | literal text =>
          rw [valuesOf_literal, ih]
          rfl
      | single name l =>
          rw [valuesOf_single, List.map_append, map_fst_named, ih]
          simp only [name?]
          split <;> rfl
      | multi name ls =>
          rw [valuesOf_multi, List.map_append, map_fst_named, ih]
          simp only [name?]
          split <;> rfl

theorem map_fst_valuesOf {ts : List Token} {parts : List (List Level)}
    (h : List.Forall₂ Fills ts parts) :
    (valuesOf (ts.zip parts)).map (·.1) = ts.filterMap name? :=
  map_fst_valuesOf_of_shaped (h.imp fun _ _ => Fills.shaped)

end Token

/-! ## Captures under different names -/

namespace Captures

theorem place_of_not_mem {name : String} {entries : List (String × Capture)}
    (h : name ∉ entries.map (·.1)) (value : Capture) :
    place name value entries = entries ++ [(name, value)] := by
  induction entries with
  | nil => rfl
  | cons entry rest ih =>
      simp only [List.map_cons, List.mem_cons, not_or] at h
      rw [place, if_neg (Ne.symm h.1), ih h.2, List.cons_append]

/-- Values under different names are all kept, in order. -/
theorem ofList_of_nodup {entries : List (String × Capture)} (h : (entries.map (·.1)).Nodup) :
    ofList entries = ⟨entries⟩ := by
  induction entries using List.reverseRecOn with
  | nil => rfl
  | append_singleton entries entry ih =>
      rw [List.map_append, List.nodup_append] at h
      have hnew : entry.1 ∉ entries.map (·.1) := fun hmem =>
        h.2.2 entry.1 hmem entry.1 List.mem_cons_self rfl
      rw [ofList_append_singleton, ih h.1, insert, place_of_not_mem hnew]

theorem get?_eq_of_mem {entries : List (String × Capture)} (h : (entries.map (·.1)).Nodup)
    {name : String} {value : Capture} (hmem : (name, value) ∈ entries) :
    (Captures.mk entries).get? name = some value := by
  induction entries with
  | nil => cases hmem
  | cons entry rest ih =>
      rw [List.map_cons, List.nodup_cons] at h
      rcases List.mem_cons.mp hmem with rfl | hmem
      · simp [get?]
      · have hne : entry.1 ≠ name := by
          rintro rfl
          exact h.1 (List.mem_map.mpr ⟨_, hmem, rfl⟩)
        simpa [get?, hne] using ih h.2 hmem

end Captures

/-- A preferred way that takes levels for names that are all different gives these levels. -/
theorem Pattern.parse_of_fills {p : Pattern} {topic : String} {parts : List (List Level)}
    {t : Regex.Spot} (hfills : List.Forall₂ Token.Fills p.tokens parts) (hnames : p.names.Nodup)
    (h : Token.Takes p topic.toList 1 p.tokens (Token.valuesOf (p.tokens.zip parts))
      (.front topic.toList) t) :
    p.isMatch topic = true ∧
      p.parse topic = .captured ⟨Token.valuesOf (p.tokens.zip parts)⟩ := by
  have hkeys : ((Token.valuesOf (p.tokens.zip parts)).map (·.1)).Nodup := by
    rw [Token.map_fst_valuesOf hfills]
    exact hnames
  rw [← Captures.ofList_of_nodup hkeys]
  exact parse_of_takes h

/-! ## Levels with slashes behind them -/

/-- Levels with a slash behind each of them. -/
def closed (ls : List Level) : List Char := ls.flatMap (· ++ ['/'])

@[simp] theorem closed_nil : closed [] = [] := rfl

@[simp] theorem closed_cons (l : Level) (ls : List Level) :
    closed (l :: ls) = l ++ '/' :: closed ls := by
  simp [closed]

theorem join_append {ls : List Level} (hls : ls ≠ []) (ks : List Level) :
    Text.join '/' (ks ++ ls) = closed ks ++ Text.join '/' ls := by
  induction ks with
  | nil => rfl
  | cons k ks ih =>
      rw [List.cons_append, Text.join_cons_of_ne_nil _ _ (by simp [hls]), ih, closed_cons,
        List.append_assoc, List.cons_append]

theorem closed_eq_join (ls : List Level) : closed ls = Text.join '/' (ls ++ [[]]) := by
  rw [join_append (by simp), Text.join, List.append_nil]

theorem Pattern.levelsOfGroup_closed {ls : List Level} (hsep : ∀ l ∈ ls, '/' ∉ l) :
    levelsOfGroup (closed ls) = ls := by
  rw [closed_eq_join, levelsOfGroup_join]
  · simp [covered]
  · intro l hl
    rcases List.mem_append.mp hl with hl | hl
    · exact hsep l hl
    · simp [List.mem_singleton.mp hl]

end TopicBridge
