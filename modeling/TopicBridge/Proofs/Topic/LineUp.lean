import Mathlib.Data.List.Basic
import TopicBridge.Topic.Pattern

/-! # Lining up topics with patterns

The levels of a topic that the filter of a pattern selects stand against the tokens of the pattern
one by one, and a final multi wildcard stands against all levels that are left. -/

namespace TopicBridge

theorem levels_ne_nil (topic : String) : levels topic ≠ [] := Text.split_ne_nil '/' topic.toList

/-! ## Filters -/

namespace Filter

theorem walk_self (ls : List Level) : walk ls ls = true := by
  induction ls with
  | nil => rfl
  | cons l ls ih => simp [walk, ih]

/-- What a filter selects can be walked through, whichever way it was selected. -/
theorem walk_of_selects {filter topic : String} (h : selects filter topic = true) :
    walk (levels filter) (levels topic) = true := by
  simp only [selects, Bool.and_eq_true, Bool.or_eq_true, beq_iff_eq] at h
  obtain ⟨-, (rfl | rfl) | h⟩ := h
  · exact walk_self _
  · rfl
  · exact h

theorem isValid_of_selects {filter topic : String} (h : selects filter topic = true) :
    isValid filter = true := by
  simp only [selects, Bool.and_eq_true] at h
  exact h.1.1

theorem validLevels_of_isValid {filter : String} (h : isValid filter = true) :
    validLevels (levels filter) = true := by
  simp only [isValid, Bool.and_eq_true] at h
  exact h.2

end Filter

namespace Token

/-! ## Tokens and levels -/

/-- The level that stands for a token in a filter. -/
def normalLevel (t : Token) : Level := t.normalized.toList

@[simp] theorem normalLevel_literal (text : String) :
    (literal text).normalLevel = text.toList := rfl

@[simp] theorem normalLevel_single (name : String) : (single name).normalLevel = ['+'] := by
  simp [normalLevel, normalized]

@[simp] theorem normalLevel_multi (name : String) : (multi name).normalLevel = ['#'] := by
  simp [normalLevel, normalized]

/-- The text of a literal is a level and does not start like a wildcard. -/
def Written : Token → Prop
  | literal text => '/' ∉ text.toList ∧ text.toList.head? ≠ some '+' ∧ text.toList.head? ≠ some '#'
  | _ => True

theorem written_ofLevel {l : Level} (h : '/' ∉ l) : (ofLevel l).Written := by
  unfold ofLevel
  split
  · trivial
  · trivial
  · next hplus hhash =>
      simp only [Written, String.toList_ofList]
      refine ⟨h, ?_, ?_⟩
      · intro hhead
        obtain ⟨name, rfl⟩ := List.head?_eq_some_iff.mp hhead
        exact hplus name rfl
      · intro hhead
        obtain ⟨name, rfl⟩ := List.head?_eq_some_iff.mp hhead
        exact hhash name rfl

theorem sep_not_mem_normalLevel {t : Token} (h : t.Written) : '/' ∉ t.normalLevel := by
  cases t with
  | literal text => exact h.1
  | single name => simp
  | multi name => simp

end Token

/-- What compiling a pattern gives: a token for each of its levels, and no validators. -/
theorem Pattern.eq_of_compile {source : String} {p : Pattern} (h : compile source = .ok p) :
    p = ⟨source, (levels source).map Token.ofLevel, .empty⟩ := by
  simp only [compile] at h
  split at h
  · cases h
    rfl
  · cases h

theorem Pattern.written_of_compile {source : String} {p : Pattern} (h : compile source = .ok p) :
    ∀ t ∈ p.tokens, t.Written := by
  rw [eq_of_compile h]
  intro t ht
  obtain ⟨l, hl, rfl⟩ := List.mem_map.mp ht
  exact Token.written_ofLevel (Text.not_mem_of_mem_split hl)

/-- The levels of the filter of a pattern are those of its tokens. -/
theorem Pattern.levels_normalized {source : String} {p : Pattern} (h : compile source = .ok p) :
    levels p.normalized = p.tokens.map Token.normalLevel := by
  have hne : p.tokens ≠ [] := by
    rw [eq_of_compile h]
    simpa using levels_ne_nil source
  have hmap : (p.tokens.map Token.normalized).map String.toList =
      p.tokens.map Token.normalLevel := by
    simp [Token.normalLevel]
  rw [levels, normalized, Text.joined, String.toList_ofList, hmap]
  apply Text.split_join
  · simpa using hne
  · intro l hl
    obtain ⟨t, ht, rfl⟩ := List.mem_map.mp hl
    exact Token.sep_not_mem_normalLevel (written_of_compile h t ht)

namespace Token

/-- The levels of a topic face the tokens of a pattern. -/
inductive Faces : List Token → List Level → Prop where
  | nil : Faces [] []
  | multi (name ls) : Faces [multi name] ls
  | literal {text ts ls} : Faces ts ls → Faces (literal text :: ts) (text.toList :: ls)
  | single {name l ts ls} : Faces ts ls → Faces (single name :: ts) (l :: ls)

/-- Where the filter of tokens is valid and selects levels, the levels face the tokens. -/
theorem faces_of_walk {tokens : List Token} {ls : List Level} (hw : ∀ t ∈ tokens, t.Written)
    (hvalid : Filter.validLevels (tokens.map normalLevel) = true)
    (hwalk : Filter.walk (tokens.map normalLevel) ls = true) : Faces tokens ls := by
  induction tokens generalizing ls with
  | nil =>
      have hnil : ls = [] := by simpa [Filter.walk] using hwalk
      rw [hnil]
      exact .nil
  | cons t ts ih =>
      have hts := fun u hu => hw u (List.mem_cons_of_mem t hu)
      have htail : Filter.validLevels (ts.map normalLevel) = true := by
        cases ts with
        | nil => rfl
        | cons u us =>
            simp only [List.map_cons, Filter.validLevels, Bool.and_eq_true] at hvalid
            exact hvalid.2
      cases t with
      | multi name =>
          -- A multi wildcard in front of other tokens makes the filter invalid.
          cases ts with
          | nil => exact .multi name ls
          | cons u us =>
              simp only [List.map_cons, Filter.validLevels, Bool.and_eq_true] at hvalid
              exact absurd hvalid.1 (by simp [Filter.plainOrSingle])
      | single name =>
          cases ls with
          | nil => exact absurd hwalk (by simp [Filter.walk])
          | cons l ls =>
              refine .single (ih hts htail ?_)
              simpa [Filter.walk] using hwalk
      | literal text =>
          obtain ⟨-, hplus, hhash⟩ := hw (.literal text) (List.mem_cons_self ..)
          have hne : text.toList ≠ ['#'] := fun h => hhash (by rw [h]; rfl)
          have hne' : text.toList ≠ ['+'] := fun h => hplus (by rw [h]; rfl)
          cases ls with
          | nil => exact absurd hwalk (by simp [Filter.walk, hne])
          | cons l ls =>
              simp only [List.map_cons, Filter.walk, normalLevel_literal, hne, if_false,
                Bool.and_eq_true, Bool.or_eq_true, beq_iff_eq, hne', false_or] at hwalk
              rw [← hwalk.1]
              exact .literal (ih hts htail hwalk.2)

end Token

theorem Pattern.faces_of_selects {source topic : String} {p : Pattern}
    (h : compile source = .ok p) (hs : Filter.selects p.normalized topic = true) :
    Token.Faces p.tokens (levels topic) := by
  have hlevels := levels_normalized h
  refine Token.faces_of_walk (written_of_compile h) ?_ ?_
  · rw [← hlevels]
    exact Filter.validLevels_of_isValid (Filter.isValid_of_selects hs)
  · rw [← hlevels]
    exact Filter.walk_of_selects hs

/-! ## Lining up -/

/-- A level that a wildcard can take: it is not empty and holds no wildcard character. -/
def PlainLevel (l : Level) : Prop := l ≠ [] ∧ '+' ∉ l ∧ '#' ∉ l

instance : DecidablePred PlainLevel := fun l =>
  inferInstanceAs (Decidable (l ≠ [] ∧ '+' ∉ l ∧ '#' ∉ l))

/-- The levels that a final multi wildcard covers. An empty last level is left out, once. -/
def covered (ls : List Level) : List Level :=
  if ls.getLast? = some [] then ls.dropLast else ls

@[simp] theorem covered_nil : covered [] = [] := rfl

theorem covered_singleton {l : Level} (h : l ≠ []) : covered [l] = [l] := by
  simp [covered, h]

theorem covered_cons {l : Level} {ls : List Level} (h : ls ≠ []) :
    covered (l :: ls) = l :: covered ls := by
  obtain ⟨k, ks, rfl⟩ := List.exists_cons_of_ne_nil h
  simp only [covered, List.getLast?_cons_cons]
  split <;> simp

/-- Only an empty topic starts with a level that is left out. -/
theorem covered_cons_of_not_empty {l : Level} {ls : List Level} (h : ¬ (l = [] ∧ ls = [])) :
    covered (l :: ls) = l :: covered ls := by
  by_cases hls : ls = []
  · subst hls
    exact covered_singleton fun hl => h ⟨hl, rfl⟩
  · exact covered_cons hls

namespace Token

/-- Each token with the levels that it faces. -/
def lineUp : List Token → List Level → List (Token × List Level)
  | [multi name], ls => [(multi name, covered ls)]
  | t :: ts, l :: ls => (t, [l]) :: lineUp ts ls
  | _, _ => []

/-- Every level that a wildcard faces is one that it can take. -/
def Fits (tokens : List Token) (ls : List Level) : Prop :=
  ∀ x ∈ lineUp tokens ls, x.1.isWildcard = true → ∀ l ∈ x.2, PlainLevel l

instance (tokens : List Token) (ls : List Level) : Decidable (Fits tokens ls) :=
  inferInstanceAs (Decidable (∀ x ∈ lineUp tokens ls, x.1.isWildcard = true → ∀ l ∈ x.2,
    PlainLevel l))

/-- What a token captures of the levels that it faces. -/
def value? : Token → List Level → Option Capture
  | literal _, _ => none
  | single _, ls => ls.head?.map fun l => .single (String.ofList l)
  | multi _, ls => some (.multi (ls.map String.ofList))

/-- A capture under a name, unless the name is missing. -/
def named (name : String) (value : Capture) : List (String × Capture) :=
  if name.isEmpty then [] else [(name, value)]

/-- What tokens capture of the levels that stand for them. -/
def valuesOf (filling : List (Token × List Level)) : List (String × Capture) :=
  filling.filterMap fun (t, ls) => do return (← t.name?, ← t.value? ls)

@[simp] theorem valuesOf_nil : valuesOf [] = [] := rfl

@[simp] theorem valuesOf_literal (text : String) (ls : List Level)
    (filling : List (Token × List Level)) :
    valuesOf ((literal text, ls) :: filling) = valuesOf filling := rfl

theorem valuesOf_cons {t : Token} {name : String} {ls : List Level} {value : Capture}
    (hname : t.name? = if name.isEmpty then none else some name) (hvalue : t.value? ls = some value)
    (filling : List (Token × List Level)) :
    valuesOf ((t, ls) :: filling) = named name value ++ valuesOf filling := by
  by_cases h : name.isEmpty = true
  · simp only [valuesOf, List.filterMap_cons, hname, named, if_pos h]
    rfl
  · simp only [valuesOf, List.filterMap_cons, hname, hvalue, named, if_neg h]
    rfl

theorem valuesOf_single (name : String) (l : Level) (filling : List (Token × List Level)) :
    valuesOf ((single name, [l]) :: filling) =
      named name (.single (String.ofList l)) ++ valuesOf filling :=
  valuesOf_cons rfl rfl filling

theorem valuesOf_multi (name : String) (ls : List Level) (filling : List (Token × List Level)) :
    valuesOf ((multi name, ls) :: filling) =
      named name (.multi (ls.map String.ofList)) ++ valuesOf filling :=
  valuesOf_cons rfl rfl filling

/-- The captures of the named wildcards in the order of the tokens. -/
def values (tokens : List Token) (ls : List Level) : List (String × Capture) :=
  (lineUp tokens ls).filterMap fun (t, ls) => do return (← t.name?, ← t.value? ls)

theorem values_single (name : String) (l : Level) (ts : List Token) (ls : List Level) :
    values (single name :: ts) (l :: ls) =
      named name (.single (String.ofList l)) ++ values ts ls :=
  valuesOf_single name l (lineUp ts ls)

theorem values_multi (name : String) (ls : List Level) :
    values [multi name] ls = named name (.multi ((covered ls).map String.ofList)) := by
  have h := valuesOf_multi name (covered ls) []
  rwa [valuesOf_nil, List.append_nil] at h

end Token

end TopicBridge
