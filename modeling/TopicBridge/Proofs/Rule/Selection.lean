import TopicBridge.Proofs.Rule.Binding
import TopicBridge.Proofs.Rule.Reference
import TopicBridge.Proofs.Topic.Matching

/-! # What a filter selects

A filter selects the topics whose levels pass its own one by one; behind a final `#` any levels may
follow. The filters that may be subscribed to are those that select some topic, so an entry is
refused for its filter just when no message could ever come to its rule. -/

namespace TopicBridge

namespace Filter

/-! ## Wildcards in their places -/

/-- Wildcards stand only where they may: `+` as a whole level, and `#` as the whole last level. -/
structure WellPlaced (ls : List Level) : Prop where
  single : ∀ l ∈ ls, '+' ∈ l → l = ['+']
  multi : ∀ front l back, ls = front ++ l :: back → '#' ∈ l → l = ['#'] ∧ back = []

theorem wellPlaced_nil : WellPlaced [] where
  single := by simp
  multi := by simp

theorem wellPlaced_cons (l : Level) (ls : List Level) :
    WellPlaced (l :: ls) ↔
      ('+' ∈ l → l = ['+']) ∧ ('#' ∈ l → l = ['#'] ∧ ls = []) ∧ WellPlaced ls := by
  constructor
  · intro h
    refine ⟨h.single l List.mem_cons_self, h.multi [] l ls rfl, ?_, ?_⟩
    · intro k hk
      exact h.single k (List.mem_cons_of_mem l hk)
    · intro front k back hls
      exact h.multi (l :: front) k back (by rw [hls, List.cons_append])
  · rintro ⟨hsingle, hmulti, h⟩
    refine ⟨List.forall_mem_cons.mpr ⟨hsingle, h.single⟩, ?_⟩
    intro front k back hls
    cases front with
    | nil =>
        obtain ⟨rfl, rfl⟩ := List.cons.inj hls
        exact hmulti
    | cons j front => exact h.multi front k back (List.cons.inj hls).2

theorem plainOrSingle_iff (l : Level) :
    plainOrSingle l = true ↔ ('+' ∈ l → l = ['+']) ∧ '#' ∉ l := by
  simp only [plainOrSingle, Bool.or_eq_true, beq_iff_eq, Bool.and_eq_true, Bool.not_eq_true',
    List.contains_eq_mem, decide_eq_false_iff_not]
  constructor
  · rintro (rfl | ⟨hplus, hhash⟩)
    · exact ⟨fun _ => rfl, by decide⟩
    · exact ⟨fun h => absurd h hplus, hhash⟩
  · rintro ⟨hplus, hhash⟩
    by_cases h : '+' ∈ l
    · exact .inl (hplus h)
    · exact .inr ⟨h, hhash⟩

/-- The check of a filter is about the places of its wildcards. -/
theorem validLevels_iff (ls : List Level) : validLevels ls = true ↔ WellPlaced ls := by
  induction ls with
  | nil => simp [validLevels, wellPlaced_nil]
  | cons l ls ih =>
      rw [wellPlaced_cons]
      by_cases hls : ls = []
      · subst hls
        rw [validLevels, Bool.or_eq_true, beq_iff_eq, plainOrSingle_iff]
        constructor
        · rintro (rfl | ⟨hplus, hhash⟩)
          · exact ⟨by decide, by simp, wellPlaced_nil⟩
          · exact ⟨hplus, fun h => absurd h hhash, wellPlaced_nil⟩
        · rintro ⟨hplus, hhash, -⟩
          by_cases h : '#' ∈ l
          · exact .inl (hhash h).1
          · exact .inr ⟨hplus, h⟩
      · have hvalid : validLevels (l :: ls) = (plainOrSingle l && validLevels ls) := by
          obtain ⟨k, ks, rfl⟩ := List.exists_cons_of_ne_nil hls
          rfl
        rw [hvalid, Bool.and_eq_true, plainOrSingle_iff, ih]
        simp [hls, and_assoc]

theorem isValid_iff (filter : String) :
    isValid filter = true ↔ filter ≠ "" ∧ WellPlaced (levels filter) := by
  simp [isValid, validLevels_iff]

/-! ## Levels that pass -/

/-- A level of a filter lets a level of a topic pass. -/
def Passes (l t : Level) : Prop := l = ['+'] ∨ l = t

/-- The levels of a filter cover those of a topic: one by one, or one by one up to a final `#`, with
any levels behind. -/
inductive Covers : List Level → List Level → Prop where
  | upTo {front between rest} : List.Forall₂ Passes front between →
      Covers (front ++ [['#']]) (between ++ rest)
  | whole {fs ts} : (∀ l ∈ fs, '#' ∉ l) → List.Forall₂ Passes fs ts → Covers fs ts

theorem Covers.cons {l t : Level} {fs ts : List Level} (hl : '#' ∉ l) (hp : Passes l t)
    (h : Covers fs ts) : Covers (l :: fs) (t :: ts) := by
  cases h with
  | upTo hfront =>
      rw [← List.cons_append, ← List.cons_append]
      exact .upTo (.cons hp hfront)
  | whole hfree hall => exact .whole (List.forall_mem_cons.mpr ⟨hl, hfree⟩) (.cons hp hall)

/-- A filter whose first level is not `#` takes a level of the topic. -/
theorem Covers.exists_of_cons {l : Level} {fs ts : List Level} (hl : l ≠ ['#'])
    (h : Covers (l :: fs) ts) : ∃ u us, ts = u :: us ∧ Passes l u ∧ Covers fs us := by
  generalize hall : l :: fs = all at h
  cases h with
  | @upTo front between rest hfront =>
      cases hfront with
      | nil => exact absurd (List.cons.inj hall).1 hl
      | cons hp htail =>
          obtain ⟨rfl, rfl⟩ := List.cons.inj hall
          exact ⟨_, _, rfl, hp, .upTo htail⟩
  | whole hfree hone =>
      subst hall
      cases hone with
      | cons hp htail => exact ⟨_, _, rfl, hp, .whole (fun k hk => hfree k (by simp [hk])) htail⟩

/-- The walk level by level goes through just when the filter covers the topic. -/
theorem walk_iff {fs : List Level} (h : WellPlaced fs) (ts : List Level) :
    walk fs ts = true ↔ Covers fs ts := by
  induction fs generalizing ts with
  | nil =>
      rw [walk, List.isEmpty_iff]
      constructor
      · rintro rfl
        exact .whole (by simp) .nil
      · intro hc
        generalize hnil : [] = fs at hc
        cases hc with
        | upTo _ => simp at hnil
        | whole _ hall =>
            subst hnil
            cases hall
            rfl
  | cons l fs ih =>
      obtain ⟨-, hhash, hfs⟩ := (wellPlaced_cons l fs).mp h
      by_cases hl : l = ['#']
      · obtain ⟨-, rfl⟩ := hhash (by simp [hl])
        subst hl
        exact iff_of_true rfl (@Covers.upTo [] [] ts .nil)
      · have hfree : '#' ∉ l := fun hmem => hl (hhash hmem).1
        constructor
        · intro hw
          cases ts with
          | nil => simp [walk, hl] at hw
          | cons t ts =>
              simp only [walk, hl, if_false, Bool.and_eq_true, Bool.or_eq_true, beq_iff_eq] at hw
              exact .cons hfree hw.1 ((ih hfs ts).mp hw.2)
        · intro hc
          obtain ⟨u, us, rfl, hp, htail⟩ := hc.exists_of_cons hl
          simp only [walk, hl, if_false, Bool.and_eq_true, Bool.or_eq_true, beq_iff_eq]
          exact ⟨hp, (ih hfs us).mpr htail⟩

/-! ## Hidden topics -/

/-- The filter has a wildcard in the first level, and the topic starts with `$`. -/
def Hidden (filter topic : String) : Prop :=
  topic.toList.head? = some '$' ∧
    ((levels filter).head? = some ['+'] ∨ (levels filter).head? = some ['#'])

/-- In a well-formed filter a wildcard in front is the first level. -/
theorem head?_eq_some_iff {filter : String} (h : WellPlaced (levels filter)) {c : Char}
    (hc : c = '+' ∨ c = '#') :
    filter.toList.head? = some c ↔ (levels filter).head? = some [c] := by
  constructor
  · intro hhead
    obtain ⟨cs, hcs⟩ := List.head?_eq_some_iff.mp hhead
    have hsep : '/' ∉ [c] := by rcases hc with rfl | rfl <;> decide
    obtain ⟨l, ls, hsplit⟩ := List.exists_cons_of_ne_nil (Text.split_ne_nil '/' cs)
    have hlevels : levels filter = (c :: l) :: ls := by
      rw [levels, hcs]
      exact Text.split_append_cons hsep hsplit
    rw [hlevels] at h ⊢
    have hwhole : c :: l = [c] := by
      obtain ⟨hsingle, hmulti, -⟩ := (wellPlaced_cons _ _).mp h
      rcases hc with rfl | rfl
      · exact hsingle List.mem_cons_self
      · exact (hmulti List.mem_cons_self).1
    rw [hwhole]
    rfl
  · intro hhead
    obtain ⟨ls, hls⟩ := List.head?_eq_some_iff.mp hhead
    have htext : filter.toList = Text.join '/' (levels filter) := (Text.join_split '/' _).symm
    rw [htext, hls, Token.join_cons]
    rfl

theorem hides_iff {filter topic : String} (h : WellPlaced (levels filter)) :
    hides filter.toList topic.toList = true ↔ Hidden filter topic := by
  simp [hides, Hidden, head?_eq_some_iff h]

/-! ## Selecting -/

/-- Neither shortcut, that the filter is the topic or `#` alone, answers otherwise than the walk. -/
theorem selects_eq_walk (filter topic : String) :
    selects filter topic =
      (isValid filter && !hides filter.toList topic.toList &&
        walk (levels filter) (levels topic)) := by
  have hshort : (filter == topic || filter == "#") = true →
      walk (levels filter) (levels topic) = true := by
    rw [Bool.or_eq_true, beq_iff_eq, beq_iff_eq]
    rintro (rfl | rfl)
    · exact walk_self _
    · rfl
  rw [selects]
  cases hs : filter == topic || filter == "#" with
  | false => rw [Bool.false_or]
  | true => rw [hshort hs, Bool.true_or]

theorem selects_iff (filter topic : String) :
    selects filter topic = true ↔
      (filter ≠ "" ∧ WellPlaced (levels filter)) ∧ ¬ Hidden filter topic ∧
        Covers (levels filter) (levels topic) := by
  rw [selects_eq_walk, Bool.and_eq_true, Bool.and_eq_true, Bool.not_eq_true', isValid_iff,
    and_assoc]
  refine and_congr_right fun h => ?_
  rw [walk_iff h.2, ← hides_iff h.2, Bool.not_eq_true]

/-! ## Topics within reach -/

/-- A level without wildcards that passes a level of a filter. -/
def sample (l : Level) : Level := if l = ['+'] ∨ l = ['#'] then ['x'] else l

/-- A topic that a filter selects if it selects any. -/
def sampleTopic (filter : String) : String :=
  String.ofList (Text.join '/' ((levels filter).map sample))

theorem not_mem_sample {c : Char} (hc : c ≠ 'x') {l : Level} (h : c ∈ l → l = ['+'] ∨ l = ['#']) :
    c ∉ sample l := by
  unfold sample
  split
  · simpa using hc
  · next hplain => exact fun hmem => hplain (h hmem)

theorem covers_sample {fs : List Level} (h : WellPlaced fs) : Covers fs (fs.map sample) := by
  induction fs with
  | nil => exact .whole (by simp) .nil
  | cons l fs ih =>
      obtain ⟨-, hhash, hfs⟩ := (wellPlaced_cons l fs).mp h
      by_cases hl : l = ['#']
      · obtain ⟨-, rfl⟩ := hhash (by simp [hl])
        subst hl
        exact @Covers.upTo [] [] _ .nil
      · have hpasses : Passes l (sample l) := by
          by_cases hplus : l = ['+']
          · exact .inl hplus
          · exact .inr (by simp [sample, hl, hplus])
        exact .cons (fun hmem => hl (hhash hmem).1) hpasses (ih hfs)

theorem levels_sampleTopic (filter : String) :
    levels (sampleTopic filter) = (levels filter).map sample := by
  rw [levels, sampleTopic, String.toList_ofList]
  apply Text.split_join
  · simpa using levels_ne_nil filter
  · intro t ht
    obtain ⟨l, hl, rfl⟩ := List.mem_map.mp ht
    exact not_mem_sample (by decide) fun hmem => absurd hmem (Text.not_mem_of_mem_split hl)

theorem not_hidden_sampleTopic (filter : String) : ¬ Hidden filter (sampleTopic filter) := by
  rintro ⟨hdollar, hwild⟩
  obtain ⟨l, ls, hsplit⟩ := List.exists_cons_of_ne_nil (levels_ne_nil filter)
  have hl : l = ['+'] ∨ l = ['#'] := by simpa [hsplit] using hwild
  have hx : sample l = ['x'] := if_pos hl
  rw [sampleTopic, hsplit, List.map_cons, hx, Token.join_cons, String.toList_ofList] at hdollar
  cases hdollar

/-- A filter that may be subscribed to selects a topic, even one without wildcard characters. -/
theorem selects_sampleTopic {filter : String} (h : isValid filter = true) :
    selects filter (sampleTopic filter) = true := by
  obtain ⟨hne, hplaced⟩ := (isValid_iff filter).mp h
  refine (selects_iff filter _).mpr ⟨⟨hne, hplaced⟩, not_hidden_sampleTopic filter, ?_⟩
  rw [levels_sampleTopic]
  exact covers_sample hplaced

theorem not_mem_sampleTopic {filter : String} (h : isValid filter = true) {c : Char}
    (hc : c = '+' ∨ c = '#') : c ∉ (sampleTopic filter).toList := by
  obtain ⟨-, hplaced⟩ := (isValid_iff filter).mp h
  have hsep : c ≠ '/' := by rcases hc with rfl | rfl <;> decide
  have hx : c ≠ 'x' := by rcases hc with rfl | rfl <;> decide
  rw [sampleTopic, String.toList_ofList, Text.not_mem_join hsep]
  intro t ht
  obtain ⟨l, hl, rfl⟩ := List.mem_map.mp ht
  refine not_mem_sample hx fun hmem => ?_
  rcases hc with rfl | rfl
  · exact .inl (hplaced.single l hl hmem)
  · obtain ⟨front, back, hls⟩ := List.append_of_mem hl
    exact .inr (hplaced.multi front l back hls hmem).1

end Filter

/-- An entry with a pattern that compiles is refused for its filter if and only if there is no
message that a rule with this filter would be asked about. -/
theorem Rule.unsubscribable_iff {e : RuleEntry} {topic : String} {p : Pattern}
    (ht : e.topic = some topic) (hp : Pattern.compile topic = .ok p) :
    bind e = .error (.unsubscribable p.normalized) ↔
      ∀ r : Rule, r.normalized = p.normalized → ∀ m, r.outcome? m = none := by
  constructor
  · generalize p.normalized = filter
    intro h r hr m
    cases (bindDerivation_iff e _).mpr h with
    | unsubscribable _ _ hf =>
        have hselects : Filter.selects r.normalized m.topic = false := by
          rw [hr, Filter.selects_eq_walk, hf]
          rfl
        exact (OutcomeDerivation.unselected hselects).execution
  · intro h
    have hf : Filter.isValid p.normalized = false := by
      by_contra hvalid
      have hselects := Filter.selects_sampleTopic ((Bool.not_eq_false _).mp hvalid)
      have hnone := h (ofPattern p) rfl ⟨Filter.sampleTopic p.normalized, [], 0, false⟩
      rw [outcome?] at hnone
      simp [normalized, ofPattern, hselects] at hnone
    exact (BindDerivation.unsubscribable ht hp hf).execution

namespace Filter

/-- What a filter selects, and when an entry is refused for its filter. -/
structure SelectionSpec (filter : String) : Prop where
  valid : isValid filter = true ↔ filter ≠ "" ∧ WellPlaced (levels filter)
  selected : ∀ topic, selects filter topic = true ↔
    (filter ≠ "" ∧ WellPlaced (levels filter)) ∧ ¬ Hidden filter topic ∧
      Covers (levels filter) (levels topic)
  /-- The shortcuts for the topic itself and for `#` are never needed. -/
  shortcuts : ∀ topic, selects filter topic =
    (isValid filter && !hides filter.toList topic.toList && walk (levels filter) (levels topic))
  reached : isValid filter = true ↔ ∃ topic, selects filter topic = true
  /-- A filter that selects any topic selects one that could be published. -/
  published : isValid filter = true →
    ∃ topic, '+' ∉ topic.toList ∧ '#' ∉ topic.toList ∧ selects filter topic = true
  refused : ∀ (e : RuleEntry) (topic : String) (p : Pattern), e.topic = some topic →
    Pattern.compile topic = .ok p → p.normalized = filter →
      (Rule.bind e = .error (.unsubscribable filter) ↔
        ∀ r : Rule, r.normalized = filter → ∀ m, r.outcome? m = none)

theorem selection_spec (filter : String) : SelectionSpec filter where
  valid := isValid_iff filter
  selected := selects_iff filter
  shortcuts := selects_eq_walk filter
  reached :=
    ⟨fun h => ⟨sampleTopic filter, selects_sampleTopic h⟩, fun ⟨_, h⟩ => isValid_of_selects h⟩
  published := fun h =>
    ⟨sampleTopic filter, not_mem_sampleTopic h (.inl rfl), not_mem_sampleTopic h (.inr rfl),
      selects_sampleTopic h⟩
  refused := by
    rintro e topic p ht hp rfl
    exact Rule.unsubscribable_iff ht hp

end Filter

end TopicBridge
