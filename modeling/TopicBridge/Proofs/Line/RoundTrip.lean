import TopicBridge.Proofs.Line.Values

/-! # Lines say what records hold

The line of a record is read back unless a name in it ends in a backslash. -/

namespace TopicBridge

/-- A record without the tags and fields that have no place in a line. -/
def Record.cleaned (r : Record) : Record where
  measurement := r.measurement
  fields := r.fields.filter Line.isWritable
  tags := r.tags.filter fun s => !s.isEmpty

namespace Line

/-- A name whose last character is a backslash. -/
def EndsInBackslash (s : String) : Prop := s.toList.getLast? = some '\\'

/-- No name of a record ends in a backslash. Texts of fields stand between quotes and may. -/
structure Clear (r : Record) : Prop where
  measurement : ∀ name, r.measurement = some name → ¬ EndsInBackslash name
  tagKeys : ∀ t ∈ r.tags.entries, ¬ EndsInBackslash t.1
  tagTexts : ∀ t ∈ r.tags.entries, ¬ EndsInBackslash t.2
  fieldKeys : ∀ f ∈ r.fields.entries, ¬ EndsInBackslash f.1

/-- A line says all of a record and nothing else; numbers with a point are as they are printed. -/
structure Contents.Says (c : Contents) (r : Record) : Prop where
  measurement : r.measurement = some c.measurement
  fields : c.fields = r.fields.map Written.ofValue
  tags : c.tags = r.tags

/-! ## What is written is read -/

theorem readKey_name {key : String} (hkey : ¬ EndsInBackslash key) (rest : List Char) :
    readKey (name key ++ '=' :: rest) = some (key, rest) := by
  have hread := @readName_mark nameMarks ['='] key.toList (by decide) (by decide) (.inr hkey) '='
    (by decide) rest
  rw [readKey, show name key = mark nameMarks key.toList from rfl, hread]
  simp only [String.ofList_toList]

/-- The next tag starts with a comma, and the fields with a space. -/
theorem tags_starts (tags : List (String × String)) (rest : List Char) :
    ∃ stop others, tags.flatMap (fun (k, s) => tag k s) ++ ' ' :: rest = stop :: others ∧
      stop ∈ [',', ' '] := by
  cases tags with
  | nil => exact ⟨' ', rest, rfl, by decide⟩
  | cons t tags => exact ⟨',', _, rfl, by decide⟩

theorem readTags_tags {tags : List (String × String)} (rest : List Char)
    (h : ∀ t ∈ tags, ¬ EndsInBackslash t.1 ∧ ¬ EndsInBackslash t.2) :
    readTags (tags.flatMap (fun (k, s) => tag k s) ++ ' ' :: rest) = some (tags, rest) := by
  induction tags with
  | nil => rw [List.flatMap_nil, List.nil_append, readTags]
  | cons t tags ih =>
      obtain ⟨key, text⟩ := t
      obtain ⟨hkey, htext⟩ := h _ List.mem_cons_self
      have hrest := ih fun t ht => h t (List.mem_cons_of_mem _ ht)
      obtain ⟨stop, others, hothers, hstop⟩ := tags_starts tags rest
      have hread := @readName_mark nameMarks [',', ' '] text.toList (by decide) (by decide)
        (.inr htext) stop hstop others
      rw [List.flatMap_cons, List.append_assoc, hothers]
      simp only [tag, List.cons_append, List.append_assoc]
      rw [readTags, readKey_name hkey]
      simp only
      rw [show name text = mark nameMarks text.toList from rfl, hread]
      simp only
      rw [← hothers, hrest, Option.map_some, String.ofList_toList]

theorem readFields_fields {entries : List (String × Value)} (hne : entries ≠ [])
    (hwritable : ∀ f ∈ entries, isWritable f.2) (h : ∀ f ∈ entries, ¬ EndsInBackslash f.1) :
    readFields (fields entries) = some (entries.map fun (k, v) => (k, .ofValue v)) := by
  induction entries with
  | nil => exact absurd rfl hne
  | cons f entries ih =>
      obtain ⟨key, v⟩ := f
      have hkey := h _ List.mem_cons_self
      have hv := hwritable _ List.mem_cons_self
      cases entries with
      | nil =>
          have hvalue := @readValue_value v hv [] (by simp)
          rw [List.append_nil] at hvalue
          simp only [fields, List.map_cons, List.map_nil, Text.join, field]
          rw [readFields, readKey_name hkey]
          simp only
          rw [hvalue]
      | cons g entries =>
          have hvalue := @readValue_value v hv (',' :: fields (g :: entries)) (by simp)
          have hrest := ih (by simp) (fun f hf => hwritable f (List.mem_cons_of_mem _ hf))
            fun f hf => h f (List.mem_cons_of_mem _ hf)
          have hline : fields ((key, v) :: g :: entries) =
              name key ++ '=' :: (value v ++ ',' :: fields (g :: entries)) := by
            simp [fields, Text.join_cons_cons, field]
          rw [hline, readFields, readKey_name hkey]
          simp only
          rw [hvalue]
          simp only
          rw [hrest, Option.map_some]
          rfl

/-! ## No name that is read ends in a backslash -/

theorem not_ends_of_readKey {s rest : List Char} {key : String} (h : readKey s = some (key, rest)) :
    ¬ EndsInBackslash key := by
  rw [readKey] at h
  split at h
  · next k r hr =>
      cases h
      have hlast := @getLast?_readName nameMarks ['='] s (by decide) (by decide) (by simp [hr])
      rwa [hr, ← String.toList_ofList (l := k)] at hlast
  · cases h

theorem not_ends_of_readTags {s rest : List Char} {tags : List (String × String)}
    (h : readTags s = some (tags, rest)) :
    ∀ t ∈ tags, ¬ EndsInBackslash t.1 ∧ ¬ EndsInBackslash t.2 := by
  induction s using readTags.induct generalizing tags with
  | case1 s key t hkey ih =>
      rw [readTags, hkey] at h
      simp only at h
      obtain ⟨⟨others, behind⟩, hothers, heq⟩ := Option.map_eq_some_iff.mp h
      cases heq
      have hnonempty : (readName nameMarks [',', ' '] t).2 ≠ [] := by
        intro hnil
        rw [hnil] at hothers
        simp [readTags] at hothers
      have htext := @getLast?_readName nameMarks [',', ' '] t (by decide) (by decide) hnonempty
      intro p hp
      rcases List.mem_cons.mp hp with rfl | hp
      · exact ⟨not_ends_of_readKey hkey, by rwa [EndsInBackslash, String.toList_ofList]⟩
      · exact ih hothers p hp
  | case2 s hkey =>
      rw [readTags, hkey] at h
      simp at h
  | case3 s =>
      rw [readTags] at h
      cases h
      simp
  | case4 s hcomma hspace => simp [readTags] at h

theorem not_ends_of_readFields {s : List Char} {entries : List (String × Written)}
    (h : readFields s = some entries) : ∀ f ∈ entries, ¬ EndsInBackslash f.1 := by
  induction s using readFields.induct generalizing entries with
  | case1 s key t hkey v hvalue =>
      rw [readFields, hkey] at h
      simp only at h
      rw [hvalue] at h
      cases h
      intro f hf
      rw [List.mem_singleton.mp hf]
      exact not_ends_of_readKey hkey
  | case2 s key t hkey v rest hvalue ih =>
      rw [readFields, hkey] at h
      simp only at h
      rw [hvalue] at h
      obtain ⟨others, hothers, heq⟩ := Option.map_eq_some_iff.mp h
      cases heq
      intro f hf
      rcases List.mem_cons.mp hf with rfl | hf
      · exact not_ends_of_readKey hkey
      · exact ih hothers f hf
  | case3 s key t hkey hend hcomma =>
      rw [readFields, hkey] at h
      simp only at h
      cases h
  | case4 s hkey =>
      rw [readFields, hkey] at h
      cases h

theorem clear_of_read? {line : String} {c : Contents} {r : Record} (h : read? line = some c)
    (hsaid : c.Says r) : Clear r := by
  rw [read?] at h
  split at h
  · next tags rest htags =>
      obtain ⟨entries, hfields, heq⟩ := Option.map_eq_some_iff.mp h
      subst heq
      have hnonempty : (readName measurementMarks [',', ' '] line.toList).2 ≠ [] := by
        intro hnil
        rw [hnil] at htags
        simp [readTags] at htags
      have hname := @getLast?_readName measurementMarks [',', ' '] line.toList (by decide)
        (by decide) hnonempty
      have hrtags : ∀ t ∈ r.tags.entries, t ∈ tags := by
        intro t ht
        rw [← hsaid.tags] at ht
        exact Table.mem_of_mem_ofList ht
      refine ⟨?_, fun t ht => (not_ends_of_readTags htags t (hrtags t ht)).1,
        fun t ht => (not_ends_of_readTags htags t (hrtags t ht)).2, ?_⟩
      · intro name hr
        rw [hsaid.measurement, Option.some.injEq] at hr
        rwa [← hr, EndsInBackslash, String.toList_ofList]
      · intro f hf
        have hread : (f.1, Written.ofValue f.2) ∈ entries := by
          have hmem : (f.1, Written.ofValue f.2) ∈ (r.fields.map Written.ofValue).entries :=
            List.mem_map.mpr ⟨f, hf, rfl⟩
          rw [← hsaid.fields] at hmem
          exact Table.mem_of_mem_ofList hmem
        exact not_ends_of_readFields hfields _ hread
  · cases h

/-! ## Lines -/

theorem read?_line {r : Record} {measurement line : String} (hm : r.measurement = some measurement)
    (hline : r.lineOf measurement = .ok line) (hclear : Clear r.cleaned) :
    read? line = some ⟨measurement, r.cleaned.fields.map Written.ofValue, r.cleaned.tags⟩ := by
  rw [Record.lineOf] at hline
  split at hline
  · cases hline
  · next hne =>
      cases hline
      have htags := @readTags_tags (keptTags r) (fields (keptFields r)) fun t ht =>
        ⟨hclear.tagKeys t ht, hclear.tagTexts t ht⟩
      have hfields := @readFields_fields (keptFields r) (by simpa using hne)
        (fun f hf => (List.mem_filter.mp hf).2) hclear.fieldKeys
      obtain ⟨stop, others, hothers, hstop⟩ :=
        tags_starts (keptTags r) (fields (keptFields r))
      have hname := @readName_mark measurementMarks [',', ' '] measurement.toList (by decide)
        (by decide) (.inr (hclear.measurement _ hm)) stop hstop others
      have htext : Line.measurement measurement ++
            (keptTags r).flatMap (fun (k, s) => tag k s) ++ ' ' :: fields (keptFields r) =
          mark measurementMarks measurement.toList ++ stop :: others := by
        rw [List.append_assoc, hothers]
        rfl
      have hrtags : Table.ofList (keptTags r) = r.cleaned.tags := r.cleaned.tags.ofList_entries
      have hrfields : Table.ofList ((keptFields r).map fun (k, v) => (k, Written.ofValue v)) =
          r.cleaned.fields.map Written.ofValue :=
        (r.cleaned.fields.map Written.ofValue).ofList_entries
      rw [read?, String.toList_ofList, htext, hname]
      simp only
      rw [← hothers, htags]
      simp only
      rw [hfields, Option.map_some, String.ofList_toList, hrfields, hrtags]

/-- What is written with marks is the text after one replacement per character. -/
structure MarkedInTurn : Prop where
  measurement : ∀ s, Line.measurement s = markInTurn [',', ' '] s.toList
  name : ∀ s, Line.name s = markInTurn [',', '=', ' '] s.toList
  /-- The backslash comes first, so that those in front of quotes are not marked again. -/
  text : ∀ s, value (.text s) = '"' :: markInTurn ['\\', '"'] s.toList ++ ['"']

theorem markedInTurn : MarkedInTurn where
  measurement s := (markInTurn_eq_mark (by decide) (by decide) s.toList).symm
  name s := (markInTurn_eq_mark (by decide) (by decide) s.toList).symm
  text s := by rw [markInTurn_eq_mark (by decide) (by decide), value]

/-- Whether a record has a line, and when the line says what the record holds. -/
structure LineSpec (r : Record) : Prop where
  noMeasurement : r.line = .error .noMeasurement ↔ r.measurement = none ∨ r.measurement = some ""
  noFields : ∀ name, r.line = .error (.noFields name) ↔
    r.measurement = some name ∧ name ≠ "" ∧ r.cleaned.fields.entries = []
  written : (∃ line, r.line = .ok line) ↔
    ∃ name, r.measurement = some name ∧ name ≠ "" ∧ r.cleaned.fields.entries ≠ []
  faithful : ∀ line, r.line = .ok line →
    ((∃ c, read? line = some c ∧ c.Says r.cleaned) ↔ Clear r.cleaned)
  marks : MarkedInTurn

theorem lineOf_of_empty {r : Record} (name : String) (h : r.cleaned.fields.entries = []) :
    r.lineOf name = .error (.noFields name) := by
  rw [Record.lineOf, show keptFields r = [] from h]
  rfl

theorem lineOf_of_nonempty {r : Record} (name : String) (h : r.cleaned.fields.entries ≠ []) :
    ∃ line, r.lineOf name = .ok line := by
  have hkept : (keptFields r).isEmpty = false := List.isEmpty_eq_false_iff.mpr h
  rw [Record.lineOf, hkept]
  exact ⟨_, rfl⟩

theorem line_spec (r : Record) : LineSpec r := by
  by_cases hm : r.measurement = none ∨ r.measurement = some ""
  · have hline : r.line = .error .noMeasurement := by
      rcases hm with hm | hm <;> rw [Record.line, hm]
      rfl
    have hnone : ∀ name, r.measurement = some name → name = "" := by
      intro name hname
      rcases hm with hm | hm <;> simp_all
    refine ⟨iff_of_true hline hm, ?_, ?_, by simp [hline], markedInTurn⟩
    · intro name
      refine iff_of_false (by simp [hline]) fun h => h.2.1 (hnone name h.1)
    · refine iff_of_false (by simp [hline]) ?_
      rintro ⟨name, hname, hne, -⟩
      exact hne (hnone name hname)
  · obtain ⟨name, hname⟩ := Option.ne_none_iff_exists'.mp fun h => hm (.inl h)
    have hne : name ≠ "" := fun h => hm (.inr (h ▸ hname))
    have hline : r.line = r.lineOf name := by simp [Record.line, hname, hne]
    by_cases hfields : r.cleaned.fields.entries = []
    · have herror := lineOf_of_empty name hfields
      refine ⟨iff_of_false (by simp [hline, herror]) hm, ?_, ?_, by simp [hline, herror],
        markedInTurn⟩
      · intro other
        rw [hline, herror, hname]
        constructor
        · intro h
          cases h
          exact ⟨rfl, hne, hfields⟩
        · rintro ⟨h, -, -⟩
          cases h
          rfl
      · refine iff_of_false (by simp [hline, herror]) ?_
        rintro ⟨-, -, -, hsome⟩
        exact hsome hfields
    · obtain ⟨line, hok⟩ := lineOf_of_nonempty name hfields
      refine ⟨iff_of_false (by simp [hline, hok]) hm, ?_,
        iff_of_true ⟨line, hline.trans hok⟩ ⟨name, hname, hne, hfields⟩, ?_, markedInTurn⟩
      · intro other
        exact iff_of_false (by simp [hline, hok]) fun h => hfields h.2.2
      · intro text htext
        rw [hline] at htext
        constructor
        · rintro ⟨c, hread, hsaid⟩
          exact clear_of_read? hread hsaid
        · intro hclear
          exact ⟨_, read?_line hname htext hclear, ⟨hname, rfl, rfl⟩⟩

/- A backslash in the middle stands for itself, and one at the end marks the comma behind it. -/
example : read? "a\\b,k=v f=-1i" =
    some ⟨"a\\b", .ofList [("f", .int (-1))], .ofList [("k", "v")]⟩ := by
  cbv

example : read? "a\\,k=v f=-1i" = some ⟨"a,k=v", .ofList [("f", .int (-1))], .empty⟩ := by
  cbv

end Line
end TopicBridge
