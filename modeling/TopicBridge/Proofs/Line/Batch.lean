import TopicBridge.Proofs.Line.Cut
import TopicBridge.Proofs.Line.RoundTrip

/-! # Lines in a body

Which line breaks a line holds, and what becomes of lines in one body. A line break in the text of a
field stands between quotes. One in a name is not marked and cuts the line in two. -/

namespace TopicBridge

/-- All that a record holds apart from the values of its fields. -/
def Record.names (r : Record) : List String :=
  r.measurement.toList ++ r.tags.entries.flatMap (fun (key, s) => [key, s]) ++
    r.fields.entries.map (·.1)

theorem Record.forall_names {r : Record} {p : String → Prop} :
    (∀ name ∈ r.names, p name) ↔ (∀ name, r.measurement = some name → p name) ∧
      (∀ t ∈ r.tags.entries, p t.1 ∧ p t.2) ∧ ∀ f ∈ r.fields.entries, p f.1 := by
  rw [names, List.forall_mem_append, List.forall_mem_append, List.forall_mem_flatMap,
    List.forall_mem_map, and_assoc]
  simp

namespace Line

/-! ## Pieces of a line -/

open Cursor

/-- The cursor at the key of a field. -/
def atKey : Cursor := ⟨.key, false⟩

/-- The cursor behind the equals sign of a field. -/
def atValue : Cursor := ⟨.value, false⟩

theorem getLastD_of_not_ends {name : String} (h : ¬ EndsInBackslash name) :
    (name.toList.map (· == '\\')).getLastD false = false := by
  rw [List.getLastD_eq_getLast?, List.getLast?_map]
  cases hlast : name.toList.getLast? with
  | none => rfl
  | some c =>
      have hne : c ≠ '\\' := by
        rintro rfl
        exact h hlast
      simp [hne]

/-- A name that does not end in a backslash leaves the cursor where it is. -/
theorem leads_name {marked : List Char} {place : Place} {name : String} (hp : place ≠ .quoted)
    (hmarks : marked ⊆ nameMarks) (hstays : ∀ c, c ∉ marked → place.next c = place)
    (hname : ¬ EndsInBackslash name) :
    Leads ⟨place, false⟩ (mark marked name.toList) ⟨place, false⟩ ('\n' ∉ name.toList) := by
  have hleads := @leads_mark ⟨place, false⟩ marked name.toList hp hmarks hstays
  rwa [getLastD_of_not_ends hname] at hleads

theorem not_mem_bare {v : Value} (hv : isWritable v) (htext : ∀ s, v ≠ .text s) {c : Char}
    (hc : c ∈ value v) : c ∉ [',', '"', '\n', '\\'] := by
  intro hmem
  have hdigit : ¬ (c.isDigit ∨ c = '-' ∨ c = '.') := by
    simp only [List.mem_cons, List.not_mem_nil, or_false] at hmem
    rcases hmem with rfl | rfl | rfl | rfl <;> decide
  cases v with
  | bool b =>
      simp only [List.mem_cons, List.not_mem_nil, or_false] at hmem
      rcases hmem with rfl | rfl | rfl | rfl <;> cases b <;> revert hc <;> decide
  | int n =>
      rcases List.mem_append.mp hc with hc | hc
      · exact hdigit ((mem_toString_int hc).imp_right .inl)
      · rw [List.mem_singleton.mp hc] at hmem
        revert hmem
        decide
  | float x => exact hdigit ((Binary64.plainDecimal_toPlain hv).mem hc)
  | text s => exact absurd rfl (htext s)

theorem leads_bare {v : Value} (hv : isWritable v) (htext : ∀ s, v ≠ .text s) :
    atValue.Leads (value v) atValue True := by
  refine .of_not_mem (fun h => not_mem_bare hv htext h (by decide)) (after_of_fixed fun c hc => ?_)
  have hout := not_mem_bare hv htext hc
  simp only [List.mem_cons, List.not_mem_nil, or_false, not_or] at hout
  simp [atValue, next, Place.next, hout]

/-- A value ends outside of quotes and breaks no line, whatever text it is. -/
theorem leads_value {v : Value} (hv : isWritable v) : atValue.Leads (value v) atValue True := by
  cases v with
  | text s =>
      have hclose : insideQuotes.Leads ['"'] atValue True := .of_not_mem (by decide) rfl
      have hinside : (atValue.next '"').Leads (mark ['\\', '"'] s.toList ++ ['"']) atValue _ :=
        (leads_mark_quoted s.toList).append hclose
      exact (hinside.cons (by decide)).congr (by simp)
  | bool b => exact leads_bare hv (by simp)
  | int n => exact leads_bare hv (by simp)
  | float x => exact leads_bare hv (by simp)

/-! ## Fields -/

theorem leads_key {key : String} (hkey : ¬ EndsInBackslash key) :
    atKey.Leads (name key) atKey ('\n' ∉ key.toList) := by
  refine leads_name (by decide) (List.Subset.refl _) (fun c hc => ?_) hkey
  have hne : c ≠ '=' := by
    rintro rfl
    exact hc (by decide)
  simp [Place.next, hne]

theorem leads_field {key : String} {v : Value} (hkey : ¬ EndsInBackslash key)
    (hv : isWritable v) : atKey.Leads (field key v) atValue ('\n' ∉ key.toList) := by
  have hvalue : (atKey.next '=').Leads (value v) atValue True := leads_value hv
  exact ((leads_key hkey).append (hvalue.cons (by decide))).congr (by simp)

theorem leads_fields {entries : List (String × Value)} (hne : entries ≠ [])
    (h : ∀ f ∈ entries, ¬ EndsInBackslash f.1 ∧ isWritable f.2) :
    atKey.Leads (fields entries) atValue (∀ f ∈ entries, '\n' ∉ f.1.toList) := by
  induction entries with
  | nil => exact absurd rfl hne
  | cons f entries ih =>
      obtain ⟨hkey, hv⟩ := h f List.mem_cons_self
      have hfield := leads_field hkey hv
      cases entries with
      | nil => exact hfield.congr (by simp)
      | cons g entries =>
          have hrest : (atValue.next ',').Leads (fields (g :: entries)) atValue _ :=
            ih (by simp) fun f hf => h f (List.mem_cons_of_mem _ hf)
          rw [List.forall_mem_cons]
          exact hfield.append (hrest.cons (by decide))

/-! ## Measurements and tags -/

/-- A name in front of the fields stays there, since its spaces are marked. -/
theorem leads_front {marked : List Char} {name : String} (hmarks : marked ⊆ nameMarks)
    (hspace : ' ' ∈ marked) (hname : ¬ EndsInBackslash name) :
    start.Leads (mark marked name.toList) start ('\n' ∉ name.toList) := by
  refine leads_name (by decide) hmarks (fun c hc => ?_) hname
  have hne : c ≠ ' ' := fun heq => hc (heq ▸ hspace)
  simp [Place.next, hne]

theorem leads_tag {key text : String} (hkey : ¬ EndsInBackslash key)
    (htext : ¬ EndsInBackslash text) :
    start.Leads (tag key text) start ('\n' ∉ key.toList ∧ '\n' ∉ text.toList) := by
  have hfront : ∀ {s}, ¬ EndsInBackslash s → start.Leads (name s) start ('\n' ∉ s.toList) :=
    leads_front (List.Subset.refl _) (by decide)
  have hequals : start.Leads ('=' :: name text) start _ := (hfront htext).cons (by decide)
  have hkeyed : (start.next ',').Leads (name key ++ '=' :: name text) start _ :=
    (hfront hkey).append hequals
  exact hkeyed.cons (by decide)

theorem leads_tags {tags : List (String × String)}
    (h : ∀ t ∈ tags, ¬ EndsInBackslash t.1 ∧ ¬ EndsInBackslash t.2) :
    start.Leads (tags.flatMap fun (k, s) => tag k s) start
      (∀ t ∈ tags, '\n' ∉ t.1.toList ∧ '\n' ∉ t.2.toList) := by
  induction tags with
  | nil => exact (Leads.nil start).congr (by simp)
  | cons t tags ih =>
      obtain ⟨hkey, htext⟩ := h t List.mem_cons_self
      have hrest := ih fun t ht => h t (List.mem_cons_of_mem _ ht)
      rw [List.flatMap_cons, List.forall_mem_cons]
      exact (leads_tag hkey htext).append hrest

/-! ## Lines -/

/-- The parts of a line. -/
theorem toList_line {r : Record} {line : String} (hline : r.line = .ok line) :
    ∃ name, r.measurement = some name ∧ keptFields r ≠ [] ∧
      line.toList = Line.measurement name ++ (keptTags r).flatMap (fun (k, s) => tag k s) ++
        ' ' :: fields (keptFields r) := by
  rw [Record.line] at hline
  split at hline
  · next name hname =>
      split at hline
      · cases hline
      · rw [Record.lineOf] at hline
        split at hline
        · cases hline
        · next hne =>
            cases hline
            exact ⟨name, hname, by simpa using hne, String.toList_ofList⟩
  · cases hline

/-- The line of a clear record ends outside of quotes. It is one line if and only if no name in it
holds a line break. -/
theorem leads_line {r : Record} {line : String} (hline : r.line = .ok line)
    (hclear : Clear r.cleaned) :
    start.Leads line.toList atValue (∀ name ∈ r.cleaned.names, '\n' ∉ name.toList) := by
  obtain ⟨name, hname, hne, htext⟩ := toList_line hline
  have hmeasurement := @leads_front measurementMarks name (by decide) (by decide)
    (hclear.measurement name hname)
  have htags := @leads_tags (keptTags r) fun t ht => ⟨hclear.tagKeys t ht, hclear.tagTexts t ht⟩
  have hfields : (start.next ' ').Leads (fields (keptFields r)) atValue _ :=
    leads_fields hne fun f hf => ⟨hclear.fieldKeys f hf, (List.mem_filter.mp hf).2⟩
  rw [htext]
  refine ((hmeasurement.append htags).append (hfields.cons (by decide))).congr ?_
  rw [Record.forall_names]
  constructor
  · rintro ⟨⟨hm, ht⟩, hf⟩
    refine ⟨fun m h => ?_, ht, hf⟩
    rwa [Option.some.inj (h.symm.trans hname)]
  · rintro ⟨hm, ht, hf⟩
    exact ⟨⟨hm name hname, ht⟩, hf⟩

/-! ## Line breaks in a line -/

theorem mem_mark {marked s : List Char} {c : Char} (hc : c ≠ '\\') :
    c ∈ mark marked s ↔ c ∈ s := by
  induction s with
  | nil => rfl
  | cons d s ih =>
      rw [mark_cons, List.mem_append, ih, List.mem_cons]
      split <;> simp [hc]

theorem break_mem_name (s : String) : '\n' ∈ name s ↔ '\n' ∈ s.toList :=
  mem_mark (by decide)

/-- A value without a line break is one whose text has none. -/
theorem break_not_mem_value {v : Value} (hv : isWritable v) :
    '\n' ∉ value v ↔ ∀ s, v = .text s → '\n' ∉ s.toList := by
  by_cases htext : ∃ s, v = .text s
  · obtain ⟨s, rfl⟩ := htext
    have hmark := @mem_mark ['\\', '"'] s.toList '\n' (by decide)
    simp [value, hmark]
  · refine iff_of_true (fun h => ?_) (fun s hs => absurd ⟨s, hs⟩ htext)
    exact not_mem_bare hv (fun s hs => htext ⟨s, hs⟩) h (by decide)

theorem break_not_mem_fields {entries : List (String × Value)}
    (h : ∀ f ∈ entries, isWritable f.2) :
    '\n' ∉ fields entries ↔ (∀ f ∈ entries, '\n' ∉ f.1.toList) ∧
      ∀ f ∈ entries, ∀ s, f.2 = .text s → '\n' ∉ s.toList := by
  rw [fields, Text.not_mem_join (by decide), List.forall_mem_map, ← forall₂_and]
  refine forall₂_congr fun f hf => ?_
  obtain ⟨key, v⟩ := f
  change '\n' ∉ name key ++ '=' :: value v ↔ _
  rw [List.mem_append, List.mem_cons, break_mem_name, not_or, not_or,
    break_not_mem_value (h _ hf), and_iff_right (by decide : '\n' ≠ '=')]

theorem break_not_mem_tags (tags : List (String × String)) :
    '\n' ∉ tags.flatMap (fun (k, s) => tag k s) ↔
      ∀ t ∈ tags, '\n' ∉ t.1.toList ∧ '\n' ∉ t.2.toList := by
  simp [List.mem_flatMap, tag, break_mem_name]

theorem break_not_mem_line {r : Record} {line : String} (hline : r.line = .ok line) :
    '\n' ∉ line.toList ↔ (∀ name ∈ r.cleaned.names, '\n' ∉ name.toList) ∧
      ∀ f ∈ r.cleaned.fields.entries, ∀ s, f.2 = .text s → '\n' ∉ s.toList := by
  obtain ⟨name, hname, hne, htext⟩ := toList_line hline
  have hm : '\n' ∉ Line.measurement name ↔ ∀ m, r.measurement = some m → '\n' ∉ m.toList := by
    rw [Line.measurement, mem_mark (by decide), hname]
    simp
  have hfields := @break_not_mem_fields (keptFields r) fun f hf => (List.mem_filter.mp hf).2
  rw [htext, List.mem_append, List.mem_append, List.mem_cons, not_or, not_or, not_or, hm,
    break_not_mem_tags, hfields, and_iff_right (by decide : '\n' ≠ ' '), Record.forall_names]
  constructor
  · rintro ⟨⟨hname, htags⟩, hkeys, htexts⟩
    exact ⟨⟨hname, htags, hkeys⟩, htexts⟩
  · rintro ⟨⟨hname, htags, hkeys⟩, htexts⟩
    exact ⟨⟨hname, htags⟩, hkeys, htexts⟩

/-! ## Batches -/

/-- The lines of records in a body. -/
def Lines (rs : List Record) (lines : List String) : Prop :=
  List.Forall₂ (fun r line => r.line = .ok line) rs lines

theorem mapM_line_cons (r : Record) (rs : List Record) :
    (r :: rs).mapM Record.line =
      match r.line with
      | .ok line => (rs.mapM Record.line).map (line :: ·)
      | .error cause => .error cause := by
  rw [List.mapM_cons]
  cases r.line with
  | error cause => rfl
  | ok line => cases rs.mapM Record.line <;> rfl

theorem batch_of_lines {rs : List Record} {lines : List String} (h : Lines rs lines) :
    Record.batch rs = .ok (Text.joined '\n' lines) := by
  have hlines : rs.mapM Record.line = .ok lines := by
    induction h with
    | nil => rfl
    | cons hline hrest ih => rw [mapM_line_cons, hline, ih]; rfl
  rw [Record.batch, hlines]
  rfl

/-- The first record without a line is the fault of a batch. -/
theorem batch_of_fault {before behind : List Record} {r : Record} {cause : LineFault}
    (hbefore : ∀ b ∈ before, ∃ line, b.line = .ok line) (hr : r.line = .error cause) :
    Record.batch (before ++ r :: behind) = .error cause := by
  have hfault : (before ++ r :: behind).mapM Record.line = .error cause := by
    induction before with
    | nil => rw [List.nil_append, mapM_line_cons, hr]
    | cons b before ih =>
        obtain ⟨line, hline⟩ := hbefore b List.mem_cons_self
        have hrest := ih fun b hb => hbefore b (List.mem_cons_of_mem _ hb)
        rw [List.cons_append, mapM_line_cons, hline, hrest]
        rfl
  rw [Record.batch, hfault]
  rfl

/-- There is a line for each record, or a first record without one. -/
theorem lines_or_fault (rs : List Record) :
    (∃ lines, Lines rs lines) ∨ ∃ before r behind cause, rs = before ++ r :: behind ∧
      (∀ b ∈ before, ∃ line, b.line = .ok line) ∧ r.line = .error cause := by
  induction rs with
  | nil => exact .inl ⟨[], .nil⟩
  | cons r rs ih =>
      cases hr : r.line with
      | error cause => exact .inr ⟨[], r, rs, cause, rfl, by simp, hr⟩
      | ok line =>
          obtain ⟨lines, hlines⟩ | ⟨before, r', behind, cause, rfl, hbefore, hfault⟩ := ih
          · exact .inl ⟨line :: lines, .cons hr hlines⟩
          · refine .inr ⟨r :: before, r', behind, cause, rfl, ?_, hfault⟩
            exact List.forall_mem_cons.mpr ⟨⟨line, hr⟩, hbefore⟩

/-- What becomes of records that are written together. -/
structure BatchSpec (rs : List Record) : Prop where
  accepted : (∃ body, Record.batch rs = .ok body) ↔ ∀ r ∈ rs, ∃ line, r.line = .ok line
  fault : ∀ cause, Record.batch rs = .error cause ↔
    ∃ before r behind, rs = before ++ r :: behind ∧
      (∀ b ∈ before, ∃ line, b.line = .ok line) ∧ r.line = .error cause
  body : ∀ body, Record.batch rs = .ok body ↔
    ∃ lines, Lines rs lines ∧ body = Text.joined '\n' lines
  /-- The line breaks of a line are the ones that the record holds. -/
  breaks : ∀ r ∈ rs, ∀ line, r.line = .ok line →
    ('\n' ∉ line.toList ↔ (∀ name ∈ r.cleaned.names, '\n' ∉ name.toList) ∧
      ∀ f ∈ r.cleaned.fields.entries, ∀ s, f.2 = .text s → '\n' ∉ s.toList)
  /-- The ones in texts of fields cut no line, and the ones in names do. -/
  cut : ∀ lines, Lines rs lines → rs ≠ [] → (∀ r ∈ rs, Clear r.cleaned) →
    (start.cut (Text.joined '\n' lines).toList = lines.map String.toList ↔
      ∀ r ∈ rs, ∀ name ∈ r.cleaned.names, '\n' ∉ name.toList)

theorem Lines.exists_line {rs : List Record} {lines : List String} (h : Lines rs lines) :
    ∀ r ∈ rs, ∃ line, r.line = .ok line := by
  induction h with
  | nil => simp
  | cons hline _ ih => exact List.forall_mem_cons.mpr ⟨⟨_, hline⟩, ih⟩

/-- The body of clear records is cut into their lines if and only if no name breaks one. -/
theorem cut_lines {rs : List Record} {lines : List String} (h : Lines rs lines) (hne : rs ≠ [])
    (hclear : ∀ r ∈ rs, Clear r.cleaned) :
    start.cut (Text.joined '\n' lines).toList = lines.map String.toList ↔
      ∀ r ∈ rs, ∀ name ∈ r.cleaned.names, '\n' ∉ name.toList := by
  have hlines : lines.map String.toList ≠ [] := by
    intro hnil
    rw [List.map_eq_nil_iff] at hnil
    subst hnil
    cases h
    exact hne rfl
  have hboth : (∀ l ∈ lines.map String.toList, (start.after l).place ≠ .quoted) ∧
      ((∀ l ∈ lines.map String.toList, start.OnOneLine l) ↔
        ∀ r ∈ rs, ∀ name ∈ r.cleaned.names, '\n' ∉ name.toList) := by
    clear hne hlines
    induction h with
    | nil => simp
    | @cons r line rs lines hline _ ih =>
        obtain ⟨hend, hone⟩ := ih fun r hr => hclear r (List.mem_cons_of_mem _ hr)
        have hleads := leads_line hline (hclear r List.mem_cons_self)
        rw [List.map_cons, List.forall_mem_cons, List.forall_mem_cons, List.forall_mem_cons, hone,
          hleads.oneLine, hleads.after]
        exact ⟨⟨by decide, hend⟩, Iff.rfl⟩
  rw [Text.joined, String.toList_ofList, cut_join hlines hboth.1, hboth.2]

theorem batch_spec (rs : List Record) : BatchSpec rs := by
  have hbreaks : ∀ r ∈ rs, ∀ line, r.line = .ok line → _ := fun r _ line => break_not_mem_line
  have hcut := fun lines (h : Lines rs lines) => cut_lines h
  obtain ⟨lines, hlines⟩ | ⟨before, r, behind, cause, rfl, hbefore, hr⟩ := lines_or_fault rs
  · have hbatch := batch_of_lines hlines
    refine ⟨iff_of_true ⟨_, hbatch⟩ hlines.exists_line, ?_, ?_, hbreaks, hcut⟩
    · intro cause
      refine iff_of_false (by simp [hbatch]) ?_
      rintro ⟨before, r, behind, rfl, hbefore, hr⟩
      cases hbatch.symm.trans (batch_of_fault hbefore hr)
    · intro body
      rw [hbatch, Except.ok.injEq]
      constructor
      · rintro rfl
        exact ⟨lines, hlines, rfl⟩
      · rintro ⟨lines', hlines', rfl⟩
        exact Except.ok.inj (hbatch.symm.trans (batch_of_lines hlines'))
  · have hbatch := @batch_of_fault before behind r cause hbefore hr
    refine ⟨iff_of_false (by simp [hbatch]) ?_, ?_, ?_, hbreaks, hcut⟩
    · intro hall
      obtain ⟨line, hline⟩ := hall r (by simp)
      cases hr.symm.trans hline
    · intro cause'
      rw [hbatch, Except.error.injEq]
      constructor
      · rintro rfl
        exact ⟨before, r, behind, rfl, hbefore, hr⟩
      · rintro ⟨before', r', behind', hrs, hbefore', hr'⟩
        rw [hrs] at hbatch
        exact Except.error.inj (hbatch.symm.trans (batch_of_fault hbefore' hr'))
    · intro body
      refine iff_of_false (by simp [hbatch]) ?_
      rintro ⟨lines, hlines, -⟩
      cases hbatch.symm.trans (batch_of_lines hlines)

/-! ## A record of two lines -/

/-- A tag with a line break in its text. -/
def injected : Record := ⟨some "m", .ofList [("v", .int 1)], .ofList [("t", "a\nb")]⟩

/-- Behind the line break in the tag stands a line of its own. -/
theorem batch_injected :
    Record.batch [injected] = .ok "m,t=a\nb v=1i" ∧
      start.cut "m,t=a\nb v=1i".toList = ["m,t=a".toList, "b v=1i".toList] ∧
      read? "b v=1i" = some ⟨"b", .ofList [("v", .int 1)], .empty⟩ := by
  decide +kernel

end Line
end TopicBridge
