import TopicBridge.Proofs.Payload.Faults
import TopicBridge.Proofs.Payload.NumericFront

/-! # Payloads that say what they are

Without a kind a payload with a numeric front has to be a number, and then the grammar of decimal
literals decides, which knows the digits of ASCII only. Truth values are recognised in any case, and
all else stays a text. -/

namespace TopicBridge.Payload

/-! ## Numbers -/

/-- A numeric front is no name of a value that digits do not write. -/
theorem namedFloat?_of_numericFront {s : List Char} (h : NumericFront s) :
    namedFloat? (cutSign s).1 (cutSign s).2 = none := by
  rw [← looksNumeric_iff, looksNumeric] at h
  -- in lower case the first character is still a digit or a point
  have hhead : ∀ c ∈ ((cutSign s).2.map Char.toLower).head?,
      Unicode.isDecimalDigit c ∨ c = '.' := by
    intro c hc
    rcases (startsWithDigit_iff _).mp h with ⟨d, t, hd, hdigit⟩ | ⟨d, t, hd, -⟩
    · rw [hd] at hc
      cases hc
      rw [toLower_of_isDecimalDigit hdigit]
      exact .inl hdigit
    · rw [hd] at hc
      cases hc
      exact .inr rfl
  have hname : ∀ name : List Char, (∃ c ∈ name.head?, ¬ (Unicode.isDecimalDigit c ∨ c = '.')) →
      (cutSign s).2.map Char.toLower ≠ name := by
    rintro name ⟨c, hc, hout⟩ rfl
    exact hout (hhead c hc)
  rw [namedFloat?, if_neg (hname _ ⟨'n', rfl, by decide⟩),
    if_neg (not_or.mpr ⟨hname _ ⟨'i', rfl, by decide⟩, hname _ ⟨'i', rfl, by decide⟩⟩)]

theorem readFloat_of_numericFront {s : List Char} (h : NumericFront s) :
    readFloat s =
      match Decimal.read s with
      | some d => .ok d.toBinary64
      | none => .error .malformed := by
  have hne : s.isEmpty = false := by
    obtain ⟨c, rest, rfl, -⟩ := h.head
    rfl
  have hname := namedFloat?_of_numericFront h
  rw [readFloat, if_neg (by simp [hne])]
  cases Decimal.read s with
  | some d => rfl
  | none =>
      simp only [hname]

/-- A numeric front has no white space, and what follows it does not matter. -/
theorem NumericFront.exists_front {s : List Char} (h : NumericFront s) :
    ∃ front rest, s = front ++ rest ∧ front ≠ [] ∧ (∀ c ∈ front, Unicode.isBlank c = false) ∧
      ∀ t, NumericFront (front ++ t) := by
  cases h with
  | @digit negative sign c rest hs hc =>
      have hdigit : ∀ d ∈ [c], Unicode.isBlank d = false :=
        List.forall_mem_singleton.mpr (isBlank_of_isDecimalDigit hc)
      refine ⟨sign ++ [c], rest, by simp, by simp, ?_, fun t => ?_⟩
      · exact List.forall_mem_append.mpr ⟨isBlank_of_mem_sign hs, hdigit⟩
      · rw [← List.append_cons]
        exact .digit hs hc
  | @point negative sign c rest hs hc =>
      have hpoint : ∀ d ∈ ['.', c], Unicode.isBlank d = false :=
        List.forall_mem_cons.mpr
          ⟨by decide, List.forall_mem_singleton.mpr (isBlank_of_isDecimalDigit hc)⟩
      refine ⟨sign ++ ['.', c], rest, by simp, by simp, ?_, fun t => ?_⟩
      · exact List.forall_mem_append.mpr ⟨isBlank_of_mem_sign hs, hpoint⟩
      · rw [List.append_assoc]
        exact .point hs hc

theorem numericFront_trim {s : List Char} (h : NumericFront s) :
    NumericFront (Unicode.trim s) := by
  obtain ⟨front, rest, rfl, hne, hplain, hfront⟩ := h.exists_front
  rw [Unicode.trim_append_of_ne_nil hne hplain]
  exact hfront _

theorem toFloat_of_numericFront {raw : String} (h : NumericFront raw.toList) :
    toFloat raw =
      match Decimal.read (Unicode.trim raw.toList) with
      | some d => .ok (.float d.toBinary64)
      | none => .error (.notFloat raw .malformed) := by
  rw [toFloat, readFloat_of_numericFront (numericFront_trim h)]
  cases Decimal.read (Unicode.trim raw.toList) with
  | some d => rfl
  | none => rfl

theorem toFloat_of_literal {raw : String} {d : Decimal} {literal ws : List Char}
    (hd : DecimalText d literal) (hws : ∀ c ∈ ws, Unicode.isBlank c)
    (hraw : raw.toList = literal ++ ws) : toFloat raw = .ok (.float d.toBinary64) := by
  have hfront : NumericFront raw.toList := by
    rw [hraw]
    exact numericFront_of_literal hd ws
  rw [toFloat_of_numericFront hfront, hraw, Unicode.trim_append (isBlank_of_mem_literal hd) hws,
    read_eq_some_iff.mpr hd]

/-! ## Truth values -/

theorem map_toLower_of_lower {raw word : String} (h : Kind.lower raw = word) :
    raw.toList.map Char.toLower = word.toList := by
  rw [← h, Kind.lower, String.toList_ofList]

/-- The characters of the truth values are no part of a number, and no white space. -/
theorem all_toText_bool (b : Bool) :
    (Value.bool b).toText.toList.all fun c =>
      !Unicode.isDecimalDigit c && !Unicode.isBlank c && !List.contains ['-', '+', '.'] c := by
  cases b with
  | true => decide
  | false => decide

theorem letter_of_lower {raw : String} {b : Bool} (h : Kind.lower raw = (Value.bool b).toText)
    {c : Char} (hc : c ∈ raw.toList) :
    (¬ Unicode.isDecimalDigit c.toLower ∧ ¬ Unicode.isBlank c.toLower) ∧
      c.toLower ∉ ['-', '+', '.'] := by
  have hmem := List.mem_map_of_mem (f := Char.toLower) hc
  rw [map_toLower_of_lower h] at hmem
  simpa using List.all_eq_true.mp (all_toText_bool b) _ hmem

theorem not_numericFront_of_lower {raw : String} {b : Bool}
    (h : Kind.lower raw = (Value.bool b).toText) : ¬ NumericFront raw.toList := by
  intro hfront
  obtain ⟨c, rest, hraw, hc⟩ := hfront.head
  obtain ⟨⟨hdigit, -⟩, hmark⟩ := letter_of_lower h (by rw [hraw]; exact List.mem_cons_self)
  rcases hc with hc | hc
  · rw [toLower_of_isDecimalDigit hc] at hdigit
    exact hdigit hc
  · rw [toLower_of_mem_marks hc] at hmark
    exact hmark hc

theorem toBool_of_lower {raw : String} {b : Bool} (h : Kind.lower raw = (Value.bool b).toText) :
    toBool raw = .ok (.bool b) := by
  have hblank : ∀ c ∈ raw.toList, Unicode.isBlank c = false := by
    intro c hc
    obtain ⟨⟨-, hletter⟩, -⟩ := letter_of_lower h hc
    by_contra hcontra
    have hspace : Unicode.isBlank c := by simpa using hcontra
    rw [toLower_of_isBlank hspace] at hletter
    exact hletter hspace
  have htrim := Unicode.trim_eq_self hblank
  have hword := map_toLower_of_lower h
  cases b with
  | true => simp [toBool, htrim, hword, Value.toText]
  | false => simp [toBool, htrim, hword, Value.toText]

/-! ## Inference -/

/-- What becomes of a payload without a kind. -/
inductive InferDerivation (raw : String) : Except ConversionFault Value → Prop where
  | number {d literal ws} (hd : DecimalText d literal) (hws : ∀ c ∈ ws, Unicode.isBlank c)
      (hraw : raw.toList = literal ++ ws) : InferDerivation raw (.ok (.float d.toBinary64))
  | malformed (hfront : NumericFront raw.toList)
      (hnot : ∀ d, ¬ DecimalText d (Unicode.trim raw.toList)) :
      InferDerivation raw (.error (.notFloat raw .malformed))
  | truth {b} (hb : Kind.lower raw = (Value.bool b).toText) : InferDerivation raw (.ok (.bool b))
  | text (hfront : ¬ NumericFront raw.toList)
      (hb : ∀ b, Kind.lower raw ≠ (Value.bool b).toText) : InferDerivation raw (.ok (.text raw))

theorem infer_of_numericFront {raw : String} (h : NumericFront raw.toList) :
    infer raw = toFloat raw := by
  rw [infer, if_pos ((looksNumeric_iff _).mpr h)]

theorem infer_of_lower {raw : String} {b : Bool} (h : Kind.lower raw = (Value.bool b).toText) :
    infer raw = toBool raw := by
  have hfront := mt (looksNumeric_iff _).mp (not_numericFront_of_lower h)
  have hword : Kind.lower raw = "true" ∨ Kind.lower raw = "false" := by
    cases b with
    | true => exact .inl h
    | false => exact .inr h
  rw [infer, if_neg hfront, if_pos hword]

/-- With a numeric front only white space behind the number is cut off. -/
theorem isBlank_head_of_numericFront {s : List Char} (h : NumericFront s) :
    ∀ c ∈ s.head?, Unicode.isBlank c = false := by
  obtain ⟨c, rest, rfl, hc⟩ := h.head
  intro d hd
  cases hd
  rcases hc with hdigit | hmark
  · exact isBlank_of_isDecimalDigit hdigit
  · exact isBlank_of_mem_marks (List.mem_append_left ['e', 'E'] hmark)

theorem InferDerivation.execution {raw : String} {outcome : Except ConversionFault Value}
    (h : InferDerivation raw outcome) : infer raw = outcome := by
  cases h with
  | number hd hws hraw =>
      have hfront : NumericFront raw.toList := by
        rw [hraw]
        exact numericFront_of_literal hd _
      rw [infer_of_numericFront hfront, toFloat_of_literal hd hws hraw]
  | malformed hfront hnot =>
      have hread : Decimal.read (Unicode.trim raw.toList) = none :=
        Option.eq_none_iff_forall_ne_some.mpr fun d hd => hnot d (read_eq_some_iff.mp hd)
      rw [infer_of_numericFront hfront, toFloat_of_numericFront hfront, hread]
  | truth hb => rw [infer_of_lower hb, toBool_of_lower hb]
  | text hfront hb =>
      have hword : ¬ (Kind.lower raw = "true" ∨ Kind.lower raw = "false") :=
        not_or.mpr ⟨hb true, hb false⟩
      rw [infer, if_neg (mt (looksNumeric_iff _).mp hfront), if_neg hword]

theorem infer_derivation (raw : String) : InferDerivation raw (infer raw) := by
  by_cases hfront : NumericFront raw.toList
  · rw [infer_of_numericFront hfront, toFloat_of_numericFront hfront]
    cases hread : Decimal.read (Unicode.trim raw.toList) with
    | some d =>
        obtain ⟨ws, hws, hraw⟩ :=
          Unicode.exists_trim_append (isBlank_head_of_numericFront hfront)
        exact .number (read_eq_some_iff.mp hread) hws hraw
    | none =>
        refine .malformed hfront fun d hd => ?_
        rw [read_eq_some_iff.mpr hd] at hread
        cases hread
  · by_cases hb : ∃ b, Kind.lower raw = (Value.bool b).toText
    · obtain ⟨b, hb⟩ := hb
      have htruth := InferDerivation.truth hb
      rwa [← htruth.execution] at htruth
    · have htext := InferDerivation.text hfront (not_exists.mp hb)
      rwa [← htext.execution] at htext

theorem inferDerivation_iff (raw : String) (outcome : Except ConversionFault Value) :
    InferDerivation raw outcome ↔ infer raw = outcome := by
  refine ⟨InferDerivation.execution, ?_⟩
  rintro rfl
  exact infer_derivation raw

/-- What a payload without a kind becomes: a number, a truth value, a fault or the text itself. -/
structure InferenceSpec (raw : String) : Prop where
  /-- The front is what the expression finds. -/
  front : ∃ r, Regex.parse? frontNotation.toList = some r ∧
    (r.isMatch raw.toList = true ↔ NumericFront raw.toList)
  /-- Numbers are the decimal literals with white space behind them. -/
  float : ∀ x, infer raw = .ok (.float x) ↔
    ∃ d literal ws, DecimalText d literal ∧ (∀ c ∈ ws, Unicode.isBlank c) ∧
      raw.toList = literal ++ ws ∧ x = d.toBinary64
  bool : ∀ b, infer raw = .ok (.bool b) ↔ Kind.lower raw = (Value.bool b).toText
  /-- The only fault is a numeric front without a number. -/
  fault : ∀ cause, infer raw = .error cause ↔
    NumericFront raw.toList ∧ (∀ d, ¬ DecimalText d (Unicode.trim raw.toList)) ∧
      cause = .notFloat raw .malformed
  /-- All else is a text and stays as it is. -/
  text : ∀ s, infer raw = .ok (.text s) ↔
    s = raw ∧ ¬ NumericFront raw.toList ∧ ∀ b, Kind.lower raw ≠ (Value.bool b).toText
  notInt : ∀ n, infer raw ≠ .ok (.int n)
  /-- The kind that is inferred gives the same value when it is asked for. -/
  explicitFloat : ∀ x path, infer raw = .ok (.float x) →
    convert raw (some "float") path = .ok (.float x)
  explicitBool : ∀ b path, infer raw = .ok (.bool b) →
    convert raw (some "bool") path = .ok (.bool b)

theorem inference_spec (raw : String) : InferenceSpec raw where
  front := ⟨frontExpr, parse?_frontNotation, isMatch_frontExpr_iff raw.toList⟩
  float x := by
    rw [← inferDerivation_iff]
    constructor
    · intro h
      cases h with
      | number hd hws hraw => exact ⟨_, _, _, hd, hws, hraw, rfl⟩
    · rintro ⟨d, literal, ws, hd, hws, hraw, rfl⟩
      exact .number hd hws hraw
  bool b := by
    rw [← inferDerivation_iff]
    constructor
    · intro h
      cases h with
      | truth hb => exact hb
    · exact .truth
  fault cause := by
    rw [← inferDerivation_iff]
    constructor
    · intro h
      cases h with
      | malformed hfront hnot => exact ⟨hfront, hnot, rfl⟩
    · rintro ⟨hfront, hnot, rfl⟩
      exact .malformed hfront hnot
  text s := by
    rw [← inferDerivation_iff]
    constructor
    · intro h
      cases h with
      | text hfront hb => exact ⟨rfl, hfront, hb⟩
    · rintro ⟨rfl, hfront, hb⟩
      exact .text hfront hb
  notInt n h := by
    rw [← inferDerivation_iff] at h
    cases h
  explicitFloat x path h := by
    rw [← inferDerivation_iff] at h
    cases h with
    | number hd hws hraw =>
        exact (convert_name raw path .float).trans (toFloat_of_literal hd hws hraw)
  explicitBool b path h := by
    rw [← inferDerivation_iff] at h
    cases h with
    | truth hb =>
        exact (convert_name raw path .bool).trans (toBool_of_lower hb)

end TopicBridge.Payload
