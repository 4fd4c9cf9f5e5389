import TopicBridge.Proofs.Payload.Inference

/-! # Exact conversions

An integer is read from a text without any change of its value, or not at all. What a value of a
kind without rounding is printed as converts back to that value, and for such a part of a document
it makes no difference whether its kind is asked for. -/

namespace TopicBridge

/-- The kind that a value has. -/
def Value.kind : Value → Kind
  | bool _ => .bool
  | int _ => .int
  | float _ => .float
  | text _ => .text

/-- Values that are printed without rounding: truth values, integers of 64 bits and texts. -/
inductive Value.Exact : Value → Prop where
  | bool (b) : Exact (bool b)
  | int {n} (h : fitsInt64 n) : Exact (int n)
  | text (s) : Exact (text s)

namespace Payload

/-! ## Integers -/

theorem isBlank_of_mem_integerText {n : Int} {s : List Char} (h : IntegerText n s) :
    ∀ c ∈ s, Unicode.isBlank c = false := by
  intro c hc
  cases h with
  | @mk negative sign ds hs hds =>
      rcases List.mem_append.mp hc with hsign | hdigit
      · exact isBlank_of_mem_sign hs c hsign
      · exact isBlank_of_isDecimalDigit
          (Unicode.isDecimalDigit_of_isDigit (hds.isDigit c hdigit))

/-- A text of an integer with white space around it. -/
def Surrounded (n : Int) (s : List Char) : Prop :=
  ∃ front literal back, (∀ c ∈ front, Unicode.isBlank c) ∧ IntegerText n literal ∧
    (∀ c ∈ back, Unicode.isBlank c) ∧ s = front ++ literal ++ back

theorem surrounded_iff (n : Int) (s : List Char) :
    Surrounded n s ↔ IntegerText n (Unicode.trim s) := by
  constructor
  · rintro ⟨front, literal, back, hfront, hn, hback, rfl⟩
    rwa [List.append_assoc, Unicode.trim_blanks_append hfront,
      Unicode.trim_append (isBlank_of_mem_integerText hn) hback]
  · intro hn
    obtain ⟨front, back, hfront, hback, hs⟩ := Unicode.exists_trim s
    exact ⟨front, _, back, hfront, hn, hback, hs⟩

theorem toInt_eq_ok_iff (raw : String) (v : Value) :
    toInt raw = .ok v ↔ ∃ n, v = .int n ∧ Surrounded n raw.toList ∧ fitsInt64 n := by
  rw [toInt]
  cases hread : readInt64 (Unicode.trim raw.toList) with
  | ok n =>
      obtain ⟨htext, hfits⟩ := readInt64_eq_ok_iff.mp hread
      constructor
      · intro h
        cases h
        exact ⟨n, rfl, (surrounded_iff n _).mpr htext, hfits⟩
      · rintro ⟨m, rfl, hm, hmfits⟩
        have hread' := readInt64_eq_ok_iff.mpr ⟨(surrounded_iff m _).mp hm, hmfits⟩
        rw [hread] at hread'
        cases hread'
        rfl
  | error cause =>
      constructor
      · intro h
        cases h
      · rintro ⟨m, rfl, hm, hmfits⟩
        have hread' := readInt64_eq_ok_iff.mpr ⟨(surrounded_iff m _).mp hm, hmfits⟩
        rw [hread] at hread'
        cases hread'

theorem exists_toInt_eq_error {raw : String} (h : ∀ v, toInt raw ≠ .ok v) :
    ∃ cause, toInt raw = .error (.notInt raw cause) := by
  cases hread : readInt64 (Unicode.trim raw.toList) with
  | ok n => exact absurd (by rw [toInt, hread]) (h (.int n))
  | error cause => exact ⟨cause, by rw [toInt, hread]⟩

/-! ## Printed values -/

theorem trim_toString_int (n : Int) : Unicode.trim (toString n).toList = (toString n).toList :=
  Unicode.trim_eq_self (isBlank_of_mem_integerText (integerText_toString n))

theorem toInt_toString {n : Int} (h : fitsInt64 n) : toInt (toString n) = .ok (.int n) := by
  rw [toInt, trim_toString_int, readInt64_toString h]

theorem toInt_toString_of_not_fits {n : Int} (h : ¬ fitsInt64 n) :
    toInt (toString n) = .error (.notInt (toString n) (outOfBounds (decide (n < 0)))) := by
  rw [toInt, trim_toString_int, readInt64_toString_of_not_fits h]

theorem toBool_toText (b : Bool) : toBool (Value.bool b).toText = .ok (.bool b) := by
  refine toBool_of_lower ?_
  cases b with
  | true => decide
  | false => decide

/-- What is printed of a value converts back to it. -/
theorem convertTo_toText {v : Value} (h : v.Exact) (path : Option String) :
    convertTo v.toText path v.kind = .ok v := by
  cases h with
  | bool b => exact toBool_toText b
  | int h => exact toInt_toString h
  | text s => rfl

/-! ## Parts of documents -/

theorem leafText_ofInt (n : Int) : (Json.ofInt n).leafText = toString n := by
  simp [Json.ofInt, Json.leafText, Json.render, Json.renderChars, Json.Number.render]

theorem leafText_toJson {v : Value} (h : v.Exact) : v.toJson.leafText = v.toText := by
  cases h with
  | bool b =>
      cases b with
      | true => rfl
      | false => rfl
  | int h => exact leafText_ofInt _
  | text s => rfl

theorem ofLeaf_toJson {v : Value} (h : v.Exact) : ofLeaf v.toJson = v := by
  cases h with
  | bool b => rfl
  | int h => simp [ofLeaf, Value.toJson, Value.ofJson?, Json.ofInt, h]
  | text s => rfl

theorem extract_none {document leaf : Json} {path : String} (h : document.resolve path = .ok leaf) :
    extract document path none = .ok (ofLeaf leaf) := by
  rw [extract, resolve, h]
  rfl

theorem extract_json {document leaf : Json} {path : String} (h : document.resolve path = .ok leaf) :
    extract document path (some .json) = .ok (.text leaf.leafText) := by
  rw [extract, resolve, h]
  rfl

theorem kind_ne_json (v : Value) : v.kind ≠ .json := by
  cases v with
  | bool b => simp [Value.kind]
  | int n => simp [Value.kind]
  | float x => simp [Value.kind]
  | text s => simp [Value.kind]

/-- Conversions and extractions of kinds without rounding. -/
structure ExactnessSpec : Prop where
  /-- A text is read as an integer exactly if it is one within the bounds, white space aside. -/
  int : ∀ raw path v, convert raw (some "int") path = .ok v ↔
    ∃ n, v = .int n ∧ Surrounded n raw.toList ∧ -2 ^ 63 ≤ n ∧ n ≤ 2 ^ 63 - 1
  intFault : ∀ raw path, (∀ n, Surrounded n raw.toList → ¬ (-2 ^ 63 ≤ n ∧ n ≤ 2 ^ 63 - 1)) →
    ∃ cause, convert raw (some "int") path = .error (.notInt raw cause)
  /-- Printing is undone by the kind of the value. -/
  printed : ∀ v path, Value.Exact v → convert v.toText (some v.kind.name) path = .ok v
  /-- The kind that a part has can be asked for. -/
  leaf : ∀ document path v, Value.Exact v → Json.resolve path document = .ok v.toJson →
    extract document path (some v.kind) = .ok v ∧ extract document path none = .ok v
  /-- An integer beyond the bounds is a floating-point number unless an integer is asked for. -/
  beyond : ∀ document path n, 2 ^ 63 - 1 < n → Json.resolve path document = .ok (.ofInt n) →
    extract document path (some .int) = .error (.notInt (toString n) .tooLarge) ∧
      extract document path none = .ok (.float (.ofInt n))
  textual : ∀ document path part, Json.resolve path document = .ok part →
    extract document path (some .json) = .ok (.text part.leafText) ∧
      extract document path (some .text) = .ok (.text part.leafText)

theorem exactness_spec : ExactnessSpec where
  int raw path v := by
    simp only [← fitsInt64_iff]
    change convert raw (some Kind.int.name) path = .ok v ↔ _
    rw [convert_name]
    exact toInt_eq_ok_iff raw v
  intFault raw path h := by
    have hnone : ∀ v, toInt raw ≠ .ok v := by
      intro v hv
      obtain ⟨n, -, hn, hfits⟩ := (toInt_eq_ok_iff raw v).mp hv
      exact h n hn ((fitsInt64_iff n).mp hfits)
    obtain ⟨cause, hcause⟩ := exists_toInt_eq_error hnone
    exact ⟨cause, (convert_name raw path .int).trans hcause⟩
  printed v path h := by
    rw [convert_name]
    exact convertTo_toText h path
  leaf document path v h hleaf := by
    constructor
    · rw [extract_of_kind hleaf (kind_ne_json v), leafText_toJson h]
      exact convertTo_toText h none
    · rw [extract_none hleaf, ofLeaf_toJson h]
  beyond document path n hn hleaf := by
    have hnot : ¬ fitsInt64 n := by
      rw [fitsInt64_iff]
      omega
    have hpos : ¬ n < 0 := by omega
    constructor
    · rw [extract_of_kind hleaf (by decide), leafText_ofInt, convertTo,
        toInt_toString_of_not_fits hnot, decide_eq_false hpos]
      rfl
    · rw [extract_none hleaf]
      simp [ofLeaf, Value.ofJson?, Json.ofInt, hnot]
  textual document path part hpart := by
    constructor
    · exact extract_json hpart
    · rw [extract_of_kind hpart (by decide), convertTo]

end Payload
end TopicBridge
