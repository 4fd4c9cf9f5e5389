import TopicBridge.Proofs.Json.Members
import TopicBridge.Record.Basic

/-! # Records survive their form as documents

The text of a record says everything about it: the record is read back with its values and their
kinds, and two records have the same text only if they are the same. Keys are in order, so how a
record came about makes no difference.
-/

namespace TopicBridge

namespace Record

open Json

theorem readAs_optionalText (m : Option String) (fuel depth : Nat) {rest : List Char}
    (hrest : Follows rest) :
    readAs (fuel + 2) depth (.optional .text) (renderChars (optionalText m) ++ rest) =
      .ok (optionalText m, rest) := by
  cases m with
  | none =>
      rw [readAs]
      rfl
  | some s =>
      have hread := readsBack_text s fuel depth rest hrest
      rw [renderChars_text] at hread
      rw [optionalText.eq_def]
      simp only [renderChars_text]
      rw [readAs, skipBlanks_cons (by decide)]
      exact hread

/-- The members of a record in the order in which they are kept when read. -/
def readForm (r : Record) : Json :=
  .object [("fields", .object (r.fields.map Value.toJson).entries),
    ("measurement", optionalText r.measurement), ("tags", .object (r.tags.map Json.text).entries)]

theorem toList_render (r : Record) :
    r.render.toList = '\x7b' :: (quote "measurement".toList ++ ':' ::
      (renderChars (optionalText r.measurement) ++ ',' :: (quote "fields".toList ++ ':' ::
        (renderChars (.object (r.fields.map Value.toJson).entries) ++ ',' ::
          (quote "tags".toList ++ ':' ::
            (renderChars (.object (r.tags.map Json.text).entries) ++ ['\x7d'])))))) := by
  rw [render, Json.render, String.toList_ofList, toJson]
  simp only [renderChars, renderMembers, commas, List.append_assoc, List.cons_append,
    List.nil_append]

/-- All values of a record are exact. -/
def Exact (r : Record) : Prop := ∀ e ∈ r.fields.entries, e.2.Exact

theorem length_le_renderMembers (ms : List (String × Json)) :
    ms.length ≤ (commas (renderMembers ms)).length := by
  induction ms with
  | nil => exact Nat.le_refl 0
  | cons m ms ih =>
      obtain ⟨k, j⟩ := m
      cases ms with
      | nil => simp [renderMembers, commas, quote]
      | cons n ns =>
          simp only [renderMembers, commas, List.length_append, List.length_cons] at ih ⊢
          omega

theorem readFrontAs_render {r : Record} (h : r.Exact) :
    readFrontAs schema r.render.toList = .ok (r.readForm, []) := by
  have hfields : ∀ m ∈ (r.fields.map Value.toJson).entries, ReadsBack .scalar m.2 := by
    intro m hm
    obtain ⟨e, he, rfl⟩ := List.mem_map.mp hm
    exact readsBack_scalar (h e he)
  have htags : ∀ m ∈ (r.tags.map Json.text).entries, ReadsBack .text m.2 := by
    intro m hm
    obtain ⟨e, -, rfl⟩ := List.mem_map.mp hm
    exact readsBack_text e.2
  obtain ⟨n, hfuel, hfieldsFuel, htagsFuel⟩ : ∃ n, 2 * r.render.toList.length + 2 = n + 4 ∧
      (r.fields.map Value.toJson).entries.length + 1 < n + 1 ∧
      (r.tags.map Json.text).entries.length + 1 < n := by
    have hf := length_le_renderMembers (r.fields.map Value.toJson).entries
    have ht := length_le_renderMembers (r.tags.map Json.text).entries
    refine ⟨2 * r.render.toList.length - 2, ?_⟩
    rw [toList_render]
    simp only [renderChars, List.length_cons, List.length_append]
    omega
  have hfieldsSorted := (r.fields.map Value.toJson).increasing
  have htagsSorted := (r.tags.map Json.text).increasing
  rw [readFrontAs, hfuel, toList_render, schema, depthLimit, readAs_fields,
    readFields_comma rfl rfl (readAs_optionalText r.measurement n 126 (.comma _)),
    readFields_comma rfl rfl (readAs_table hfields hfieldsSorted hfieldsFuel 125 _),
    readFields_brace rfl rfl (readAs_table htags htagsSorted htagsFuel 125 _) rfl]
  rfl

/-- What is read back item by item is read back as a list. -/
theorem mapM_map_eq_some {α β : Type} {read : β → Option α} {write : α → β} {items : List α}
    (h : ∀ a ∈ items, read (write a) = some a) : (items.map write).mapM read = some items := by
  induction items with
  | nil => rfl
  | cons a items ih =>
      have hrest := ih fun b hb => h b (List.mem_cons_of_mem _ hb)
      rw [List.map_cons, List.mapM_cons, h a List.mem_cons_self, hrest]
      rfl

theorem tableOf?_map {α : Type} (item : Json → Option α) (write : α → Json) (t : Table α)
    (h : ∀ e ∈ t.entries, item (write e.2) = some e.2) :
    tableOf? item (.object (t.map write).entries) = some t := by
  rw [tableOf?, membersOf?]
  change Option.bind (List.mapM _ _) _ = _
  rw [Table.map, mapM_map_eq_some]
  · exact congrArg some (Table.ofList_entries t)
  · intro e he
    simp only [h e he]
    rfl

theorem ofJson?_toJson {v : Value} (h : v.Exact) : Value.ofJson? v.toJson = some v := by
  cases h with
  | bool b => rfl
  | int hfits => simp [Value.toJson, ofInt, Value.ofJson?, hfits]
  | text s => rfl

theorem ofJson?_readForm {r : Record} (h : r.Exact) : ofJson? r.readForm = some r := by
  have hfields := tableOf?_map Value.ofJson? Value.toJson r.fields fun e he =>
    ofJson?_toJson (h e he)
  have htags := tableOf?_map textOf? Json.text r.tags fun _ _ => rfl
  have hmeasurement : textOf? (optionalText r.measurement) = r.measurement := by
    cases r.measurement <;> rfl
  have hget : r.readForm.get? "fields" = some (.object (r.fields.map Value.toJson).entries) ∧
      r.readForm.get? "measurement" = some (optionalText r.measurement) ∧
      r.readForm.get? "tags" = some (.object (r.tags.map Json.text).entries) := ⟨rfl, rfl, rfl⟩
  obtain ⟨hf, hm, ht⟩ := hget
  simp only [ofJson?, hf, hm, ht, Option.bind_eq_bind, Option.bind_some, hfields, htags,
    hmeasurement]
  rfl

theorem parse?_render {r : Record} (h : r.Exact) : parse? r.render = some r := by
  rw [parse?, parseAs?, readFrontAs_render h]
  exact ofJson?_readForm h

theorem exact_setField {r : Record} (h : r.Exact) {v : Value} (hv : v.Exact) (key : String) :
    (r.setField key v).Exact := by
  intro e he
  rcases mem_insertSorted he with rfl | he
  · exact hv
  · exact h e he

/-! ## The text of a record -/

/-- The text of an object whose members have these texts. -/
def objectText (members : List (String × List Char)) : List Char :=
  '\x7b' :: commas (members.map fun (k, written) => quote k.toList ++ ':' :: written) ++ ['\x7d']

theorem renderMembers_map {α : Type} (write : α → Json) (entries : List (String × α)) :
    renderMembers (entries.map fun (k, v) => (k, write v)) =
      entries.map fun (k, v) => quote k.toList ++ ':' :: renderChars (write v) := by
  induction entries with
  | nil => rfl
  | cons e entries ih => rw [List.map_cons, renderMembers, ih, List.map_cons]

theorem renderChars_table {α : Type} (write : α → Json) (t : Table α) :
    renderChars (.object (t.map write).entries) =
      objectText (t.entries.map fun (k, v) => (k, renderChars (write v))) := by
  rw [renderChars, Table.map, renderMembers_map, objectText, List.map_map]
  rfl

/-- The same measurement, and under every key the same field and the same tag. -/
def Alike (r r' : Record) : Prop :=
  r.measurement = r'.measurement ∧ (∀ key, r.fields.get? key = r'.fields.get? key) ∧
    ∀ key, r.tags.get? key = r'.tags.get? key

theorem eq_of_alike {r r' : Record} (h : r.Alike r') : r = r' := by
  obtain ⟨hmeasurement, hfields, htags⟩ := h
  obtain ⟨measurement, fields, tags⟩ := r
  obtain ⟨measurement', fields', tags'⟩ := r'
  rw [mk.injEq]
  exact ⟨hmeasurement, Table.eq_of_get?_eq hfields, Table.eq_of_get?_eq htags⟩

/-- What the text of a record says. -/
structure TextSpec (r : Record) : Prop where
  /-- The record is read back: every value with its kind, and a measurement only if there is one. -/
  back : parse? r.render = some r
  /-- Measurement, fields and tags stand in this order, fields and tags by their keys. -/
  layout : r.render.toList = objectText [("measurement", renderChars (optionalText r.measurement)),
      ("fields", objectText (r.fields.entries.map fun (k, v) => (k, renderChars v.toJson))),
      ("tags", objectText (r.tags.entries.map fun (k, s) => (k, quote s.toList)))] ∧
    r.fields.keys.Pairwise (· < ·) ∧ r.tags.keys.Pairwise (· < ·)
  /-- Records that hold the same have the same text, and no others do. -/
  unique : ∀ r' : Record, r'.Exact → (r'.render = r.render ↔ r'.Alike r)

/-- A record of booleans, integers and texts survives its text. -/
theorem text_spec {r : Record} (h : r.Exact) : TextSpec r where
  back := parse?_render h
  layout := by
    refine ⟨?_, List.pairwise_map.mpr r.fields.increasing, List.pairwise_map.mpr r.tags.increasing⟩
    rw [toList_render, renderChars_table, renderChars_table]
    simp only [objectText, commas, List.map_cons, List.map_nil, List.append_assoc,
      List.cons_append, List.nil_append, renderChars]
  unique := by
    intro r' hr'
    constructor
    · intro htext
      have hback := parse?_render hr'
      rw [htext, parse?_render h, Option.some.injEq] at hback
      rw [hback]
      exact ⟨rfl, fun _ => rfl, fun _ => rfl⟩
    · intro halike
      rw [eq_of_alike halike]

/-- A record without measurement in which texts look like values of other kinds. -/
def lookalikes : Record :=
  ((((empty.setField "" (.int (-9223372036854775808))).setField "on \"off\"" (.text "12")).setField
    "b" (.text "true")).setField "a" (.bool true)).setTag "é\n" "\\"

theorem text_spec_lookalikes : lookalikes.Exact ∧ TextSpec lookalikes := by
  have hempty : empty.Exact := fun _ he => absurd he List.not_mem_nil
  have hleast : Value.Exact (.int (-9223372036854775808)) := .int (by decide)
  have hnumbers := exact_setField (exact_setField hempty hleast "") (.text "12") "on \"off\""
  have h : lookalikes.Exact :=
    exact_setField (exact_setField hnumbers (.text "true") "b") (.bool true) "a"
  exact ⟨h, text_spec h⟩

example : ((empty.setMeasurement "m").setTag "b" "2" |>.setTag "a" "1").render =
    "\x7b\"measurement\":\"m\",\"fields\":\x7b\x7d,\"tags\":\x7b\"a\":\"1\",\"b\":\"2\"\x7d\x7d" := by
  decide

end Record

end TopicBridge
