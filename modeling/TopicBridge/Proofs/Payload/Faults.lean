import TopicBridge.Payload.Convert
import TopicBridge.Rule.Recording

/-! # Faults of conversions

A conversion fails because of the payload, or because of how it was set up: a kind that there is
not, or a missing path. The second kind of fault can be told before there is a payload. -/

namespace TopicBridge

/-- A fault that no payload can avoid. -/
def ConversionFault.OfSetup : ConversionFault → Prop
  | .unknownKind _ => True
  | .noPath => True
  | _ => False

namespace Payload

theorem readKind_eq_error_iff (kind : Option String) (cause : ConversionFault) :
    readKind kind = .error cause ↔
      ∃ name, kind = some name ∧ Kind.ofName? name = none ∧ cause = .unknownKind name := by
  cases kind with
  | none => simp [readKind]
  | some name =>
      cases hk : Kind.ofName? name with
      | none => simp [readKind, hk, eq_comm]
      | some k => simp [readKind, hk]

/-- A kind is read if and only if the name that is given, if any, is one of a kind. -/
theorem readKind_eq_ok_iff (kind : Option String) (k : Option Kind) :
    readKind kind = .ok k ↔
      (kind = none ∧ k = none) ∨
        ∃ name j, kind = some name ∧ Kind.ofName? name = some j ∧ k = some j := by
  cases kind with
  | none => simp [readKind, eq_comm]
  | some name =>
      cases hk : Kind.ofName? name with
      | none => simp [readKind, hk]
      | some j => simp [readKind, hk, eq_comm]

theorem readKind_of_unknown {name : String} (h : Kind.ofName? name = none) :
    readKind (some name) = .error (.unknownKind name) := by
  rw [readKind, h]

theorem readKind_of_ofName? {name : String} {kind : Kind} (h : Kind.ofName? name = some kind) :
    readKind (some name) = .ok (some kind) := by
  rw [readKind, h]

/-! ## Faults of a text -/

variable {raw : String} {cause : ConversionFault}

theorem not_ofSetup_of_toInt (h : toInt raw = .error cause) : ¬ cause.OfSetup := by
  rw [toInt] at h
  split at h
  · cases h
  · cases h
    exact id

theorem not_ofSetup_of_toFloat (h : toFloat raw = .error cause) : ¬ cause.OfSetup := by
  rw [toFloat] at h
  split at h
  · cases h
  · cases h
    exact id

theorem not_ofSetup_of_toBool (h : toBool raw = .error cause) : ¬ cause.OfSetup := by
  simp only [toBool] at h
  split at h
  · cases h
  · split at h
    · cases h
    · cases h
      exact id

theorem not_ofSetup_of_infer (h : infer raw = .error cause) : ¬ cause.OfSetup := by
  rw [infer] at h
  split at h
  · exact not_ofSetup_of_toFloat h
  · split at h
    · exact not_ofSetup_of_toBool h
    · cases h

theorem not_ofSetup_of_resolve {document : Json} {path : String}
    (h : resolve document path = .error cause) : ¬ cause.OfSetup := by
  rw [resolve] at h
  split at h
  · cases h
  · cases h
    exact id

/-! ## Faults of a kind and a path -/

/-- With a kind that there is, only a document without a path is set up wrongly. -/
theorem convertTo_of_ofSetup {path : Option String} {kind : Kind}
    (h : convertTo raw path kind = .error cause) (hs : cause.OfSetup) :
    kind = .json ∧ path = none ∧ cause = .noPath := by
  cases kind with
  | int => exact absurd hs (not_ofSetup_of_toInt h)
  | float => exact absurd hs (not_ofSetup_of_toFloat h)
  | bool => exact absurd hs (not_ofSetup_of_toBool h)
  | text => cases h
  | json =>
      cases path with
      | none =>
          cases h
          exact ⟨rfl, rfl, rfl⟩
      | some path =>
          simp only [convertTo] at h
          split at h
          · cases h
          · next document _ =>
              cases hleaf : resolve document path with
              | ok leaf =>
                  rw [hleaf] at h
                  cases h
              | error fault =>
                  rw [hleaf] at h
                  cases h
                  exact absurd hs (not_ofSetup_of_resolve hleaf)

/-! ## Parts of a document -/

theorem extract_of_unresolved {document : Json} {path segment : String}
    (h : document.resolve path = .error segment) (kind : Option Kind) :
    extract document path kind = .error (.unresolved path segment) := by
  rw [extract, resolve, h]
  rfl

/-- A part that is not taken as a document is converted as a payload would be. -/
theorem extract_of_kind {document leaf : Json} {path : String}
    (h : document.resolve path = .ok leaf) {kind : Kind} (hk : kind ≠ .json) :
    extract document path (some kind) = convertTo leaf.leafText none kind := by
  rw [extract, resolve, h]
  cases kind with
  | json => exact absurd rfl hk
  | int => rfl
  | float => rfl
  | bool => rfl
  | text => rfl

/-- A part that is taken as it is, or as a document, always has a value. -/
theorem exists_extract_eq_ok {document leaf : Json} {path : String}
    (h : document.resolve path = .ok leaf) {kind : Option Kind}
    (hk : kind = none ∨ kind = some .json) : ∃ v, extract document path kind = .ok v := by
  rw [extract, resolve, h]
  rcases hk with rfl | rfl
  · exact ⟨_, rfl⟩
  · exact ⟨_, rfl⟩

/-! ## Kinds by name -/

theorem convert_of_readKind_error {name path : Option String}
    (h : readKind name = .error cause) : convert raw name path = .error cause := by
  rw [convert, h]
  rfl

theorem convert_of_ofName? {name : String} {kind : Kind} (h : Kind.ofName? name = some kind)
    (path : Option String) : convert raw (some name) path = convertTo raw path kind := by
  rw [convert, readKind_of_ofName? h]
  rfl

theorem ofName?_name (kind : Kind) : Kind.ofName? kind.name = some kind := by
  cases kind with
  | int => decide
  | float => decide
  | bool => decide
  | text => decide
  | json => decide

/-- A kind that is asked for by its name converts. -/
theorem convert_name (raw : String) (path : Option String) (kind : Kind) :
    convert raw (some kind.name) path = convertTo raw path kind :=
  convert_of_ofName? (ofName?_name kind) path

/-- The faults of setup that a conversion by name can have. -/
inductive SetupFault (name path : Option String) : ConversionFault → Prop where
  | unknownKind {n} (hn : name = some n) (hk : Kind.ofName? n = none) :
      SetupFault name path (.unknownKind n)
  | noPath {n} (hn : name = some n) (hk : Kind.ofName? n = some .json) (hp : path = none) :
      SetupFault name path .noPath

theorem SetupFault.convert_eq {name path : Option String} (h : SetupFault name path cause) :
    convert raw name path = .error cause := by
  cases h with
  | unknownKind hn hk =>
      subst hn
      exact convert_of_readKind_error (readKind_of_unknown hk)
  | noPath hn hk hp =>
      subst hn hp
      rw [convert_of_ofName? hk, convertTo]

theorem setupFault_of_convert {name path : Option String}
    (h : convert raw name path = .error cause) (hs : cause.OfSetup) :
    SetupFault name path cause := by
  cases name with
  | none => exact absurd hs (not_ofSetup_of_infer h)
  | some n =>
      cases hk : Kind.ofName? n with
      | none =>
          rw [convert_of_readKind_error (readKind_of_unknown hk)] at h
          cases h
          exact .unknownKind rfl hk
      | some kind =>
          rw [convert_of_ofName? hk] at h
          obtain ⟨rfl, hp, rfl⟩ := convertTo_of_ofSetup h hs
          exact .noPath rfl hk hp

end Payload

namespace Extraction

/-- The value that a document has for a part. -/
def valueIn (x : Extraction) (document : Json) : Except ConversionFault Value := do
  Payload.extract document x.path (← Payload.readKind x.kind)

/-- Why a document has no value for a part: there is no such kind, the path leads nowhere, or what it
leads to cannot be converted. -/
inductive FaultDerivation (x : Extraction) (document : Json) : ConversionFault → Prop where
  | unknownKind {name} (hx : x.kind = some name) (hk : Kind.ofName? name = none) :
      FaultDerivation x document (.unknownKind name)
  | unresolved {segment} (hk : ∀ name, x.kind = some name → (Kind.ofName? name).isSome)
      (hp : document.resolve x.path = .error segment) :
      FaultDerivation x document (.unresolved x.path segment)
  | unconverted {name kind leaf cause} (hx : x.kind = some name)
      (hk : Kind.ofName? name = some kind) (hp : document.resolve x.path = .ok leaf)
      (hj : kind ≠ .json) (hc : Payload.convertTo leaf.leafText none kind = .error cause) :
      FaultDerivation x document cause

theorem valueIn_of_readKind {x : Extraction} {kind : Option Kind}
    (h : Payload.readKind x.kind = .ok kind) (document : Json) :
    x.valueIn document = Payload.extract document x.path kind := by
  rw [valueIn, h]
  rfl

theorem FaultDerivation.execution {x : Extraction} {document : Json} {cause : ConversionFault}
    (h : FaultDerivation x document cause) : x.valueIn document = .error cause := by
  cases h with
  | unknownKind hx hk =>
      rw [valueIn, hx, Payload.readKind_of_unknown hk]
      rfl
  | unresolved hk hp =>
      cases hx : Payload.readKind x.kind with
      | ok kind => rw [valueIn_of_readKind hx, Payload.extract_of_unresolved hp]
      | error cause =>
          obtain ⟨name, hname, hnone, -⟩ := (Payload.readKind_eq_error_iff _ _).mp hx
          exact absurd (hk name hname) (by simp [hnone])
  | unconverted hx hk hp hj hc =>
      have hread := Payload.readKind_of_ofName? hk
      rw [← hx] at hread
      rw [valueIn_of_readKind hread, Payload.extract_of_kind hp hj, hc]

theorem faultDerivation_of_valueIn {x : Extraction} {document : Json} {cause : ConversionFault}
    (h : x.valueIn document = .error cause) : FaultDerivation x document cause := by
  cases hx : Payload.readKind x.kind with
  | error fault =>
      obtain ⟨name, hname, hnone, rfl⟩ := (Payload.readKind_eq_error_iff _ _).mp hx
      have hd : FaultDerivation x document (.unknownKind name) := .unknownKind hname hnone
      rw [hd.execution] at h
      cases h
      exact hd
  | ok kind =>
      rw [valueIn_of_readKind hx] at h
      have hread := (Payload.readKind_eq_ok_iff _ _).mp hx
      cases hp : document.resolve x.path with
      | error segment =>
          rw [Payload.extract_of_unresolved hp] at h
          cases h
          refine .unresolved ?_ hp
          intro name hname
          rcases hread with ⟨hnone, -⟩ | ⟨name', j, hname', hj, -⟩
          · rw [hnone] at hname
            cases hname
          · rw [hname'] at hname
            cases hname
            rw [hj]
            rfl
      | ok leaf =>
          rcases hread with ⟨-, rfl⟩ | ⟨name, j, hname, hj, rfl⟩
          · obtain ⟨v, hv⟩ := Payload.exists_extract_eq_ok hp (.inl rfl)
            rw [hv] at h
            cases h
          · by_cases hjson : j = .json
            · obtain ⟨v, hv⟩ := Payload.exists_extract_eq_ok hp (.inr (congrArg some hjson))
              rw [hv] at h
              cases h
            · rw [Payload.extract_of_kind hp hjson] at h
              exact .unconverted hname hj hp hjson h

theorem faultDerivation_iff (x : Extraction) (document : Json) (cause : ConversionFault) :
    FaultDerivation x document cause ↔ x.valueIn document = .error cause :=
  ⟨FaultDerivation.execution, faultDerivation_of_valueIn⟩

end Extraction
end TopicBridge
