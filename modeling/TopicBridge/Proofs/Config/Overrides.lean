import TopicBridge.CommandLine.Options
import TopicBridge.Config.File

/-! # Options change what they name

What a command line says goes before what a configuration says, and all else stays as it is. A
command line that names a database where a configuration has none makes the section that a file with
this database would have.
-/

namespace TopicBridge

/-! ## Validation -/

namespace Config

theorem fault?_eq_none_iff (c : Config) :
    c.fault? = none ↔ c.rules ≠ none ∧ c.server.port ≠ 0 ∧ c.queueCapacity ≠ 0 ∧
      ∀ s, c.influx = some s → (∃ u, Url.parse s.url = .ok u) ∧ s.database ≠ "" := by
  have hdefect : ∀ s : InfluxSettings,
      s.defect? = none ↔ (∃ u, Url.parse s.url = .ok u) ∧ s.database ≠ "" := by
    intro s
    rw [InfluxSettings.defect?]
    cases Url.parse s.url <;> simp
  rw [fault?]
  by_cases hrules : c.rules = none
  · simp [hrules]
  by_cases hport : c.server.port = 0
  · simp [hrules, hport]
  by_cases hcapacity : c.queueCapacity = 0
  · simp [hrules, hport, hcapacity]
  · simp [hrules, hport, hcapacity, Option.bind_eq_none_iff, hdefect]

theorem validate_eq_ok_iff (c d : Config) : c.validate = .ok d ↔ d = c ∧ c.fault? = none := by
  rw [validate]
  cases c.fault? <;> simp [eq_comm]

theorem validate_eq_self_iff (c : Config) : c.validate = .ok c ↔ c.fault? = none := by
  simp [validate_eq_ok_iff]

theorem validate_eq_error_iff (c : Config) (fault : ConfigFault) :
    c.validate = .error fault ↔ c.fault? = some fault := by
  rw [validate]
  cases c.fault? <;> simp

end Config

/-! ## Sections in a file -/

/-- The section of a file that names a database, perhaps an address, and nothing else. -/
def Yaml.Part.sketch (style : Yaml.Style) (url : Option String) (database : String) : Yaml.Part :=
  let entry (key text : String) : Yaml.Node × Yaml.Node :=
    (.scalar none none .plain key, .scalar none none style text)
  ⟨[], .mapping none ((url.map (entry "url")).toList ++ [entry "database" database])⟩

namespace InfluxSettings

/-- The settings that a database and an address make. -/
def sketched (url : Option String) (database : String) : InfluxSettings :=
  ⟨url.getD "http://localhost:8086", database, none, none, 5000, 3⟩

theorem influxSettings?_sketch (style : Yaml.Style) (url : Option String) (database : String) :
    Config.influxSettings? (Yaml.Part.sketch style url database) =
      some (sketched url database) := by
  cases url <;> rfl

/-- The address that is taken if none is given is a URL. -/
theorem exists_parse_defaultUrl : ∃ u, Url.parse defaultUrl = .ok u := by
  have hread : (Url.parse defaultUrl).toOption.isSome = true := by decide +kernel
  cases h : Url.parse defaultUrl with
  | ok u => exact ⟨u, rfl⟩
  | error cause => simp [h, Except.toOption] at hread

end InfluxSettings

/-! ## Overriding -/

namespace Options

/-- A configuration with everything that options name and with all else of another one. -/
structure Overridden (o : Options) (c d : Config) : Prop where
  port : d.server.port = o.port.getD c.server.port
  bindAddress : d.server.bindAddress = o.bindAddress.getD c.server.bindAddress
  topicPrefix : d.topicPrefix = o.topicPrefix.getD c.topicPrefix
  updated : ∀ s, c.influx = some s →
    d.influx = some { s with url := o.influxUrl.getD s.url, database := o.database.getD s.database }
  created : c.influx = none → d.influx = o.database.map (InfluxSettings.sketched o.influxUrl)
  rules : d.rules = c.rules
  queueCapacity : d.queueCapacity = c.queueCapacity

/-- An address is given and there is no section for it. -/
def Homeless (o : Options) (c : Config) : Prop :=
  c.influx = none ∧ o.influxUrl ≠ none ∧ o.database = none

/-- An option that makes a configuration unusable. -/
inductive Spoils (o : Options) (c : Config) : Prop
  | homeless (h : o.Homeless c)
  | port (h : o.port = some 0)
  | url (url : String) (cause : UrlFault) (h : o.influxUrl = some url)
      (hurl : Url.parse url = .error cause)
  | database (h : o.database = some "")

variable {o : Options} {c d : Config}

theorem Overridden.unique {d' : Config} (h : Overridden o c d) (h' : Overridden o c d') :
    d = d' := by
  have hinflux : d.influx = d'.influx := by
    cases hc : c.influx with
    | none => rw [h.created hc, h'.created hc]
    | some s => rw [h.updated s hc, h'.updated s hc]
  obtain ⟨lead, influx, ⟨port, address⟩, capacity, rules⟩ := d
  obtain ⟨lead', influx', ⟨port', address'⟩, capacity', rules'⟩ := d'
  obtain rfl : port = port' := h.port.trans h'.port.symm
  obtain rfl : address = address' := h.bindAddress.trans h'.bindAddress.symm
  obtain rfl : lead = lead' := h.topicPrefix.trans h'.topicPrefix.symm
  obtain rfl : rules = rules' := h.rules.trans h'.rules.symm
  obtain rfl : capacity = capacity' := h.queueCapacity.trans h'.queueCapacity.symm
  obtain rfl : influx = influx' := hinflux
  rfl

/-- What options have changed once they leave as it is. -/
theorem Overridden.again (h : Overridden o c d) : Overridden o d d where
  port := by rw [h.port]; cases o.port <;> rfl
  bindAddress := by rw [h.bindAddress]; cases o.bindAddress <;> rfl
  topicPrefix := by rw [h.topicPrefix]; cases o.topicPrefix <;> rfl
  updated := by
    intro s hs
    rw [hs]
    cases hc : c.influx with
    | some first =>
        rw [h.updated first hc, Option.some_inj] at hs
        subst hs
        cases o.influxUrl <;> cases o.database <;> rfl
    | none =>
        rw [h.created hc, Option.map_eq_some_iff] at hs
        obtain ⟨database, hdatabase, rfl⟩ := hs
        rw [hdatabase]
        cases o.influxUrl <;> rfl
  created := by
    intro hd
    cases hc : c.influx with
    | some first =>
        rw [h.updated first hc] at hd
        cases hd
    | none => exact h.created hc
  rules := rfl
  queueCapacity := rfl

/-- The section that is validated in the end: an updated one or a new one. -/
def influxFor (o : Options) (c : Config) : Option InfluxSettings :=
  match c.influx with
  | some s => some { s with url := o.influxUrl.getD s.url, database := o.database.getD s.database }
  | none => o.database.map (InfluxSettings.sketched o.influxUrl)

/-- The configuration that is validated in the end. -/
def apply (o : Options) (c : Config) : Config :=
  ⟨o.topicPrefix.getD c.topicPrefix, o.influxFor c,
    ⟨o.port.getD c.server.port, o.bindAddress.getD c.server.bindAddress⟩, c.queueCapacity, c.rules⟩

theorem overridden_apply (o : Options) (c : Config) : Overridden o c (o.apply c) where
  port := rfl
  bindAddress := rfl
  topicPrefix := rfl
  updated := by intro s hs; simp [apply, influxFor, hs]
  created := by intro hnone; simp [apply, influxFor, hnone]
  rules := rfl
  queueCapacity := rfl

theorem overrideInflux_of_homeless (h : o.Homeless c) :
    o.overrideInflux c.influx = .error (.invalid .urlWithoutDatabase) := by
  obtain ⟨hc, hurl, hdatabase⟩ := h
  obtain ⟨url, hurl⟩ := Option.ne_none_iff_exists'.mp hurl
  simp [overrideInflux, hc, hurl, hdatabase]

theorem overrideInflux_of_not_homeless (h : ¬ o.Homeless c) :
    o.overrideInflux c.influx = .ok (o.influxFor c) := by
  cases hc : c.influx with
  | some s => simp [overrideInflux, influxFor, hc]
  | none =>
      cases hdatabase : o.database with
      | some database =>
          simp only [overrideInflux, influxFor, hc, hdatabase]
          rfl
      | none =>
          cases hurl : o.influxUrl with
          | none => simp [overrideInflux, influxFor, hc, hdatabase, hurl]
          | some url => exact absurd ⟨hc, by simp [hurl], hdatabase⟩ h

/-- An address that is given is the one that is validated. -/
theorem exists_influxFor_url {url : String} (hurl : o.influxUrl = some url)
    (h : ¬ o.Homeless c) : ∃ s, o.influxFor c = some s ∧ s.url = url := by
  cases hc : c.influx with
  | some s => exact ⟨_, (overridden_apply o c).updated s hc, by simp [hurl]⟩
  | none =>
      cases hdatabase : o.database with
      | some database =>
          exact ⟨.sketched o.influxUrl database, by simp [influxFor, hc, hdatabase],
            by simp [InfluxSettings.sketched, hurl]⟩
      | none => exact absurd ⟨hc, by simp [hurl], hdatabase⟩ h

/-- A database that is given is the one that is validated. -/
theorem exists_influxFor_database {database : String} (hdatabase : o.database = some database) :
    ∃ s, o.influxFor c = some s ∧ s.database = database := by
  cases hc : c.influx with
  | some s => exact ⟨_, (overridden_apply o c).updated s hc, by simp [hdatabase]⟩
  | none => exact ⟨.sketched o.influxUrl database, by simp [influxFor, hc, hdatabase], rfl⟩

theorem override_of_homeless (h : o.Homeless c) :
    o.override c = .error (.invalid .urlWithoutDatabase) := by
  rw [override, overrideInflux_of_homeless h]
  rfl

theorem override_of_not_homeless (h : ¬ o.Homeless c) : o.override c = (o.apply c).validate := by
  rw [override, overrideInflux_of_not_homeless h]
  rfl

theorem override_eq_ok_iff :
    o.override c = .ok d ↔ ¬ o.Homeless c ∧ Overridden o c d ∧ d.validate = .ok d := by
  by_cases h : o.Homeless c
  · simp [override_of_homeless h, h]
  · rw [override_of_not_homeless h]
    constructor
    · intro hd
      obtain ⟨rfl, -⟩ := (Config.validate_eq_ok_iff _ _).mp hd
      exact ⟨h, overridden_apply o c, hd⟩
    · rintro ⟨-, hd, hvalid⟩
      obtain rfl := hd.unique (overridden_apply o c)
      exact hvalid

theorem override_eq_error_iff {fault : ConfigFault} :
    o.override c = .error fault ↔
      (o.Homeless c ∧ fault = .invalid .urlWithoutDatabase) ∨
        ¬ o.Homeless c ∧ ∃ d, Overridden o c d ∧ d.validate = .error fault := by
  by_cases h : o.Homeless c
  · simp [override_of_homeless h, h, eq_comm]
  · rw [override_of_not_homeless h]
    constructor
    · intro hfault
      exact .inr ⟨h, o.apply c, overridden_apply o c, hfault⟩
    · rintro (⟨hhomeless, -⟩ | ⟨-, d, hd, hfault⟩)
      · exact absurd hhomeless h
      · obtain rfl := hd.unique (overridden_apply o c)
        exact hfault

/-- Options that spoil nothing leave a configuration usable. -/
theorem fault?_apply_of_not_spoils (hc : c.fault? = none) (h : ¬ o.Spoils c) :
    (o.apply c).fault? = none := by
  obtain ⟨hrules, hport, hcapacity, hinflux⟩ := c.fault?_eq_none_iff.mp hc
  have hurl : ∀ first, (∃ u, Url.parse first = .ok u) →
      ∃ u, Url.parse (o.influxUrl.getD first) = .ok u := by
    intro first hfirst
    cases hurl : o.influxUrl with
    | none => exact hfirst
    | some url =>
        cases hread : Url.parse url with
        | ok u => exact ⟨u, hread⟩
        | error cause => exact absurd (.url url cause hurl hread) h
  refine (o.apply c).fault?_eq_none_iff.mpr ⟨hrules, ?_, hcapacity, ?_⟩
  · intro hzero
    cases ho : o.port with
    | none => exact hport (by simpa [apply, ho] using hzero)
    | some n => exact h (.port (by simpa [apply, ho] using hzero))
  · intro s hs
    cases hfirst : c.influx with
    | some first =>
        obtain rfl : _ = s := Option.some_inj.mp
          (((overridden_apply o c).updated first hfirst).symm.trans hs)
        refine ⟨hurl first.url (hinflux first hfirst).1, fun hempty => ?_⟩
        cases ho : o.database with
        | none => exact (hinflux first hfirst).2 (by simpa [ho] using hempty)
        | some database => exact h (.database (by simpa [ho] using hempty))
    | none =>
        rw [(overridden_apply o c).created hfirst, Option.map_eq_some_iff] at hs
        obtain ⟨database, ho, rfl⟩ := hs
        refine ⟨hurl _ InfluxSettings.exists_parse_defaultUrl, fun hempty => ?_⟩
        exact h (.database (ho.trans (congrArg some hempty)))

/-- One option is enough to make a configuration unusable. -/
theorem Spoils.exists_fault (h : o.Spoils c) : ∃ fault, o.override c = .error fault := by
  by_cases hhomeless : o.Homeless c
  · exact ⟨_, override_of_homeless hhomeless⟩
  have hfault : (o.apply c).fault? ≠ none := by
    intro hnone
    obtain ⟨-, hport, -, hinflux⟩ := (o.apply c).fault?_eq_none_iff.mp hnone
    cases h with
    | homeless h => exact hhomeless h
    | port h => exact hport (by simp [apply, h])
    | url url cause ho hurl =>
        obtain ⟨s, hs, rfl⟩ := exists_influxFor_url ho hhomeless
        obtain ⟨⟨u, hu⟩, -⟩ := hinflux s hs
        rw [hurl] at hu
        cases hu
    | database ho =>
        obtain ⟨s, hs, hempty⟩ := exists_influxFor_database ho
        exact (hinflux s hs).2 hempty
  obtain ⟨fault, hfault⟩ := Option.ne_none_iff_exists'.mp hfault
  exact ⟨fault, by rw [override_of_not_homeless hhomeless, Config.validate_eq_error_iff, hfault]⟩

/-- What options do to a configuration. -/
structure OverrideSpec (o : Options) (c : Config) : Prop where
  /-- Nothing about the overridden configuration is left open. -/
  determined : ∃ d, ∀ d', Overridden o c d' ↔ d' = d
  accepted : ∀ d, o.override c = .ok d ↔
    ¬ o.Homeless c ∧ Overridden o c d ∧ d.validate = .ok d
  refused : ∀ fault, o.override c = .error fault ↔
    (o.Homeless c ∧ fault = .invalid .urlWithoutDatabase) ∨
      ¬ o.Homeless c ∧ ∃ d, Overridden o c d ∧ d.validate = .error fault
  /-- If the configuration could be used before, an option is to blame. -/
  spoiled : c.validate = .ok c → ((∃ fault, o.override c = .error fault) ↔ o.Spoils c)
  /-- A section that is made is the one that a file with the same database and address has. -/
  sketched : ∀ style database, Config.influxSettings?
    (Yaml.Part.sketch style o.influxUrl database) = some (.sketched o.influxUrl database)
  again : ∀ d, o.override c = .ok d → o.override d = .ok d

theorem override_spec (o : Options) (c : Config) : OverrideSpec o c := by
  refine ⟨⟨o.apply c, ?determined⟩, fun d => override_eq_ok_iff,
    fun fault => override_eq_error_iff, ?spoiled, ?sketched, ?again⟩
  case determined =>
    intro d
    refine ⟨fun hd => hd.unique (overridden_apply o c), ?_⟩
    rintro rfl
    exact overridden_apply o c
  case sketched =>
    intro style database
    exact InfluxSettings.influxSettings?_sketch style o.influxUrl database
  case spoiled =>
    intro hvalid
    have hc := c.validate_eq_self_iff.mp hvalid
    refine ⟨?_, Spoils.exists_fault⟩
    rintro ⟨fault, hfault⟩
    by_cases hspoils : o.Spoils c
    · exact hspoils
    · have haccepted := override_of_not_homeless fun hhomeless => hspoils (.homeless hhomeless)
      rw [haccepted, Config.validate_eq_error_iff, fault?_apply_of_not_spoils hc hspoils] at hfault
      cases hfault
  case again =>
    intro d hd
    obtain ⟨hhomeless, hoverridden, hvalid⟩ := override_eq_ok_iff.mp hd
    refine override_eq_ok_iff.mpr ⟨?_, hoverridden.again, hvalid⟩
    rintro ⟨hinflux, hurl, hdatabase⟩
    refine hhomeless ⟨?_, hurl, hdatabase⟩
    cases hc : c.influx with
    | none => rfl
    | some s =>
        rw [hoverridden.updated s hc] at hinflux
        cases hinflux

end Options

end TopicBridge
