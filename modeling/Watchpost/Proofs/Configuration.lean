import Watchpost.Configuration
import Watchpost.Proofs.Json.Fields

/-! Where a configuration comes from.

A file and the environment tell some fields each. What the environment tells takes the place of what
the file tells, and what neither tells has its default (`effective`). This is what is loaded, or the
first fault in it, if only the file alone has no fault (`load_effective`): a faulty value in the file
is refused even where a variable takes its place (`load_refuses_overridden`). -/
namespace Watchpost.Configuration

/-! ### Fields -/

/-- What values of a field are. -/
inductive Shape where
  | text
  | count (kind : IntegerKind)
  | integer (kind : IntegerKind)

namespace Shape

def Value : Shape → Type
  | text => String
  | count _ => Nat
  | integer _ => Int

/-- The value that a variable spells. -/
def ofText? : (s : Shape) → String → Option s.Value
  | text, t => some t
  | count kind, t => (kind.read? t.toList).map Int.toNat
  | integer kind, t => kind.read? t.toList

/-- The value that stands in a file. -/
def ofDraft? : (s : Shape) → Json.Draft → Option s.Value
  | text, d => d.text?
  | count kind, d => Settings.count? kind d
  | integer kind, d => d.integer? kind

end Shape

inductive Field where
  | logLevel
  | logFormat
  | replicas
  | channelCapacity
  | ruleDir
  | fetchTimeoutMs
  | fetchRetries
  | fetchRetryBackoffMs
  | utcOffsetSecs

namespace Field

def shape : Field → Shape
  | logLevel | logFormat | ruleDir => .text
  | replicas | channelCapacity | fetchTimeoutMs | fetchRetryBackoffMs => .count .nat64
  | fetchRetries => .count .nat32
  | utcOffsetSecs => .integer .int32

abbrev Value (f : Field) : Type := f.shape.Value

def get (c : Configuration) : (f : Field) → f.Value
  | logLevel => c.general.logLevel
  | logFormat => c.general.logFormat
  | replicas => c.engine.replicas
  | channelCapacity => c.engine.channelCapacity
  | ruleDir => c.engine.ruleDir
  | fetchTimeoutMs => c.engine.fetchTimeoutMs
  | fetchRetries => c.engine.fetchRetries
  | fetchRetryBackoffMs => c.engine.fetchRetryBackoffMs
  | utcOffsetSecs => c.engine.utcOffsetSecs

/-- The section of a file that a field is in. -/
def inSection : Field → String
  | logLevel | logFormat => "general"
  | _ => "engine"

def name : Field → String
  | logLevel => "log_level"
  | logFormat => "log_format"
  | replicas => "replicas"
  | channelCapacity => "channel_capacity"
  | ruleDir => "rule_dir"
  | fetchTimeoutMs => "fetch_timeout_ms"
  | fetchRetries => "fetch_retries"
  | fetchRetryBackoffMs => "fetch_retry_backoff_ms"
  | utcOffsetSecs => "utc_offset_secs"

def upper (s : String) : String := String.ofList (s.toList.map Char.toUpper)

/-- The variable of a field is called by its section and its name. -/
def variableName (f : Field) : String := "VIGIL_" ++ upper f.inSection ++ "_" ++ upper f.name

end Field

/-- The configuration with given values in its fields. -/
def ofFields (value : (f : Field) → f.Value) : Configuration where
  general := { logLevel := value .logLevel, logFormat := value .logFormat }
  engine :=
    { replicas := value .replicas
      channelCapacity := value .channelCapacity
      ruleDir := value .ruleDir
      fetchTimeoutMs := value .fetchTimeoutMs
      fetchRetries := value .fetchRetries
      fetchRetryBackoffMs := value .fetchRetryBackoffMs
      utcOffsetSecs := value .utcOffsetSecs }

theorem eq_ofFields {c : Configuration} {value : (f : Field) → f.Value}
    (h : ∀ f : Field, f.get c = value f) : c = ofFields value := by
  have hc : c = ofFields fun f => f.get c := rfl
  rw [hc, funext h]

/-! ### Layers -/

/-- What a source tells of the fields. -/
abbrev Layer := (f : Field) → Option f.Value

/-- A source that tells nothing. -/
def Layer.silent : Layer := fun _ => none

/-- What variables tell: those that are set and spell a value of their field. -/
def Environment.layer (env : Environment) : Layer := fun f =>
  (env.get? f.variableName).bind f.shape.ofText?

/-- The names of the fields in a section, in order. -/
def fieldNames (inSection : String) : List String :=
  if inSection = "general" then ["log_level", "log_format"] else Section.fieldNames

/-- What a document sets a field to. -/
def setting? (document : Toml.Members) (f : Field) : Option Json.Draft :=
  (Toml.find? f.inSection document).bind fun t =>
    t.draft.member? (fieldNames f.inSection) f.name

/-- What a document tells: the fields that it sets. -/
def documentLayer (document : Toml.Members) : Layer := fun f =>
  (setting? document f).bind f.shape.ofDraft?

/-- The defaults, with what a file tells in their place, and what the environment tells in the
place of both. -/
def effective (file environment : Layer) : Configuration :=
  ofFields fun f => ((environment f).or (file f)).getD (f.get {})

/-! ### The environment -/

theorem variableName_eq (f : Field) : f.variableName =
    match f with
    | .logLevel => "VIGIL_GENERAL_LOG_LEVEL"
    | .logFormat => "VIGIL_GENERAL_LOG_FORMAT"
    | .replicas => "VIGIL_ENGINE_REPLICAS"
    | .channelCapacity => "VIGIL_ENGINE_CHANNEL_CAPACITY"
    | .ruleDir => "VIGIL_ENGINE_RULE_DIR"
    | .fetchTimeoutMs => "VIGIL_ENGINE_FETCH_TIMEOUT_MS"
    | .fetchRetries => "VIGIL_ENGINE_FETCH_RETRIES"
    | .fetchRetryBackoffMs => "VIGIL_ENGINE_FETCH_RETRY_BACKOFF_MS"
    | .utcOffsetSecs => "VIGIL_ENGINE_UTC_OFFSET_SECS" := by
  cases f <;> decide

theorem bind_ofText?_text (t : Option String) : t.bind (Shape.ofText? .text) = t := by
  cases t <;> rfl

theorem bind_ofText?_count (env : Environment) (name : String) (kind : IntegerKind) :
    (env.get? name).bind (Shape.ofText? (.count kind)) = (number? env name kind).map Int.toNat := by
  rw [number?, Option.map_bind]
  rfl

/-- A field is what its variable tells, or what it was. -/
theorem get_override (env : Environment) (c : Configuration) (f : Field) :
    f.get (override env c) = (env.layer f).getD (f.get c) := by
  rw [Environment.layer, variableName_eq]
  cases f with
  | logLevel | logFormat | ruleDir =>
    exact congrArg (Option.getD · _) (bind_ofText?_text _).symm
  | replicas | channelCapacity | fetchTimeoutMs | fetchRetries | fetchRetryBackoffMs =>
    exact congrArg (Option.getD · _) (bind_ofText?_count env _ _).symm
  | utcOffsetSecs => rfl

/-! ### Files -/

theorem sectionFields?_eq_map {names : List String} (hnames : names.Nodup) {d : Json.Draft}
    {fields : List (Option Json.Draft)} (h : sectionFields? names d = some fields) :
    fields = names.map fun name => d.member? names name := by
  cases d with
  | leaf value => cases h
  | record members => exact Json.Draft.fields?_eq_map hnames h
  | list items =>
    have htaken : Json.Draft.fields? names (.list (items.take names.length)) = some fields := h
    rw [Json.Draft.fields?_eq_map hnames htaken]
    refine List.map_congr_left fun name hname => ?_
    rw [Json.Draft.member?, Json.Draft.member?,
      List.getElem?_take_of_lt (List.idxOf_lt_length_iff.2 hname)]

/-- A field is read from where it is set. -/
structure Taken (setting : Option Json.Draft) (f : Field) (value : f.Value) : Prop where
  sound : ∀ d ∈ setting, (f.shape.ofDraft? d).isSome
  value_eq : value = (setting.bind f.shape.ofDraft?).getD (f.get {})

theorem taken_of_withDefault {setting : Option Json.Draft} {f : Field} {value : f.Value}
    (h : Json.Draft.withDefault f.shape.ofDraft? (f.get {}) setting = some value) :
    Taken setting f value := by
  obtain ⟨hsound, hvalue⟩ := Json.Draft.withDefault_eq_some h
  exact ⟨hsound, hvalue⟩

theorem taken_default (f : Field) : Taken none f (f.get {}) where
  sound d hd := by cases hd
  value_eq := rfl

theorem taken_general {d : Json.Draft} {g : General} (h : General.ofDraft? d = some g) {f : Field}
    (hf : f.inSection = "general") :
    Taken (d.member? (fieldNames "general") f.name) f (f.get { general := g }) := by
  obtain ⟨fields, hfields, h⟩ := Option.bind_eq_some_iff.1 h
  rw [sectionFields?_eq_map (by decide) hfields] at h
  obtain ⟨logLevel, hlogLevel, h⟩ := Option.bind_eq_some_iff.1 h
  obtain ⟨logFormat, hlogFormat, h⟩ := Option.bind_eq_some_iff.1 h
  cases h
  cases f with
  | logLevel => exact taken_of_withDefault (f := .logLevel) hlogLevel
  | logFormat => exact taken_of_withDefault (f := .logFormat) hlogFormat
  | _ => exact absurd hf (by decide)

theorem taken_engine {d : Json.Draft} {s : Section} (h : Section.ofDraft? d = some s) {f : Field}
    (hf : f.inSection = "engine") :
    Taken (d.member? (fieldNames "engine") f.name) f (f.get { engine := s }) := by
  obtain ⟨fields, hfields, h⟩ := Option.bind_eq_some_iff.1 h
  rw [sectionFields?_eq_map (by decide) hfields] at h
  obtain ⟨replicas, hreplicas, h⟩ := Option.bind_eq_some_iff.1 h
  obtain ⟨channelCapacity, hchannelCapacity, h⟩ := Option.bind_eq_some_iff.1 h
  obtain ⟨ruleDir, hruleDir, h⟩ := Option.bind_eq_some_iff.1 h
  obtain ⟨fetchTimeoutMs, hfetchTimeoutMs, h⟩ := Option.bind_eq_some_iff.1 h
  obtain ⟨fetchRetries, hfetchRetries, h⟩ := Option.bind_eq_some_iff.1 h
  obtain ⟨fetchRetryBackoffMs, hfetchRetryBackoffMs, h⟩ := Option.bind_eq_some_iff.1 h
  obtain ⟨utcOffsetSecs, hutcOffsetSecs, h⟩ := Option.bind_eq_some_iff.1 h
  cases h
  cases f with
  | logLevel | logFormat => exact absurd hf (by decide)
  | replicas => exact taken_of_withDefault (f := .replicas) hreplicas
  | channelCapacity => exact taken_of_withDefault (f := .channelCapacity) hchannelCapacity
  | ruleDir => exact taken_of_withDefault (f := .ruleDir) hruleDir
  | fetchTimeoutMs => exact taken_of_withDefault (f := .fetchTimeoutMs) hfetchTimeoutMs
  | fetchRetries => exact taken_of_withDefault (f := .fetchRetries) hfetchRetries
  | fetchRetryBackoffMs => exact taken_of_withDefault (f := .fetchRetryBackoffMs) hfetchRetryBackoffMs
  | utcOffsetSecs => exact taken_of_withDefault (f := .utcOffsetSecs) hutcOffsetSecs

/-- In a document a section is found under its name. -/
theorem member?_draftMembers (ms : Toml.Members) (names : List String) (key : String) :
    Json.Draft.member? names key (.record (Toml.draftMembers ms)) = (Toml.find? key ms).map (·.draft) := by
  rw [Json.Draft.member?, Toml.find?, Option.map_map]
  induction ms with
  | nil => rfl
  | cons m rest ih =>
    obtain ⟨other, t⟩ := m
    by_cases h : other = key
    · rw [Toml.draftMembers, List.find?_cons_of_pos (by simpa using h),
        List.find?_cons_of_pos (by simpa using h)]
      rfl
    · rw [Toml.draftMembers, List.find?_cons_of_neg (by simpa using h),
        List.find?_cons_of_neg (by simpa using h)]
      exact ih

/-- A section that is left out leaves each of its fields out. -/
theorem taken_section {read : Json.Draft → Option α} {default value : α} {ms : Toml.Members}
    {f : Field} {v : f.Value}
    (h : Json.Draft.withDefault read default ((Toml.find? f.inSection ms).map (·.draft)) = some value)
    (habsent : default = value → v = f.get {})
    (hpresent : ∀ d, read d = some value → Taken (d.member? (fieldNames f.inSection) f.name) f v) :
    Taken (setting? ms f) f v := by
  unfold setting?
  cases hfind : Toml.find? f.inSection ms with
  | none =>
    rw [hfind] at h
    rw [habsent (Option.some.inj h)]
    exact taken_default f
  | some t =>
    rw [hfind] at h
    exact hpresent t.draft h

theorem taken_document {ms : Toml.Members} {c : Configuration}
    (h : ofDraft? (.record (Toml.draftMembers ms)) = some c) (f : Field) :
    Taken (setting? ms f) f (f.get c) := by
  obtain ⟨fields, hfields, h⟩ := Option.bind_eq_some_iff.1 h
  rw [Json.Draft.fields?_eq_map (by decide) hfields] at h
  obtain ⟨general, hgeneral, h⟩ := Option.bind_eq_some_iff.1 h
  obtain ⟨engine, hengine, h⟩ := Option.bind_eq_some_iff.1 h
  cases h
  dsimp only at hgeneral hengine
  rw [member?_draftMembers] at hgeneral hengine
  cases f with
  | logLevel | logFormat =>
    refine taken_section hgeneral (fun heq => ?_) fun d hd => taken_general hd rfl
    rw [← heq]
    rfl
  | _ =>
    refine taken_section hengine (fun heq => ?_) fun d hd => taken_engine hd rfl
    rw [← heq]
    rfl

theorem parse_eq_ok {text : String} {c : Configuration} (h : parse text = .ok c) :
    ∃ document, Toml.ofText? text = some document ∧
      ∀ f, Taken (setting? document f) f (f.get c) := by
  unfold parse at h
  split at h
  · next read hread =>
    cases h
    obtain ⟨document, hdocument, hc⟩ := Option.bind_eq_some_iff.1 hread
    exact ⟨document, hdocument, taken_document hc⟩
  · cases h

/-! ### Loading -/

theorem effective_silent {document : Toml.Members} {c : Configuration}
    (h : ∀ f, Taken (setting? document f) f (f.get c)) :
    effective (documentLayer document) .silent = c :=
  (eq_ofFields fun f => (h f).value_eq).symm

theorem override_eq_effective {document : Toml.Members} {c : Configuration}
    (h : ∀ f, Taken (setting? document f) f (f.get c)) (env : Environment) :
    override env c = effective (documentLayer document) env.layer := by
  refine eq_ofFields fun f => ?_
  rw [get_override, (h f).value_eq]
  show (env.layer f).getD ((documentLayer document f).getD (f.get {})) = _
  cases env.layer f <;> rfl

theorem load_eq (path : String) {bytes : List UInt8} {text : String} {c : Configuration}
    (env : Environment) (htext : Text.ofBytes? bytes = some text) (hparse : parse text = .ok c) :
    load path (some bytes) env =
      c.validate.bind fun _ => (override env c).validate.map fun _ => override env c := by
  unfold load ofFile
  dsimp only
  rw [htext]
  dsimp only
  rw [hparse]
  cases hvalid : c.validate with
  | error e =>
    dsimp only [bind, Except.bind]
    rw [hvalid]
  | ok _ =>
    dsimp only [bind, Except.bind, pure, Except.pure]
    rw [hvalid]
    dsimp only
    cases (override env c).validate <;> rfl

/-- **What is loaded is what the environment, the file and the defaults tell, in this order**, if it
is valid, and its first fault otherwise. The file alone has to be valid too. -/
theorem load_effective (path : String) {bytes : List UInt8} {text : String} {c : Configuration}
    (env : Environment) (htext : Text.ofBytes? bytes = some text) (hparse : parse text = .ok c) :
    ∃ document, Toml.ofText? text = some document ∧
      (∀ f, ∀ d ∈ setting? document f, (f.shape.ofDraft? d).isSome) ∧
      let alone := effective (documentLayer document) .silent
      let both := effective (documentLayer document) env.layer
      alone = c ∧
      (alone.validate = .ok () → both.validate = .ok () →
        load path (some bytes) env = .ok both) ∧
      (∀ e, alone.validate = .ok () → both.validate = .error e →
        load path (some bytes) env = .error e) ∧
      ∀ e, alone.validate = .error e → load path (some bytes) env = .error e := by
  obtain ⟨document, hdocument, htaken⟩ := parse_eq_ok hparse
  refine ⟨document, hdocument, fun f => (htaken f).sound, ?_⟩
  dsimp only
  rw [effective_silent htaken, ← override_eq_effective htaken env, load_eq path env htext hparse]
  refine ⟨rfl, fun halone hboth => ?_, fun e halone hboth => ?_, fun e halone => ?_⟩
  · rw [halone, hboth]
    rfl
  · rw [halone, hboth]
    rfl
  · rw [halone]
    rfl

/-- A file that sets two fields. -/
def layeredFile : String := "[engine]\nreplicas = 2\nchannel_capacity = 64\n"

/-- Variables for one of them and for another field, and one that spells no number. -/
def layeredVariables : Environment :=
  .ofList [("VIGIL_ENGINE_REPLICAS", "8"), ("VIGIL_ENGINE_FETCH_RETRIES", "many"),
    ("VIGIL_GENERAL_LOG_LEVEL", "debug")]

theorem load_effective_layered :
    Text.ofBytes? layeredFile.toUTF8.data.toList = some layeredFile ∧
      parse layeredFile = .ok { engine := { replicas := 2, channelCapacity := 64 } } ∧
      load "vigil.toml" (some layeredFile.toUTF8.data.toList) layeredVariables =
        .ok { general := { logLevel := "debug" }, engine := { replicas := 8, channelCapacity := 64 } } := by
  have htext : Text.ofBytes? layeredFile.toUTF8.data.toList = some layeredFile := by decide +kernel
  have hparse : parse layeredFile = .ok { engine := { replicas := 2, channelCapacity := 64 } } := by
    decide +kernel
  obtain ⟨document, hdocument, -, -, hload, -⟩ :=
    load_effective "vigil.toml" layeredVariables htext hparse
  have hboth : (Toml.ofText? layeredFile).map
      (fun d => effective (documentLayer d) layeredVariables.layer) = some
        { general := { logLevel := "debug" }, engine := { replicas := 8, channelCapacity := 64 } } := by
    decide +kernel
  have halone : (Toml.ofText? layeredFile).map
      (fun d => (effective (documentLayer d) .silent).validate) = some (.ok ()) := by
    decide +kernel
  rw [hdocument, Option.map_some] at hboth halone
  rw [Option.some.inj hboth] at hload
  exact ⟨htext, hparse, hload (Option.some.inj halone) (by decide +kernel)⟩

/-- A file that is no use alone. -/
def faultyFile : String := "[engine]\nreplicas = 0\n"

/-- A variable that mends it. -/
def mendingVariable : Environment := .ofList [("VIGIL_ENGINE_REPLICAS", "8")]

/-- The variable tells the only value that counts, and yet the file is refused for its own. -/
theorem load_refuses_overridden :
    (Toml.ofText? faultyFile).map (fun d =>
        (effective (documentLayer d) mendingVariable.layer).validate) = some (.ok ()) ∧
      load "vigil.toml" (some faultyFile.toUTF8.data.toList) mendingVariable =
        .error (.invalidValue "engine.replicas" "at least one replica is required") := by
  decide +kernel

end Watchpost.Configuration
