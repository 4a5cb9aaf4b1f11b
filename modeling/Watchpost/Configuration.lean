import Watchpost.Settings
import Watchpost.Text.Utf8
import Watchpost.Toml.Reading

/-! The configuration of a service, from a file and from the environment. -/
namespace Watchpost

structure Configuration.General where
  logLevel : String := "info"
  logFormat : String := "json"
  deriving DecidableEq

structure Configuration.Section where
  replicas : Nat := 4
  channelCapacity : Nat := 1024
  ruleDir : String := "/etc/vigil/rules"
  fetchTimeoutMs : Nat := 5000
  fetchRetries : Nat := 2
  fetchRetryBackoffMs : Nat := 500
  utcOffsetSecs : Int := 32400
  deriving DecidableEq

structure Configuration where
  general : Configuration.General := {}
  engine : Configuration.Section := {}
  deriving DecidableEq

namespace Configuration

/-! ### Validation -/

def logLevels : List String := ["trace", "debug", "info", "warn", "error"]

def logFormats : List String := ["json", "pretty"]

def check (field : String) (reason : String) (holds : Bool) : Except ServiceError Unit :=
  if holds then .ok () else .error (.invalidValue field reason)

/-- Of several faults the first one in this order counts. -/
def validate (c : Configuration) : Except ServiceError Unit := do
  let oneOf (names : List String) := "must be one of: " ++ ", ".intercalate names
  check "general.log_level" (oneOf logLevels) (logLevels.contains c.general.logLevel)
  check "general.log_format" (oneOf logFormats) (logFormats.contains c.general.logFormat)
  check "engine.replicas" "at least one replica is required" (0 < c.engine.replicas)
  check "engine.channel_capacity" "must be greater than 0" (0 < c.engine.channelCapacity)
  check "engine.fetch_timeout_ms" "rule store calls must be bounded by a non-zero timeout"
    (0 < c.engine.fetchTimeoutMs)
  check "engine.utc_offset_secs"
    s!"{c.engine.utcOffsetSecs} is outside {Settings.minUtcOffset}..={Settings.maxUtcOffset}"
    (Settings.minUtcOffset ≤ c.engine.utcOffsetSecs &&
      c.engine.utcOffsetSecs ≤ Settings.maxUtcOffset)

/-! ### Files -/

/-- The fields of a section. A list may be longer than they are. -/
def sectionFields? (names : List String) : Json.Draft → Option (List (Option Json.Draft))
  | .list items => Json.Draft.fields? names (.list (items.take names.length))
  | d => d.fields? names

def General.ofDraft? (d : Json.Draft) : Option General := do
  let base : General := {}
  let text := Json.Draft.withDefault Json.Draft.text?
  match ← sectionFields? ["log_level", "log_format"] d with
  | [logLevel, logFormat] =>
    return {
      logLevel := ← text base.logLevel logLevel, logFormat := ← text base.logFormat logFormat }
  | _ => none

def Section.fieldNames : List String :=
  ["replicas", "channel_capacity", "rule_dir", "fetch_timeout_ms", "fetch_retries",
    "fetch_retry_backoff_ms", "utc_offset_secs"]

def Section.ofDraft? (d : Json.Draft) : Option Section := do
  let base : Section := {}
  let count (k : IntegerKind) := Json.Draft.withDefault (Settings.count? k)
  match ← sectionFields? fieldNames d with
  | [replicas, channelCapacity, ruleDir, fetchTimeoutMs, fetchRetries, fetchRetryBackoffMs,
      utcOffsetSecs] =>
    return {
      replicas := ← count .nat64 base.replicas replicas
      channelCapacity := ← count .nat64 base.channelCapacity channelCapacity
      ruleDir := ← Json.Draft.withDefault Json.Draft.text? base.ruleDir ruleDir
      fetchTimeoutMs := ← count .nat64 base.fetchTimeoutMs fetchTimeoutMs
      fetchRetries := ← count .nat32 base.fetchRetries fetchRetries
      fetchRetryBackoffMs := ← count .nat64 base.fetchRetryBackoffMs fetchRetryBackoffMs
      utcOffsetSecs := ← Json.Draft.withDefault Settings.offset? base.utcOffsetSecs utcOffsetSecs }
  | _ => none

def ofDraft? (d : Json.Draft) : Option Configuration := do
  match ← d.fields? ["general", "engine"] with
  | [general, engine] =>
    return {
      general := ← Json.Draft.withDefault General.ofDraft? {} general
      engine := ← Json.Draft.withDefault Section.ofDraft? {} engine }
  | _ => none

/-- The configuration that a TOML text spells. What it leaves out has its default. -/
def parse (text : String) : Except ServiceError Configuration :=
  match (Toml.ofText? text).bind fun ms => ofDraft? (.record (Toml.draftMembers ms)) with
  | some c => .ok c
  | none => .error (.parseFailed "malformed TOML")

/-- The configuration in a file, which may not be there. -/
def ofFile (path : String) (content : Option (List UInt8)) : Except ServiceError Configuration := do
  match content with
  | none => .error (.fileNotFound path)
  | some bytes =>
    match Text.ofBytes? bytes with
    | none => .error (.io "stream did not contain valid UTF-8")
    | some text =>
      let c ← parse text
      c.validate
      return c

/-! ### The environment -/

/-- The variables that are set. -/
abbrev Environment := Table String

/-- A number that a variable gives, if it reads as one of its kind. -/
def number? (env : Environment) (name : String) (kind : IntegerKind) : Option Int :=
  (env.get? name).bind fun s => kind.read? s.toList

/-- What variables give takes the place of what was there. -/
def override (env : Environment) (c : Configuration) : Configuration :=
  let text (name : String) (there : String) := (env.get? name).getD there
  let count (name : String) (kind : IntegerKind) (there : Nat) :=
    ((number? env name kind).map Int.toNat).getD there
  { general :=
      { logLevel := text "VIGIL_GENERAL_LOG_LEVEL" c.general.logLevel
        logFormat := text "VIGIL_GENERAL_LOG_FORMAT" c.general.logFormat }
    engine :=
      { replicas := count "VIGIL_ENGINE_REPLICAS" .nat64 c.engine.replicas
        channelCapacity := count "VIGIL_ENGINE_CHANNEL_CAPACITY" .nat64 c.engine.channelCapacity
        ruleDir := text "VIGIL_ENGINE_RULE_DIR" c.engine.ruleDir
        fetchTimeoutMs := count "VIGIL_ENGINE_FETCH_TIMEOUT_MS" .nat64 c.engine.fetchTimeoutMs
        fetchRetries := count "VIGIL_ENGINE_FETCH_RETRIES" .nat32 c.engine.fetchRetries
        fetchRetryBackoffMs :=
          count "VIGIL_ENGINE_FETCH_RETRY_BACKOFF_MS" .nat64 c.engine.fetchRetryBackoffMs
        utcOffsetSecs :=
          (number? env "VIGIL_ENGINE_UTC_OFFSET_SECS" .int32).getD c.engine.utcOffsetSecs } }

/-- The configuration in a file and the environment. Both the file alone and the two
together have to be valid. -/
def load (path : String) (content : Option (List UInt8)) (env : Environment) :
    Except ServiceError Configuration := do
  let c := (← ofFile path content).override env
  c.validate
  return c

/-! ### Logging -/

/-- Starts logging, which works once. -/
def General.startLogging (g : General) (started : Bool) : Except ServiceError Unit :=
  if !logFormats.contains g.logFormat then
    .error (.invalidValue "general.log_format"
      s!"unknown log format '{g.logFormat}', expected 'json' or 'pretty'")
  else if started then
    .error (.invalidValue "general.log_format" ("failed to initialize tracing subscriber: " ++
      "a global default trace dispatcher has already been set"))
  else .ok ()

/-! ### JSON -/

def toJson (c : Configuration) : Json :=
  .record [
    ("general", .record [
      ("log_level", .text c.general.logLevel), ("log_format", .text c.general.logFormat)]),
    ("engine", .record [
      ("replicas", .integer c.engine.replicas),
      ("channel_capacity", .integer c.engine.channelCapacity), ("rule_dir", .text c.engine.ruleDir),
      ("fetch_timeout_ms", .integer c.engine.fetchTimeoutMs),
      ("fetch_retries", .integer c.engine.fetchRetries),
      ("fetch_retry_backoff_ms", .integer c.engine.fetchRetryBackoffMs),
      ("utc_offset_secs", .integer c.engine.utcOffsetSecs)])]

end Configuration

/-- The settings of the engine in a service. What a configuration does not tell has its default. -/
def Settings.ofSection (s : Configuration.Section) : Settings :=
  { replicas := s.replicas, channelCapacity := s.channelCapacity, ruleDir := s.ruleDir
    fetchTimeoutMs := s.fetchTimeoutMs, fetchRetries := s.fetchRetries
    fetchRetryBackoffMs := s.fetchRetryBackoffMs, utcOffsetSecs := s.utcOffsetSecs }

end Watchpost
