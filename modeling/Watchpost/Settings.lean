import Watchpost.Json.Fields
import Watchpost.Store.Retry

/-! Settings of an engine. -/
namespace Watchpost

structure Settings where
  replicas : Nat := 4
  channelCapacity : Nat := 1024
  ruleDir : String := "/etc/vigil/rules"
  fetchTimeoutMs : Nat := 5000
  fetchRetries : Nat := 2
  fetchRetryBackoffMs : Nat := 500
  utcOffsetSecs : Int := 32400
  alertChannelCapacity : Nat := 1024
  maxRuleFileBytes : Nat := 1048576
  maxRules : Nat := 10000
  deriving DecidableEq

namespace Settings

/-! ### Bounds -/

def maxReplicas : Nat := 256

def maxChannelCapacity : Nat := 1000000

def maxFetchRetries : Nat := 10

def minUtcOffset : Int := -43200

def maxUtcOffset : Int := 50400

/-- A fault of a field unless a condition holds. -/
def check (field : String) (reason : String) (holds : Bool) : Except Error Unit :=
  if holds then .ok () else .error (.config field reason)

/-- Of several faults the first one in this order counts. -/
def validate (s : Settings) : Except Error Unit := do
  check "replicas" s!"must be 1-{maxReplicas}" (0 < s.replicas && s.replicas ≤ maxReplicas)
  check "channel_capacity" s!"must be 1-{maxChannelCapacity}"
    (0 < s.channelCapacity && s.channelCapacity ≤ maxChannelCapacity)
  check "alert_channel_capacity" s!"must be 1-{maxChannelCapacity}"
    (0 < s.alertChannelCapacity && s.alertChannelCapacity ≤ maxChannelCapacity)
  check "fetch_timeout_ms" "must be greater than 0" (0 < s.fetchTimeoutMs)
  check "fetch_retries" s!"must be at most {maxFetchRetries}" (s.fetchRetries ≤ maxFetchRetries)
  check "utc_offset_secs" s!"must be within {minUtcOffset}..={maxUtcOffset}"
    (minUtcOffset ≤ s.utcOffsetSecs && s.utcOffsetSecs ≤ maxUtcOffset)
  check "max_rule_file_bytes" "must be greater than 0" (0 < s.maxRuleFileBytes)
  check "max_rules" "must be greater than 0" (0 < s.maxRules)

/-- How the store is called. -/
def policy (s : Settings) : FetchPolicy :=
  { timeout := s.fetchTimeoutMs, retries := s.fetchRetries, backoff := s.fetchRetryBackoffMs }

/-! ### JSON -/

def toJson (s : Settings) : Json :=
  .record [
    ("replicas", .integer s.replicas), ("channel_capacity", .integer s.channelCapacity),
    ("rule_dir", .text s.ruleDir), ("fetch_timeout_ms", .integer s.fetchTimeoutMs),
    ("fetch_retries", .integer s.fetchRetries),
    ("fetch_retry_backoff_ms", .integer s.fetchRetryBackoffMs),
    ("utc_offset_secs", .integer s.utcOffsetSecs),
    ("alert_channel_capacity", .integer s.alertChannelCapacity),
    ("max_rule_file_bytes", .integer s.maxRuleFileBytes), ("max_rules", .integer s.maxRules)]

def fieldNames : List String :=
  ["replicas", "channel_capacity", "rule_dir", "fetch_timeout_ms", "fetch_retries",
    "fetch_retry_backoff_ms", "utc_offset_secs", "alert_channel_capacity", "max_rule_file_bytes",
    "max_rules"]

/-- A number of a kind without a sign. -/
def count? (k : IntegerKind) (d : Json.Draft) : Option Nat := (d.integer? k).map Int.toNat

/-- A number of seconds. -/
def offset? (d : Json.Draft) : Option Int := d.integer? .int32

def ofDraft? (d : Json.Draft) : Option Settings := do
  let count (k : IntegerKind) := Json.Draft.required (count? k)
  match ← d.fields? fieldNames with
  | [replicas, channelCapacity, ruleDir, fetchTimeoutMs, fetchRetries, fetchRetryBackoffMs,
      utcOffsetSecs, alertChannelCapacity, maxRuleFileBytes, maxRules] =>
    return {
      replicas := ← count .nat64 replicas
      channelCapacity := ← count .nat64 channelCapacity
      ruleDir := ← Json.Draft.required Json.Draft.text? ruleDir
      fetchTimeoutMs := ← count .nat64 fetchTimeoutMs
      fetchRetries := ← count .nat32 fetchRetries
      fetchRetryBackoffMs := ← count .nat64 fetchRetryBackoffMs
      utcOffsetSecs := ← Json.Draft.required offset? utcOffsetSecs
      alertChannelCapacity := ← count .nat64 alertChannelCapacity
      maxRuleFileBytes := ← count .nat64 maxRuleFileBytes
      maxRules := ← count .nat64 maxRules }
  | _ => none

end Settings
end Watchpost
