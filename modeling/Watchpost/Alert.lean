import Watchpost.Instant.Reading
import Watchpost.Rule.Basic

/-! Alerts: what is told when a rule fires. -/
namespace Watchpost

structure Alert where
  alertId : String
  ruleId : String
  ruleName : String
  severity : Severity
  description : String
  userId : Option String
  hostname : Option String
  userIp : Option String
  timestamp : Instant
  deriving DecidableEq

namespace Alert

/-- The alert for a rule and an event. -/
def build (id : String) (now : Instant) (r : Rule) (e : Event) : Alert :=
  { alertId := id, ruleId := r.id, ruleName := r.name, severity := r.severity,
    description := r.description, userId := e.userId, hostname := e.hostname, userIp := e.userIp,
    timestamp := now }

/-- The id of the alert with a number: twelve hexadecimal digits. -/
def idOf (n : Nat) : String :=
  "alert-" ++ String.ofList ((Nat.toDigits 16 (0x1000000000000 + n % 0x1000000000000)).drop 1)

def render (a : Alert) : String :=
  let user := a.userId.getD "-"
  s!"[{a.severity.name}] {a.ruleName} (rule: {a.ruleId}, user: {user})"

/-! ### JSON -/

def toJson (a : Alert) : Json :=
  .record [
    ("alertId", .text a.alertId), ("ruleId", .text a.ruleId), ("ruleName", .text a.ruleName),
    ("severity", .text a.severity.name), ("description", .text a.description),
    ("userId", .textOrNull a.userId), ("hostname", .textOrNull a.hostname),
    ("userIp", .textOrNull a.userIp), ("timestamp", .text a.timestamp.write)]

def fieldNames : List String :=
  ["alertId", "ruleId", "ruleName", "severity", "description", "userId", "hostname", "userIp",
    "timestamp"]

/-- A text, or nothing; in a record it may also be left out. -/
def optionalText? (inRecord : Bool) : Option Json.Draft → Option (Option String)
  | none => if inRecord then some none else none
  | some d => d.nullable Json.Draft.text?

def ofDraft? (d : Json.Draft) : Option Alert := do
  let inRecord := match d with
    | .record _ => true
    | _ => false
  let text := Json.Draft.required Json.Draft.text?
  match ← d.fields? fieldNames with
  | [alertId, ruleId, ruleName, severity, description, userId, hostname, userIp, timestamp] =>
    return {
      alertId := ← text alertId
      ruleId := ← text ruleId
      ruleName := ← text ruleName
      severity := ← (text severity).bind Severity.ofText?
      description := ← text description
      userId := ← optionalText? inRecord userId
      hostname := ← optionalText? inRecord hostname
      userIp := ← optionalText? inRecord userIp
      timestamp := ← (text timestamp).bind Instant.read? }
  | _ => none

end Alert

/-- Where alerts come from: it counts them and gives them their ids. -/
structure AlertFactory where
  built : Nat := 0

def AlertFactory.build (f : AlertFactory) (now : Instant) (r : Rule) (e : Event) :
    Alert × AlertFactory :=
  (Alert.build (Alert.idOf f.built) now r e, ⟨f.built + 1⟩)

end Watchpost
