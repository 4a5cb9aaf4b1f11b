import Watchpost.Error
import Watchpost.Json.Fields
import Watchpost.Severity

/-! Definitions of rules, as they are stored. -/
namespace Watchpost

structure Definition where
  name : String := ""
  severity : Severity := .usual
  description : String := ""
  enabled : Bool := true
  sql : String
  deriving DecidableEq

/-! ### Ids -/

/-- The most bytes that the id of a rule may have. -/
def maxIdBytes : Nat := 256

/-- An id is not blank and not too long. -/
def validateId (id : String) : Except Error Unit :=
  if Text.isBlankText id then .error (.ruleValidation "(empty)" "rule id must not be empty")
  else if maxIdBytes < id.utf8ByteSize then
    .error (.ruleValidation (String.ofList (id.toList.take 32))
      s!"rule id must not exceed {maxIdBytes} bytes")
  else .ok ()

namespace Definition

def validate (d : Definition) (id : String) : Except Error Unit := do
  validateId id
  if Text.isBlankText d.sql then .error (.ruleValidation id "sql must not be empty")

/-! ### JSON -/

/-- A severity that is missing or unknown is the usual one. -/
def severity? (d : Json.Draft) : Option Severity :=
  (d.nullable Json.Draft.text?).map fun s => (s.bind Severity.ofText?).getD .usual

def fieldNames : List String := ["name", "severity", "description", "enabled", "sql"]

def ofFields? (fields : List (Option Json.Draft)) : Option Definition :=
  match fields with
  | [name, severity, description, enabled, sql] => do
    return {
      name := ← Json.Draft.withDefault Json.Draft.text? "" name
      severity := ← Json.Draft.withDefault severity? .usual severity
      description := ← Json.Draft.withDefault Json.Draft.text? "" description
      enabled := ← Json.Draft.withDefault Json.Draft.bool? true enabled
      sql := ← Json.Draft.required Json.Draft.text? sql }
  | _ => none

def ofDraft? (d : Json.Draft) : Option Definition := (d.fields? fieldNames).bind ofFields?

def toJson (d : Definition) : Json :=
  .record [
    ("name", .text d.name), ("severity", .text d.severity.name),
    ("description", .text d.description), ("enabled", .bool d.enabled), ("sql", .text d.sql)]

end Definition
end Watchpost
