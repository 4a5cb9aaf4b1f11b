import Watchpost.Text.Letter

/-! How grave an alert is. -/
namespace Watchpost

inductive Severity where
  | info
  | low
  | medium
  | high
  | critical
  deriving DecidableEq

namespace Severity

/-- What a rule has that does not say. -/
def usual : Severity := medium

/-- From the least grave to the gravest. -/
def rank : Severity → Nat
  | info => 0
  | low => 1
  | medium => 2
  | high => 3
  | critical => 4

def name : Severity → String
  | info => "INFO"
  | low => "LOW"
  | medium => "MEDIUM"
  | high => "HIGH"
  | critical => "CRITICAL"

/-- Names count in any case and between blanks, and some have another form. No
letter beyond ASCII has a lower case that occurs in them. -/
def ofText? (s : String) : Option Severity :=
  match String.ofList ((Text.trim s.toList).map Text.lowerAscii) with
  | "info" | "informational" => some info
  | "low" => some low
  | "medium" | "med" => some medium
  | "high" => some high
  | "critical" | "crit" => some critical
  | _ => none

def fault (s : String) : String := s!"unknown severity '{s}'"

end Severity
end Watchpost
