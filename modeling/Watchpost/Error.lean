import Watchpost.Condition.Flaw

/-! What can go wrong with rules, records and the parts around them, and how it is
said. -/
namespace Watchpost

/-- A failure of the detection engine. -/
inductive Error where
  | compile (offset : Nat) (reason : String)
  /-- A LIKE pattern spells no pattern. -/
  | pattern
  | fetch (target reason : String)
  | ruleLoad (path reason : String)
  | ruleValidation (id reason : String)
  | notification (reason : String)
  | sink (name reason : String)
  | config (field reason : String)
  | channel (reason : String)
  | io (reason : String)
  deriving DecidableEq

namespace Error

def message : Error → String
  | compile offset reason => s!"compile error at offset {offset}: {reason}"
  | pattern => "regex error"
  | fetch target reason => s!"fetch error: {target}: {reason}"
  | ruleLoad path reason => s!"rule load error: {path}: {reason}"
  | ruleValidation id reason => s!"rule validation error: rule '{id}': {reason}"
  | notification reason => s!"invalid rule update notification: {reason}"
  | sink name reason => s!"sink error: {name}: {reason}"
  | config field reason => s!"config error: {field}: {reason}"
  | channel reason => s!"channel error: {reason}"
  | io reason => s!"io error: {reason}"

end Error

def Condition.Fault.toError : Condition.Fault → Error
  | .at offset flaw => .compile offset flaw.message
  | .pattern => .pattern

/-! ### Services -/

/-- A failure of the service that runs an engine. -/
inductive ServiceError where
  | fileNotFound (path : String)
  | parseFailed (reason : String)
  | invalidValue (field reason : String)
  | channelSend (reason : String)
  | initFailed (reason : String)
  | alreadyRunning
  | notRunning
  | rule (reason : String)
  | ruleStore (reason : String)
  | io (reason : String)
  deriving DecidableEq

namespace ServiceError

def message : ServiceError → String
  | fileNotFound path => s!"config error: config file not found: {path}"
  | parseFailed reason => s!"config error: failed to parse config: {reason}"
  | invalidValue field reason => s!"config error: invalid config value for '{field}': {reason}"
  | channelSend reason => s!"pipeline error: channel send failed: {reason}"
  | initFailed reason => s!"pipeline error: pipeline init failed: {reason}"
  | alreadyRunning => "pipeline error: pipeline already running"
  | notRunning => "pipeline error: pipeline not running"
  | rule reason => s!"detection error: rule error: {reason}"
  | ruleStore reason => s!"detection error: rule store error: {reason}"
  | io reason => s!"io error: {reason}"

end ServiceError

/-- How a service reports a failure of its engine. -/
def Error.toService : Error → ServiceError
  | .compile offset reason => .rule (Error.compile offset reason).message
  | .ruleValidation id reason => .rule (Error.ruleValidation id reason).message
  | .pattern => .rule Error.pattern.message
  | .fetch target reason => .ruleStore (Error.fetch target reason).message
  | .ruleLoad path reason => .ruleStore (Error.ruleLoad path reason).message
  | .io reason => .io reason
  | .channel reason => .channelSend reason
  | e => .initFailed e.message

end Watchpost
