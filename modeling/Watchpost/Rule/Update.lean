import Watchpost.Rule.Definition
import Watchpost.Text.Utf8

/-! Notifications that a rule was changed or removed. -/
namespace Watchpost

inductive UpdateAction where
  | upsert
  | delete
  deriving DecidableEq

structure RuleUpdate where
  ruleId : String
  action : UpdateAction := .upsert
  deriving DecidableEq

namespace UpdateAction

def name : UpdateAction → String
  | upsert => "upsert"
  | delete => "delete"

def ofText? (s : String) : Option UpdateAction :=
  match String.ofList ((Text.trim s.toList).map Text.lowerAscii) with
  | "upsert" => some upsert
  | "delete" => some delete
  | _ => none

end UpdateAction

namespace RuleUpdate

/-- Why bytes are no notification. -/
inductive Fault where
  | malformed
  | unknownAction (name : String)
  | badId (error : Error)

def Fault.toError : Fault → Error
  | .malformed => .notification "malformed"
  | .unknownAction name => .notification s!"unknown rule update action '{name}'"
  | .badId e => .notification e.message

def actionOf (d : Json.Draft) : Except Fault UpdateAction :=
  match d.text? with
  | none => .error .malformed
  | some s =>
    match UpdateAction.ofText? s with
    | some a => .ok a
    | none => .error (.unknownAction s)

/-- What was read of a notification so far. -/
structure Partial where
  ruleId : Option String := none
  action : Option UpdateAction := none

def readId (p : Partial) (d : Json.Draft) : Except Fault Partial :=
  match p.ruleId, d.text? with
  | none, some s => .ok { p with ruleId := some s }
  | _, _ => .error .malformed

def readAction (p : Partial) (d : Json.Draft) : Except Fault Partial :=
  if p.action.isSome then .error .malformed
  else (actionOf d).map fun a => { p with action := some a }

/-- Reads a member of a record. -/
def readMember (p : Partial) : Option String × Json.Draft → Except Fault Partial
  | (none, _) => .error .malformed
  | (some name, d) =>
    if name = "ruleId" then readId p d
    else if name = "action" then readAction p d
    else .ok p

/-- Reads the items of a list: an id, then perhaps an action. -/
def readItems (p : Partial) : List Json.Draft → Except Fault Partial
  | [] => .ok p
  | [id] => readId p id
  | [id, action] => do readAction (← readId p id) action
  | id :: action :: _ => do
    let _ ← readAction (← readId p id) action
    .error .malformed

/-- The first fault counts: what stands behind it is not looked at. -/
def ofBytes (bytes : List UInt8) : Except Fault RuleUpdate := do
  let (draft, whole) := Json.Draft.readFar (Text.decode bytes)
  let p ← match draft with
    | .record members => members.foldlM readMember {}
    | .list items => readItems {} items
    | .leaf _ => .error .malformed
  match p.ruleId, whole with
  | some ruleId, true =>
    match validateId ruleId with
    | .ok () => .ok ⟨ruleId, p.action.getD .upsert⟩
    | .error e => .error (.badId e)
  | _, _ => .error .malformed

end RuleUpdate
end Watchpost
