import Watchpost.Rule.Definition
import Watchpost.Table

/-! The rule store: definitions under the ids of their rules.

A store takes some time for a call and may fail it, whatever it holds. How it takes
the next calls is a script; after its end every call is taken in the usual way. -/
namespace Watchpost

/-- How a store takes a call. -/
inductive Conduct where
  /-- Answers after some milliseconds, perhaps with a failure. -/
  | answers (delay : Nat) (failure : Option String)
  /-- Brings down who called. -/
  | breaks
  deriving DecidableEq

/-- Answers at once with what the store holds. -/
def Conduct.prompt : Conduct := .answers 0 none

structure Store where
  definitions : Table Definition := .empty
  script : List Conduct := []
  usual : Conduct := .prompt

namespace Store

/-! ### What it holds -/

def put (s : Store) (id : String) (d : Definition) : Store :=
  { s with definitions := s.definitions.insert id d }

def remove (s : Store) (id : String) : Store :=
  { s with definitions := s.definitions.erase id }

def fetch (s : Store) (id : String) : Option Definition := s.definitions.get? id

def all (s : Store) : List (String × Definition) := s.definitions.entries

/-! ### How it takes calls -/

/-- How the next call is taken. -/
def conduct (s : Store) : Conduct :=
  match s.script with
  | c :: _ => c
  | [] => s.usual

/-- The store after a call. -/
def called (s : Store) : Store := { s with script := s.script.tail }

end Store

/-- What a call that may be failed answers. -/
def answerOf (target : String) (failure : Option String) (value : α) : Except Error α :=
  match failure with
  | some reason => .error (.fetch target reason)
  | none => .ok value

end Watchpost
