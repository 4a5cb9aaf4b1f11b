import Watchpost.Rule.Basic
import Watchpost.Table

/-! The registry: the rules in force, and of every id the number of its last change.

Changes are numbered. A change with a lower number than the last one of its id comes
too late and is left out. A deletion leaves its number behind, so no late change
brings a deleted rule back. -/
namespace Watchpost

inductive Change where
  | upsert (seq : UInt64) (rule : Rule)
  | delete (seq : UInt64) (id : String)
  deriving DecidableEq

namespace Change

def seq : Change → UInt64
  | upsert seq _ => seq
  | delete seq _ => seq

def id : Change → String
  | upsert _ rule => rule.id
  | delete _ id => id

end Change

/-- What became of a change. -/
inductive Verdict where
  | applied
  | stale
  deriving DecidableEq

structure Registry where
  rules : Table Rule := .empty
  versions : Table UInt64 := .empty
  lastSeq : UInt64 := 0
  deriving DecidableEq

namespace Registry

/-! ### Changes -/

/-- Puts in a rule that was loaded and not changed since. -/
def load (r : Registry) (rule : Rule) : Registry :=
  { r with rules := r.rules.insert rule.id rule, versions := r.versions.insert rule.id 0 }

/-- The registry of loaded rules; of several with one id the last one counts. -/
def ofRules (rules : List Rule) : Registry := rules.foldl load {}

/-- Whether a later change of the same id is in force. -/
def isStale (r : Registry) (c : Change) : Bool :=
  match r.versions.get? c.id with
  | some version => c.seq < version
  | none => false

/-- Puts a change into force. -/
def enforce (r : Registry) (c : Change) : Registry :=
  { rules := match c with
      | .upsert _ rule => r.rules.insert rule.id rule
      | .delete _ id => r.rules.erase id
    versions := r.versions.insert c.id c.seq
    lastSeq := max r.lastSeq c.seq }

def apply (r : Registry) (c : Change) : Registry × Verdict :=
  if r.isStale c then (r, .stale) else (r.enforce c, .applied)

/-! ### Questions -/

def get? (r : Registry) (id : String) : Option Rule := r.rules.get? id

def contains (r : Registry) (id : String) : Bool := r.rules.contains id

/-- The number of the last change of an id, which may be its deletion. -/
def version? (r : Registry) (id : String) : Option UInt64 := r.versions.get? id

def size (r : Registry) : Nat := r.rules.size

def isEmpty (r : Registry) : Bool := r.rules.isEmpty

def enabled (r : Registry) : List Rule := r.rules.values.filter (·.enabled)

end Registry
end Watchpost
