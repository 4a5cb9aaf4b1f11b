import Watchpost.Json.Fields
import Watchpost.Registry.Basic

/-! Snapshots: registries as they are stored, rules as their definitions. -/
namespace Watchpost

structure Snapshot.Entry where
  seq : UInt64
  definition : Definition
  deriving DecidableEq

structure Snapshot where
  lastSeq : UInt64
  rules : Table Snapshot.Entry
  /-- The deleted ids and the numbers of their deletions. -/
  tombstones : Table UInt64
  deriving DecidableEq

namespace Registry

def snapshot (r : Registry) : Snapshot :=
  { lastSeq := r.lastSeq
    rules := r.rules.map fun id rule => ⟨(r.versions.get? id).getD 0, rule.definition⟩
    tombstones := r.versions.filter fun id _ => !r.rules.contains id }

/-- Puts a stored rule back. One that does not compile only leaves its number. -/
def restoreEntry (r : Registry) (id : String) (e : Snapshot.Entry) :
    Registry × Option (String × Error) :=
  let r := { r with versions := r.versions.insert id e.seq }
  match Rule.compile id e.definition with
  | .ok rule => ({ r with rules := r.rules.insert id rule }, none)
  | .error error => (r, some (id, error))

def restoreEntries (r : Registry) :
    List (String × Snapshot.Entry) → Registry × List (String × Error)
  | [] => (r, [])
  | (id, e) :: rest =>
    let (r, failure) := r.restoreEntry id e
    let (r, failures) := restoreEntries r rest
    (r, failure.toList ++ failures)

/-- The registry of a snapshot, and the ids that did not compile, in order. -/
def restore (s : Snapshot) : Registry × List (String × Error) :=
  restoreEntries { versions := s.tombstones, lastSeq := s.lastSeq } s.rules.entries

end Registry

namespace Snapshot

/-! ### JSON -/

def seqJson (seq : UInt64) : Json := .integer seq.toNat

def Entry.toJson (e : Entry) : Json :=
  .record [("seq", seqJson e.seq), ("definition", e.definition.toJson)]

def toJson (s : Snapshot) : Json :=
  .record [
    ("lastSeq", seqJson s.lastSeq),
    ("rules", .record (s.rules.map fun _ e => e.toJson).entries),
    ("tombstones", .record (s.tombstones.map fun _ seq => seqJson seq).entries)]

def seq? (d : Json.Draft) : Option UInt64 :=
  (d.integer? .nat64).map fun i => UInt64.ofNat i.toNat

def Entry.ofDraft? (d : Json.Draft) : Option Entry := do
  match ← d.fields? ["seq", "definition"] with
  | [seq, definition] =>
    return {
      seq := ← Json.Draft.required seq? seq
      definition := ← Json.Draft.required Definition.ofDraft? definition }
  | _ => none

def ofDraft? (d : Json.Draft) : Option Snapshot := do
  match ← d.fields? ["lastSeq", "rules", "tombstones"] with
  | [lastSeq, rules, tombstones] =>
    return {
      lastSeq := ← Json.Draft.required seq? lastSeq
      rules := ← Json.Draft.required (Json.Draft.table? Entry.ofDraft?) rules
      tombstones := ← Json.Draft.withDefault (Json.Draft.table? seq?) .empty tombstones }
  | _ => none

/-- A snapshot as the text it is stored as. -/
def write (s : Snapshot) : String := s.toJson.write

def ofText? (text : String) : Option Snapshot := (Json.Draft.ofText? text).bind ofDraft?

end Snapshot
end Watchpost
