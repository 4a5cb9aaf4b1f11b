import Watchpost.Alert
import Watchpost.Event.Record
import Watchpost.Registry.Snapshot
import Watchpost.Stats

/-! Replicas: each has a registry of its own, which updates change and events are held
against.

A replica loads its rules when the first event comes. Changes that come before that
are put aside and replayed on what was loaded. Updates are numbered as they come. A
deletion is a change at once; an upsert becomes one when the definition was fetched. -/
namespace Watchpost

/-- Whether a replica has its rules. -/
inductive Replica.Phase where
  /-- Not yet; the changes that came so far, the oldest first. -/
  | waiting (pending : List Change)
  | ready (registry : Registry)
  deriving DecidableEq

structure Replica where
  number : Nat
  phase : Replica.Phase := .waiting []
  /-- The number of the last update. -/
  lastIssued : UInt64 := 0
  factory : AlertFactory := {}
  stats : Stats := {}
  metrics : Metrics := []

/-- A wish for the definition of a rule that an update named. -/
structure FetchRequest where
  seq : UInt64
  ruleId : String
  deriving DecidableEq

/-- What came of a wish; there may be no such definition. -/
structure FetchOutcome where
  seq : UInt64
  ruleId : String
  answer : Except Error (Option Definition)

namespace Replica

def registry? (r : Replica) : Option Registry :=
  match r.phase with
  | .ready registry => some registry
  | .waiting _ => none

def snapshot? (r : Replica) : Option Snapshot := r.registry?.map Registry.snapshot

/-! ### Counting -/

/-- Counts in the statistics and in the metrics. -/
def count (r : Replica) (c : Counter) : Replica :=
  { r with stats := r.stats.bump c, metrics := .count c :: r.metrics }

/-- Tells how many rules there are. -/
def showRules (r : Replica) (registry : Registry) : Replica :=
  { r with metrics := .activeRules r.number registry.size :: r.metrics }

/-- From now on the replica has its rules. -/
def setReady (r : Replica) (registry : Registry) : Replica :=
  { r.showRules registry with phase := .ready registry }

/-- Counts what became of a change in the statistics alone. -/
def countVerdict (s : Stats) : Verdict → Stats
  | .applied => { s with applied := s.applied + 1 }
  | .stale => { s with stale := s.stale + 1 }

/-! ### Restoring -/

/-- Takes the rules from a snapshot, and tells which ids did not compile. -/
def restore (r : Replica) (s : Snapshot) : Replica × List (String × Error) :=
  let (registry, failures) := Registry.restore s
  let stats :=
    { r.stats with compileFailures := r.stats.compileFailures + UInt64.ofNat failures.length }
  ({ r with lastIssued := registry.lastSeq, stats }.setReady registry, failures)

/-! ### Changes -/

def actionOf : Change → UpdateAction
  | .upsert .. => .upsert
  | .delete .. => .delete

/-- Puts a change into force, or aside. -/
def apply (r : Replica) (c : Change) : Replica :=
  match r.phase with
  | .waiting pending => { r with phase := .waiting (pending ++ [c]) }
  | .ready registry =>
    match registry.apply c with
    | (registry, .applied) =>
      ({ r with phase := .ready registry }.count (.applied (actionOf c))).showRules registry
    | (registry, .stale) =>
      { r with phase := .ready registry, stats := countVerdict r.stats .stale }

/-- Takes an update. An upsert asks for a definition. -/
def update (r : Replica) (u : RuleUpdate) : Replica × Option FetchRequest :=
  let seq := r.lastIssued + 1
  let r := { r with lastIssued := seq }
  match u.action with
  | .delete => (r.apply (.delete seq u.ruleId), none)
  | .upsert => (r, some ⟨seq, u.ruleId⟩)

/-- Nobody is there to fetch a definition. -/
def fetchFailed (r : Replica) : Replica := r.count .fetchFailures

/-- Takes what came of a wish. If it is no rule, the rule in force stays. -/
def takeOutcome (r : Replica) (o : FetchOutcome) : Replica :=
  match o.answer with
  | .ok (some definition) =>
    match Rule.compile o.ruleId definition with
    | .ok rule => r.apply (.upsert o.seq rule)
    | .error _ => r.count .compileFailures
  | .ok none => r.fetchFailed
  | .error _ => r.fetchFailed

/-! ### Loading -/

/-- Compiles definitions, and counts those that are no rules. -/
def compileAll (r : Replica) : List (String × Definition) → Replica × List Rule
  | [] => (r, [])
  | (id, d) :: rest =>
    match Rule.compile id d with
    | .ok rule =>
      let (r, rules) := compileAll r rest
      (r, rule :: rules)
    | .error _ => compileAll (r.count .compileFailures) rest

/-- Puts changes into force that were put aside. -/
def replay (registry : Registry) (s : Stats) : List Change → Registry × Stats
  | [] => (registry, s)
  | c :: rest =>
    let (registry, verdict) := registry.apply c
    replay registry (countVerdict s verdict) rest

/-- Takes the rules from what the store told. If it told nothing there are none. -/
def load (r : Replica) (answer : Except Error (List (String × Definition))) : Replica :=
  match r.phase with
  | .ready _ => r
  | .waiting pending =>
    let (r, rules) := match answer with
      | .ok definitions => r.compileAll definitions
      | .error _ => (r.fetchFailed, [])
    let (registry, stats) := replay (.ofRules rules) r.stats pending
    { r with stats }.setReady registry

/-! ### Events -/

/-- Reads a record. One that tells of no event is dropped. -/
def read (r : Replica) (n : Normalizer) (record : Record) : Replica × Option Event :=
  match n.ofRecord? record with
  | some e => (r, some e)
  | none => (r.count .dropped, none)

/-- Notes whether the event was taken by those who want to see all events. -/
def offered (r : Replica) (taken : Bool) : Replica := if taken then r else r.count .sinkFailures

/-- Builds the alerts of rules that fired. -/
def alertsOf (now : Instant) (e : Event) (factory : AlertFactory) :
    List Rule → AlertFactory × List Alert
  | [] => (factory, [])
  | rule :: rest =>
    let (alert, factory) := factory.build now rule e
    let (factory, alerts) := alertsOf now e factory rest
    (factory, alert :: alerts)

/-- Holds an event against all rules. The alerts are still to be sent. -/
def evaluate (r : Replica) (now : Instant) (e : Event) : Replica × List Alert :=
  match r.phase with
  | .waiting _ => (r, [])
  | .ready registry =>
    let fired := registry.rules.values.filter (·.fires e)
    let (factory, alerts) := alertsOf now e r.factory fired
    ({ r with factory, metrics := .evaluation :: r.metrics }.count .events, alerts)

/-- Notes whether an alert was taken. -/
def sent (r : Replica) (a : Alert) (taken : Bool) : Replica :=
  if taken then r.count (.alerts a.severity) else r.count .sinkFailures

end Replica
end Watchpost
