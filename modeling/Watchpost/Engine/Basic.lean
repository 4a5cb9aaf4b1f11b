import Watchpost.Settings
import Watchpost.Site.Basic

/-! The engine: records are dealt out to replicas in turn, updates go to all of them.

While an engine runs it has a lane for each replica. Of several broadcasts only the
oldest is under way, so every lane is told the same updates in the same order. -/
namespace Watchpost

inductive Engine.Status where
  | initialized
  | running
  | stopped
  deriving DecidableEq

/-- An update on its way to the lanes, one after the other. -/
structure Broadcast where
  update : RuleUpdate
  /-- The lane that is told next. -/
  next : Nat := 0
  /-- Whether the update waits for room there. -/
  posted : Bool := false

structure Engine where
  settings : Settings
  status : Engine.Status := .initialized
  /-- What the replicas start from. -/
  snapshot : Option Snapshot := none
  site : Site
  /-- Counts the records that were dealt out. -/
  turn : UInt64 := 0
  /-- The broadcasts that are not over, the oldest first. -/
  broadcasts : List Broadcast := []
  /-- What the replicas of the last run did in all. -/
  stats : Stats := {}
  /-- What the replicas of the last run knew at its end. -/
  snapshots : List (Option Snapshot) := []
  /-- The samples of all runs that are over. -/
  metrics : Metrics := []

inductive Health where
  | healthy
  | degraded (reason : String)
  | unhealthy (reason : String)
  deriving DecidableEq

namespace Engine

def Status.name : Status → String
  | initialized => "initialized"
  | running => "running"
  | stopped => "stopped"

/-! ### Building -/

/-- An engine with valid settings and a channel for alerts of its own. -/
def build (settings : Settings) (store : Store) (snapshot : Option Snapshot)
    (events : Option (Channel Event)) : Except Error Engine := do
  settings.validate
  let normalizer ← Normalizer.ofOffset settings.utcOffsetSecs
  let world : World :=
    { normalizer, policy := settings.policy, store, events
      alerts := { capacity := settings.alertChannelCapacity } }
  return { settings, snapshot, site := .ofLanes world [] }

/-! ### Starting and stopping -/

/-- A lane for a new replica. -/
def newLane (e : Engine) (number : Nat) : Lane :=
  let replica : Replica := { number }
  let replica := match e.snapshot with
    | some s => (replica.restore s).1
    | none => replica
  .ofReplica replica e.settings.channelCapacity

def start (e : Engine) : Except ServiceError Engine :=
  if e.status = .running then .error .alreadyRunning
  else
    let lanes := (List.range e.settings.replicas).map e.newLane
    .ok { e with
      status := .running, site := .ofLanes e.site.world lanes, turn := 0, broadcasts := [] }

/-- From now on nothing is sent to the lanes. They still do what they were sent. -/
def endInput (e : Engine) : Except ServiceError Engine :=
  if e.status = .running then
    let endLane (s : Site) (i : Nat) : Site := (s.modifyLane i Lane.endInput).call ⟨i, .replica⟩
    let site := (List.range e.site.lanes.length).foldl endLane e.site
    .ok { e with site, broadcasts := [] }
  else .error .notRunning

/-- What a replica reports at its end; one that was brought down reports nothing. -/
def reportOf (l : Lane) : Option Replica := if l.isBroken then none else some l.replica

/-- Ends the run of lanes that have nothing left to do. -/
def conclude (e : Engine) : Engine :=
  let reports := e.site.lanes.map reportOf
  { e with
    status := .stopped
    site := .ofLanes e.site.world []
    stats := (reports.filterMap id).foldl (fun total r => total + r.stats) {}
    snapshots := reports.map fun r => r.bind Replica.snapshot?
    metrics := e.site.lanes.flatMap (·.replica.metrics) ++ e.metrics }

/-- All samples so far. -/
def allMetrics (e : Engine) : Metrics := e.site.lanes.flatMap (·.replica.metrics) ++ e.metrics

/-! ### Records -/

def notRunning : Error := .channel "engine is not running"

/-- Whether there are lanes to send to. -/
def isRunning (e : Engine) : Bool := e.status == .running && !e.site.lanes.isEmpty

def recordsClosed (i : Nat) : Error := .channel s!"replica {i} record channel closed"

/-- Deals out a record, and tells to which lane. It may wait for room there. -/
def submit (e : Engine) (record : Record) : Except Error Nat × Engine :=
  if !e.isRunning then (.error notRunning, e)
  else
    let i := e.turn.toNat % e.site.lanes.length
    let e := { e with turn := e.turn + 1 }
    match e.site.lane? i with
    | some l =>
      if l.records.isOpen then
        let site := e.site.modifyLane i fun l => { l with records := l.records.send record }
        (.ok i, { e with site })
      else (.error (recordsClosed i), e)
    | none => (.error (recordsClosed i), e)

/-- Whether a record waits for a place in a lane. -/
def recordWaits (i : Nat) (s : Site) : Bool :=
  (s.lane? i).any fun l => !l.records.waiting.isEmpty && l.records.kept == 0

/-- Goes on with a record that waited, and tells whether it could be sent. -/
def proceedRecord (e : Engine) (i : Nat) : Option Engine :=
  ((e.site.lane? i).bind fun l => l.records.enter? fun _ => true).map fun records =>
    { e with site := e.site.modifyLane i fun l => { l with records } }

/-- Gives up a record that waits for room. -/
def withdrawRecord (e : Engine) (i : Nat) : Engine :=
  { e with site := e.site.modifyLane i fun l => { l with records := l.records.withdraw } }

/-! ### Updates -/

def updatesClosed (i : Nat) : Error := .channel s!"replica {i} update channel closed"

/-- Asks for a broadcast. -/
def broadcast (e : Engine) (u : RuleUpdate) : Except Error Engine :=
  if e.isRunning then .ok { e with broadcasts := e.broadcasts ++ [{ update := u }] }
  else .error notRunning

/-- How far a broadcast is. -/
inductive Reach where
  | told (s : Site)
  | stuck (s : Site) (b : Broadcast)
  | failed (s : Site) (lane : Nat)

/-- Tells some more lanes of an update. It ends at the first one that is over. -/
def fanOut (s : Site) (u : RuleUpdate) (next : Nat) (posted : Bool) : (left : Nat) → Reach
  | 0 => .told s
  | left + 1 =>
    match s.lane? next with
    | none => .told s
    | some l =>
      if !l.updates.isOpen then .failed s next
      else if posted then
        match l.updates.enter? fun _ => true with
        | some updates =>
          fanOut (s.modifyLane next fun l => { l with updates }) u (next + 1) false left
        | none => .stuck s ⟨u, next, true⟩
      else
        let sent := s.modifyLane next fun l => { l with updates := l.updates.send u }
        if l.updates.hasRoom then fanOut sent u (next + 1) false left
        else .stuck sent ⟨u, next, true⟩

/-- Goes on with the oldest broadcast, and tells what came of it when it is over. -/
def proceed (e : Engine) : Engine × Option (Except Error Unit) :=
  match e.broadcasts with
  | [] => (e, none)
  | b :: rest =>
    match fanOut e.site b.update b.next b.posted (e.site.lanes.length - b.next) with
    | .told site => ({ e with site, broadcasts := rest }, some (.ok ()))
    | .stuck site b => ({ e with site, broadcasts := b :: rest }, none)
    | .failed site i => ({ e with site, broadcasts := rest }, some (.error (updatesClosed i)))

/-- Gives up all broadcasts. -/
def abandon (e : Engine) : Engine :=
  let lanes := e.site.lanes.map fun l => { l with updates := l.updates.withdraw }
  { e with site := { e.site with lanes }, broadcasts := [] }

/-- Asks for the broadcast of a notification. -/
def notify (e : Engine) (bytes : List UInt8) : Except Error Engine :=
  match RuleUpdate.ofBytes bytes with
  | .ok u => e.broadcast u
  | .error fault => .error fault.toError

/-! ### Health -/

/-- A queue with less than a tenth of its places free. -/
def isSaturated (e : Engine) (l : Lane) : Bool := l.records.room * 10 < e.settings.channelCapacity

def health (e : Engine) : Health :=
  match e.status with
  | .initialized => .unhealthy "not started"
  | .stopped => .unhealthy "stopped"
  | .running =>
    let total := e.site.lanes.length
    let ended := e.site.lanes.countP Lane.isOver
    let saturated := e.site.lanes.countP e.isSaturated
    if ended = total then .unhealthy "all replicas stopped"
    else if 0 < ended then .degraded s!"{ended} of {total} replicas stopped"
    else if 0 < saturated then
      .degraded s!"{saturated} replica input queues above 90% utilization"
    else .healthy

end Engine
end Watchpost
