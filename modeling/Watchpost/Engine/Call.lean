import Watchpost.Engine.Basic
import Watchpost.Site.RunOut

/-! Calls of an engine, awaited.

A call that has to wait for room waits as long as the caller has patience, in
milliseconds; meanwhile the lanes go on. Stopping has all the time that it needs. -/
namespace Watchpost

/-- What came of a call. -/
inductive Engine.Answer where
  | ok
  | failed (error : Error)
  /-- The caller lost patience. -/
  | gaveUp

namespace Engine

/-- What is left of the caller's turn after it was woken. -/
def freshUnits : Nat := Site.turnUnits - 1

/-! ### Records -/

/-- Awaits room for a record in a lane, and sends it there. -/
def awaitRecord (patience : Nat) (e : Engine) (i : Nat) : Answer × Engine :=
  let site := e.site.elapseWhile (recordWaits i) (e.site.world.now + patience)
  let e := { e with site }
  match e.proceedRecord i with
  | some e => (.ok, e)
  | none =>
    if (site.lane? i).any Lane.isOver then (.failed (recordsClosed i), e)
    else (.gaveUp, e.withdrawRecord i)

/-- Submits a record in the caller's turn, and tells how much is left of that. One that is
given up is lost, but it had its turn. -/
def submitWithin (patience : Nat) (e : Engine) (units : Nat) (record : Record) :
    Answer × Nat × Engine :=
  match e.submit record with
  | (.error error, e) => (.failed error, units - 1, e)
  | (.ok i, e) =>
    if recordWaits i e.site then
      let (answer, e) := e.awaitRecord patience i
      (answer, freshUnits, e)
    else (.ok, units - 1, e)

/-- Submits records one after the other, and tells what came of the last one. When the
caller's turn is over the lanes have a round. -/
def submitEach (patience : Nat) (e : Engine) (units : Nat) : List Record → Option Answer × Engine
  | [] => (none, e)
  | record :: rest =>
    let (units, e) :=
      if units = 0 then (Site.turnUnits, { e with site := e.site.round }) else (units, e)
    let (answer, units, e) := e.submitWithin patience units record
    match rest with
    | [] => (some answer, e)
    | rest => e.submitEach patience units rest

/-- Submits records in a turn for which the caller was woken. -/
def submitAll (patience : Nat) (e : Engine) (records : List Record) : Option Answer × Engine :=
  e.submitEach patience freshUnits records

/-! ### Updates -/

/-- Whether an update waits for a place in a lane. -/
def updateWaits (next : Nat) (s : Site) : Bool :=
  (s.lane? next).any fun l => !l.updates.waiting.isEmpty && l.updates.kept == 0

/-- Goes on with the oldest broadcast up to a moment. It waits at one lane after the
other, so there is an end to it. -/
def finishBroadcast (moment : Nat) (e : Engine) : (left : Nat) → Answer × Engine
  | 0 => (.gaveUp, e.abandon)
  | left + 1 =>
    match e.proceed with
    | (e, some (.ok ())) => (.ok, e)
    | (e, some (.error error)) => (.failed error, e)
    | (e, none) =>
      match e.broadcasts with
      | [] => (.ok, e)
      | b :: _ =>
        let site := e.site.elapseWhile (updateWaits b.next) moment
        let e := { e with site }
        if updateWaits b.next site then (.gaveUp, e.abandon) else e.finishBroadcast moment left

/-- Awaits the broadcast that was asked for. -/
def awaitBroadcast (patience : Nat) (e : Engine) : Answer × Engine :=
  e.finishBroadcast (e.site.world.now + patience) (e.site.lanes.length + 1)

/-- Broadcasts an update. -/
def broadcastWithin (patience : Nat) (e : Engine) (u : RuleUpdate) : Answer × Engine :=
  match e.broadcast u with
  | .ok e => e.awaitBroadcast patience
  | .error error => (.failed error, e)

/-- Broadcasts a notification. -/
def notifyWithin (patience : Nat) (e : Engine) (bytes : List UInt8) : Answer × Engine :=
  match e.notify bytes with
  | .ok e => e.awaitBroadcast patience
  | .error error => (.failed error, e)

/-! ### Stopping -/

/-- Stops: the lanes do what they were sent and report. Their alerts are taken meanwhile. -/
def stop (e : Engine) : Except ServiceError (List Alert × Engine) := do
  let ending ← e.endInput
  let (alerts, site) := ending.site.runOut
  return (alerts, { ending with site }.conclude)

end Engine
end Watchpost
