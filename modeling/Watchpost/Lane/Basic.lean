import Watchpost.Channel
import Watchpost.Replica.Basic
import Watchpost.Store.Fetch

/-! Lanes: replicas with their queues, and the workers that fetch rules for them.

A lane has two sides, and each moves step by step. Its replica takes one message at a
time. It looks for updates first, then for outcomes of fetches, then for records, and begins
anew once it found something. Each look is a step of its own: what comes into a channel
behind its look is only found in the next pass. While the replica waits for the store or for
somebody to take an alert it takes nothing. Its worker fetches one definition after
another meanwhile. Each step has a price in units of a turn. Moments are
milliseconds. -/
namespace Watchpost

/-- What all lanes share. -/
structure World where
  normalizer : Normalizer
  policy : FetchPolicy
  now : Nat := 0
  store : Store := {}
  /-- The alerts with the numbers of their replicas. -/
  alerts : Channel (Nat × Alert)
  /-- Where events go; if nowhere, they are not wanted. -/
  events : Option (Channel Event) := none

namespace World

def clock (w : World) : Instant := ⟨w.now / 1000, w.now % 1000 * 1000000⟩

/-- Offers an event. It is not waited for room. -/
def offer (w : World) (e : Event) : Bool × World :=
  match w.events with
  | none => (true, w)
  | some c =>
    if c.isOpen && c.hasRoom then (true, { w with events := some (c.send e) }) else (false, w)

/-- Whether an alert of a replica waits and has no place yet. -/
def holds (w : World) (replica : Nat) : Bool :=
  w.alerts.waiting.any (·.1 == replica) && !w.alerts.keepsFor (·.1 == replica)

/-- Sends the alert of a replica that has a place. -/
def enter (w : World) (replica : Nat) : World :=
  { w with alerts := (w.alerts.enter? (·.1 == replica)).getD w.alerts }

end World

/-- What a replica is about. -/
inductive Lane.Task where
  | idle
  /-- Loads its rules, to hold an event against them. -/
  | loading (event : Event) (fetch : Fetch)
  /-- Sends the alerts that it built; some are left, and the first of these may have been
  handed over and wait for room. -/
  | sending (built left : List Alert) (posted : Bool)
  /-- There will be no more messages. -/
  | done
  /-- The store brought it down. -/
  | broken

/-- What a worker is about. -/
inductive Lane.Worker where
  | idle
  | fetching (request : FetchRequest) (fetch : Fetch)
  /-- Tells an outcome, which may have been handed over and wait for room. -/
  | telling (outcome : FetchOutcome) (posted : Bool)
  /-- Goes as soon as its last outcome has room. -/
  | leaving
  | gone

inductive Lane.Side where
  | replica
  | worker
  deriving DecidableEq

/-- What kind of message a replica looks for. -/
inductive Lane.Look where
  | updates
  | outcomes
  | records
  deriving DecidableEq

/-- What it looks for next when there is none. -/
def Lane.Look.next : Look → Look
  | .updates => .outcomes
  | .outcomes => .records
  | .records => .updates

structure Lane where
  replica : Replica
  task : Lane.Task := .idle
  /-- Whether the replica takes messages by itself. -/
  loops : Bool := true
  /-- What it looks for when it is idle. -/
  looking : Lane.Look := .updates
  records : Channel Record
  updates : Channel RuleUpdate
  requests : List FetchRequest := []
  outcomes : Channel FetchOutcome
  worker : Lane.Worker := .idle

namespace Lane

/-- A lane whose queues all have the same length. -/
def ofReplica (r : Replica) (capacity : Nat) : Lane :=
  { replica := r, records := { capacity }, updates := { capacity }, outcomes := { capacity } }

def isIdle (l : Lane) : Bool :=
  match l.task with
  | .idle => true
  | _ => false

/-- Nobody sends records or updates any more. -/
def endInput (l : Lane) : Lane :=
  { l with records := l.records.endInput, updates := l.updates.endInput }

/-- Whether the replica takes no more messages. -/
def isOver (l : Lane) : Bool :=
  match l.task with
  | .done | .broken => true
  | _ => false

def isBroken (l : Lane) : Bool :=
  match l.task with
  | .broken => true
  | _ => false

def workerGone (l : Lane) : Bool :=
  match l.worker with
  | .gone => true
  | _ => false

/-! ### The replica -/

/-- Nothing is taken any more. A worker whose outcome waits has nobody left to tell. -/
def finish (l : Lane) (task : Task) : Lane :=
  { l with
    task
    records := l.records.close
    updates := l.updates.close
    outcomes := l.outcomes.close
    worker := if l.outcomes.waiting.isEmpty then l.worker else .gone }

/-- Takes an update. A wish that nobody fetches has failed. -/
def takeUpdate (l : Lane) (u : RuleUpdate) : Lane :=
  match l.replica.update u with
  | (replica, none) => { l with replica }
  | (replica, some request) =>
    if l.workerGone then { l with replica := replica.fetchFailed }
    else { l with replica, requests := l.requests ++ [request] }

/-- Holds an event against the rules. -/
def evaluate (l : Lane) (w : World) (e : Event) : Lane :=
  let (replica, alerts) := l.replica.evaluate w.clock e
  { l with replica, task := .sending alerts alerts false }

/-- Goes on with an event as far as the rules are loaded. -/
def loaded (l : Lane) (w : World) (e : Event) (p : Progress (List (String × Definition))) : Lane :=
  match p with
  | .waiting fetch => { l with task := .loading e fetch }
  | .answered answer => { l with replica := l.replica.load answer }.evaluate w e
  | .broken => l.finish .broken

/-- Takes an event: offers it, and holds it against the rules when they are there. -/
def takeEvent (l : Lane) (w : World) (e : Event) : World × Lane :=
  let (taken, w) := w.offer e
  let l := { l with replica := l.replica.offered taken }
  match l.replica.phase with
  | .ready _ => (w, l.evaluate w e)
  | .waiting _ =>
    let (progress, store) := Fetch.start w.policy w.now w.store
    ({ w with store }, l.loaded w e progress)

/-- Takes a record. -/
def takeRecord (l : Lane) (w : World) (record : Record) : World × Lane :=
  match l.replica.read w.normalizer record with
  | (replica, some e) => { l with replica }.takeEvent w e
  | (replica, none) => (w, { l with replica })

/-- Takes a message of the kind that is looked for, or learns that there will be none; then a
new pass begins. After the last record nothing is left to do. -/
def find? (l : Lane) (w : World) : Option (World × Lane) :=
  match l.looking with
  | .updates =>
    match l.updates.next? with
    | some (some u, updates) => some (w, { l with updates }.takeUpdate u)
    | some (none, updates) => some (w, { l with updates })
    | none => none
  | .outcomes =>
    match l.outcomes.next? with
    | some (some o, outcomes) =>
      some (w, { l with outcomes, looking := .updates, replica := l.replica.takeOutcome o })
    | some (none, outcomes) => some (w, { l with outcomes, looking := .updates })
    | none => none
  | .records =>
    match l.records.next? with
    | some (some record, records) =>
      some ({ l with records, looking := .updates }.takeRecord w record)
    | some (none, _) => some (w, l.finish .done)
    | none => none

def lookOn (l : Lane) : Lane := { l with looking := l.looking.next }

/-- Looks once. Where there is nothing it looks for the next kind, and others may have put
something into a channel by then. -/
def look (l : Lane) (w : World) : World × Lane := (l.find? w).getD (w, l.lookOn)

/-- Looks for one kind after the other up to the first message, with nobody in between. -/
def pass (l : Lane) (w : World) : Option (World × Lane) :=
  match l.find? w with
  | some found => some found
  | none =>
    match l.lookOn.find? w with
    | some found => some found
    | none => l.lookOn.lookOn.find? w

/-- Goes on with loading when it is due. -/
def loadStep (l : Lane) (w : World) (e : Event) (fetch : Fetch) : Option (World × Lane) :=
  if fetch.due ≤ w.now then
    let (progress, store) := fetch.resume w.policy "*" Store.all w.now w.store
    some ({ w with store }, l.loaded w e progress)
  else none

/-- Goes on with sending: hands over the next alert, or sees that it has found room. -/
def sendStep (l : Lane) (w : World) (built : List Alert) :
    List Alert → (posted : Bool) → Option (World × Lane)
  | [], _ => if l.loops then some (w, { l with task := .idle }) else none
  | a :: rest, posted =>
    let after (taken : Bool) : Lane :=
      { l with replica := l.replica.sent a taken, task := .sending built rest false }
    if posted then
      if w.holds l.replica.number then none
      else some (w.enter l.replica.number, after w.alerts.isOpen)
    else if !w.alerts.isOpen then some (w, after false)
    else
      let sent : World := { w with alerts := w.alerts.send (l.replica.number, a) }
      if w.alerts.hasRoom then some (sent, after true)
      else some (sent, { l with task := .sending built (a :: rest) true })

/-- The replica's next step, if it can make one now. -/
def replicaStep (l : Lane) (w : World) : Option (World × Lane) :=
  match l.task with
  | .idle => if l.loops then some (l.look w) else none
  | .loading e fetch => l.loadStep w e fetch
  | .sending built left posted => l.sendStep w built left posted
  | .done | .broken => none

/-- The replica's next steps in a turn, up to one that gets somewhere. Nobody else has a turn
meanwhile. -/
def replicaPass (l : Lane) (w : World) : Option (World × Lane) :=
  if l.isIdle then if l.loops then l.pass w else none else l.replicaStep w

/-- Whether the replica can get somewhere now. -/
def replicaMoves (l : Lane) (w : World) : Bool :=
  match l.task with
  | .idle => l.loops && (l.updates.hasNext || l.outcomes.hasNext || l.records.hasNext)
  | .loading _ fetch => fetch.due ≤ w.now
  | .sending _ [] _ => l.loops
  | .sending _ (_ :: _) posted => !(posted && w.holds l.replica.number)
  | .done | .broken => false

/-- What the replica's next step takes of its turn. Looking for a message takes as much as
finding one. -/
def replicaPrice (l : Lane) (w : World) : Nat :=
  match l.task with
  | .idle => 1
  | .loading _ fetch => fetch.price w.policy
  | .sending _ [] _ => 0
  | .sending _ (_ :: _) posted => if posted && w.holds l.replica.number then 0 else 1
  | .done | .broken => 0

/-- The alerts of the last event, once all of them were sent. -/
def collect? (l : Lane) : Option (List Alert × Lane) :=
  match l.task with
  | .sending built [] _ => some (built, { l with task := .idle })
  | _ => none

/-! ### The worker -/

/-- The worker goes. What it was asked for is left undone. -/
def leave (l : Lane) : Lane :=
  { l with worker := .gone, requests := [], outcomes := l.outcomes.endInput }

/-- Goes on with a request as far as it was fetched. -/
def fetched (l : Lane) (request : FetchRequest) (p : Progress (Option Definition)) : Lane :=
  match p with
  | .waiting fetch => { l with worker := .fetching request fetch }
  | .answered answer =>
    { l with worker := .telling ⟨request.seq, request.ruleId, answer⟩ false }
  | .broken => l.leave

/-- Tells an outcome: hands it over, or sees that it has found room. -/
def tellStep (l : Lane) (outcome : FetchOutcome) (posted : Bool) : Option Lane :=
  if posted then
    (l.outcomes.enter? fun _ => true).map fun outcomes => { l with outcomes, worker := .idle }
  else if !l.outcomes.isOpen then some l.leave
  else
    some { l with
      outcomes := l.outcomes.send outcome
      worker := if l.outcomes.hasRoom then .idle else .telling outcome true }

/-- The worker's next step, if it can make one now. -/
def workerStep (l : Lane) (w : World) : Option (World × Lane) :=
  match l.worker with
  | .idle =>
    match l.requests with
    | request :: requests =>
      let (progress, store) := Fetch.start w.policy w.now w.store
      some ({ w with store }, { l with requests }.fetched request progress)
    | [] => if l.isOver then some (w, l.leave) else none
  | .fetching request fetch =>
    if fetch.due ≤ w.now then
      let (progress, store) :=
        fetch.resume w.policy request.ruleId (Store.fetch · request.ruleId) w.now w.store
      some ({ w with store }, l.fetched request progress)
    else none
  | .telling outcome posted => (l.tellStep outcome posted).map fun l => (w, l)
  | .leaving => (l.outcomes.enter? fun _ => true).map fun outcomes => (w, { l with outcomes }.leave)
  | .gone => none

/-- Whether the worker can make a step now. -/
def workerMoves (l : Lane) (w : World) : Bool :=
  match l.worker with
  | .idle => !l.requests.isEmpty || l.isOver
  | .fetching _ fetch => fetch.due ≤ w.now
  | .telling _ posted => !posted || l.outcomes.keepsFor fun _ => true
  | .leaving => l.outcomes.keepsFor fun _ => true
  | .gone => false

/-- What the worker's next step takes of its turn. -/
def workerPrice (l : Lane) (w : World) : Nat :=
  match l.worker with
  | .idle => 1
  | .fetching _ fetch => fetch.price w.policy
  | .telling _ posted => if posted && !l.outcomes.keepsFor fun _ => true then 0 else 1
  | .leaving => if l.outcomes.keepsFor fun _ => true then 1 else 0
  | .gone => 0

/-- Tells the worker to go. What it is about is left undone. -/
def dismiss (l : Lane) : Lane :=
  match l.worker with
  | .telling _ true => { l with worker := .leaving }
  | .leaving | .gone => l
  | _ => l.leave

/-! ### Both -/

/-- The next step of a side in its turn. -/
def step (l : Lane) (side : Side) (w : World) : Option (World × Lane) :=
  match side with
  | .replica => l.replicaPass w
  | .worker => l.workerStep w

/-- Whether a side can make a step now. -/
def moves (l : Lane) (side : Side) (w : World) : Bool :=
  match side with
  | .replica => l.replicaMoves w
  | .worker => l.workerMoves w

/-- What the next step of a side takes of its turn. -/
def price (l : Lane) (side : Side) (w : World) : Nat :=
  match side with
  | .replica => l.replicaPrice w
  | .worker => l.workerPrice w

/-- When the lane goes on, if it only waits for time to pass. -/
def dues (l : Lane) : List Nat :=
  (match l.task with
    | .loading _ fetch => [fetch.due]
    | _ => []) ++
  (match l.worker with
    | .fetching _ fetch => [fetch.due]
    | _ => [])

end Lane
end Watchpost
