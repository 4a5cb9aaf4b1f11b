import Watchpost.Site.Elapse

/-! A lane that has the world to itself: it is asked for one thing at a time, and each is
awaited. -/
namespace Watchpost

structure Solo where
  lane : Lane
  world : World

/-- What comes of asking for an outcome. -/
inductive Solo.Next where
  | taken
  /-- The worker is gone. -/
  | gone
  /-- None came while there was patience. -/
  | gaveUp

namespace Solo

/-- A replica that takes messages when it is told to. -/
def ofReplica (r : Replica) (capacity : Nat) (world : World) : Solo :=
  ⟨{ Lane.ofReplica r capacity with loops := false }, world⟩

/-- The replica, which the caller moves. -/
def party : Party := ⟨0, .replica⟩

def site (s : Solo) : Site := { Site.ofLanes s.world [s.lane] with caller := some party }

/-- What has become of the lane at its site. -/
def ofSite (s : Solo) (site : Site) : Solo := ⟨site.lanes.headD s.lane, site.world⟩

def onLane (s : Solo) (f : Lane → Lane) : Solo := { s with lane := f s.lane }

/-- Lets time pass to a moment, or as long as the lane waits for something. -/
def elapseWhile (waits : Lane → Bool) (s : Solo) (moment : Nat) : Solo :=
  s.ofSite (s.site.elapseWhile (fun t => t.lanes.any waits) moment)

/-- Lets some milliseconds pass. -/
def elapse (s : Solo) (span : Nat) : Solo := s.elapseWhile (fun _ => true) (s.world.now + span)

/-- A moment at which no fetch that is under way can still be. -/
def horizon (s : Solo) : Nat := s.world.now + s.world.policy.longest + 1

/-! ### Events -/

/-- Whether the replica is still about an event. -/
def isBusy (l : Lane) : Bool := !l.isIdle && !l.isOver && l.collect?.isNone

/-- Awaits the alerts of an event. -/
def collect (s : Solo) : List Alert × Solo :=
  let s := s.elapseWhile isBusy s.horizon
  match s.lane.collect? with
  | some (alerts, lane) => (alerts, { s with lane })
  | none => ([], s)

def process (s : Solo) (record : Record) : List Alert × Solo :=
  let (world, lane) := s.lane.takeRecord s.world record
  collect ⟨lane, world⟩

def processEvent (s : Solo) (e : Event) : List Alert × Solo :=
  let (world, lane) := s.lane.takeEvent s.world e
  collect ⟨lane, world⟩

/-! ### Updates -/

def update (s : Solo) (u : RuleUpdate) : Solo := s.onLane (·.takeUpdate u)

def takeOutcome (s : Solo) (o : FetchOutcome) : Solo :=
  s.onLane fun l => { l with replica := l.replica.takeOutcome o }

/-- Whether an outcome may still come. -/
def lacksOutcome (l : Lane) : Bool := l.outcomes.queued.isEmpty && !l.workerGone

/-- Awaits the next outcome of the worker, and takes it. -/
def nextOutcome (patience : Nat) (s : Solo) : Next × Solo :=
  let s := s.elapseWhile lacksOutcome (s.world.now + patience)
  match s.lane.outcomes.receive? with
  | some (o, outcomes) => (.taken, takeOutcome { s with lane := { s.lane with outcomes } } o)
  | none => (if s.lane.workerGone then .gone else .gaveUp, s)

/-! ### Runs -/

/-- Gives the replica all messages at once. -/
def provide (s : Solo) (records : List Record) (updates : List RuleUpdate) (updatesEnd : Bool) :
    Solo :=
  s.onLane fun l =>
    { l with
      loops := true
      records := { capacity := records.length, queued := records, ending := true }
      updates := { capacity := updates.length, queued := updates, ending := updatesEnd } }

/-- Lets the replica take messages by itself, until these are taken. It begins in the
caller's turn, which has some units left. -/
def drive (s : Solo) (units : Nat) (records : List Record) (updates : List RuleUpdate)
    (updatesEnd : Bool) : Solo :=
  let ready := s.provide records updates updatesEnd
  let begun := (ready.site.turn party units).finishRound
  ready.ofSite (begun.elapseWhile (·.lanes.any (!·.isOver)) ready.horizon)

/-- Ends a run before it takes anything. -/
def cancel (s : Solo) : Solo := s.onLane (·.finish .done)

end Solo
end Watchpost
