import Watchpost.Lane.Turn

/-! Sites: lanes side by side in one world.

The two sides of each lane are parties that move by turns. A party that can move again
queues for its next turn behind those that could before. -/
namespace Watchpost

/-- Who moves: a side of a lane. -/
structure Party where
  lane : Nat
  side : Lane.Side
  deriving DecidableEq

structure Site where
  world : World
  lanes : List Lane
  /-- All parties; who moved later stands further back. -/
  order : List Party
  /-- Who queues for a turn. -/
  ready : List Party := []
  /-- Whose turns were cut off in this round, the last first. -/
  cut : List Party := []
  /-- Who does what the caller waits for, if that is a party. It begins each round. -/
  caller : Option Party := none

namespace Site

/-- A site at which nobody had a turn. -/
def ofLanes (world : World) (lanes : List Lane) : Site :=
  { world, lanes
    order := (List.range lanes.length).flatMap fun lane => [⟨lane, .worker⟩, ⟨lane, .replica⟩] }

def lane? (s : Site) (i : Nat) : Option Lane := s.lanes[i]?

/-- Whether a party can make a step now. -/
def canMove (s : Site) (p : Party) : Bool := (s.lane? p.lane).any fun l => l.moves p.side s.world

/-- Lets those queue who can move. -/
def wake (s : Site) : Site :=
  let woken := s.order.filter fun p =>
    s.canMove p && !s.ready.contains p && !s.cut.contains p
  { s with ready := s.ready ++ woken }

/-- Lets a party queue, whether it can move or not. -/
def call (s : Site) (p : Party) : Site :=
  if s.ready.contains p || s.cut.contains p then s else { s with ready := s.ready ++ [p] }

/-- Changes a lane, so that its parties may be able to move. -/
def modifyLane (s : Site) (i : Nat) (f : Lane → Lane) : Site :=
  { s with lanes := s.lanes.modify i f }.wake

/-- Takes the alerts that were sent and not taken yet. -/
def takeAlerts (s : Site) : List Alert × Site :=
  match s.world.alerts.queued with
  | [] => ([], s)
  | _ =>
    let (alerts, channel) := s.world.alerts.drain
    (alerts.map (·.2), { s with world := { s.world with alerts := channel } }.wake)

/-! ### What is left to be done -/

/-- A number that all lanes make up together. -/
def total (f : Lane → Nat) : List Lane → Nat
  | [] => 0
  | l :: rest => f l + total f rest

def work (s : Site) : Nat := total Lane.work s.lanes

def rank (s : Site) : Nat := total Lane.rank s.lanes

/-- One site has less to do than another. -/
def Less (a b : Site) : Prop := a.work < b.work ∨ a.work = b.work ∧ a.rank < b.rank

theorem Less.trans {a b c : Site} (hab : a.Less b) (hbc : b.Less c) : a.Less c := by
  unfold Less at *
  omega

theorem total_set (f : Lane → Nat) {ls : List Lane} {i : Nat} {l m : Lane}
    (h : ls[i]? = some l) : total f (ls.set i m) + f l = total f ls + f m := by
  induction ls generalizing i with
  | nil => simp at h
  | cons a rest ih =>
    cases i with
    | zero =>
      cases h
      simp only [List.set_cons_zero, total]
      omega
    | succ i =>
      have := ih (i := i) (by simpa using h)
      simp only [List.set_cons_succ, total]
      omega

/-- A lane that has less to do leaves the site with less to do. -/
theorem less_of_set {s : Site} {i : Nat} {l m : Lane} (h : s.lanes[i]? = some l)
    (hm : m.Less l) : Less { s with lanes := s.lanes.set i m } s := by
  have hw := total_set Lane.work (m := m) h
  have hr := total_set Lane.rank (m := m) h
  unfold Lane.Less at hm
  simp only [Less, work, rank]
  omega

end Site
end Watchpost
