import Watchpost.Site.Round

/-! Sites as time passes.

Time stands still while a party queues for a turn. When none does it goes on to the next
moment at which a lane is due. -/
namespace Watchpost.Site

/-- When the first lane goes on. -/
def nextDue? (s : Site) : Option Nat := (s.lanes.flatMap Lane.dues).min?

/-- Sets the clock. Who is due then queues. -/
def setNow (s : Site) (now : Nat) : Site := { s with world := { s.world with now } }.wake

/-- Goes on to the moment at which a party moves again. -/
def skip? (s : Site) : Option Site :=
  match s.nextDue? with
  | some due =>
    let next := s.setNow (max s.world.now due)
    if next.ready = [] then none else some next
  | none => none

theorem now_setNow (s : Site) (now : Nat) : (s.setNow now).world.now = now := rfl

/-- Lets time pass to a moment, or until something has happened. Who is due at that
moment has not moved yet. -/
def elapseWhile (waits : Site → Bool) (s : Site) (moment : Nat) : Site :=
  let settled := s.wake.settleWhile waits
  if waits settled then
    match settled.nextDue? with
    | some due =>
      if _h : s.world.now < due ∧ due < moment then elapseWhile waits (settled.setNow due) moment
      else settled.setNow (max s.world.now moment)
    | none => settled.setNow (max s.world.now moment)
  else settled
termination_by moment - s.world.now
decreasing_by
  rw [now_setNow]
  omega

/-- Lets some milliseconds pass. -/
def elapse (s : Site) (span : Nat) : Site := elapseWhile (fun _ => true) s (s.world.now + span)

end Watchpost.Site
