import Watchpost.Site.Elapse

/-! Sites run out: with somebody who takes all alerts, the lanes do what is left to be
done, however long it takes them.

Each round leaves less to be done, or fewer who queue, or there are alerts to be taken;
and who queues after time has passed gets somewhere. -/
namespace Watchpost.Site

/-- Whether no lane takes any more messages. -/
def isOver (s : Site) : Bool := s.lanes.all Lane.isOver

/-- How many alerts nobody has taken. -/
def untaken (s : Site) : Nat := s.world.alerts.pending.length

/-! ### Less is left -/

/-- One site is closer to its end than another: less is to be done, or as much with fewer
alerts that nobody has taken, or as many of them with fewer who queue. -/
def Closer (a b : Site) : Prop :=
  a.Less b ∨ a.work = b.work ∧ a.rank = b.rank ∧
    (a.untaken < b.untaken ∨ a.untaken = b.untaken ∧ a.queue < b.queue)

theorem closer_of_queued {s : Site} (h : s.world.alerts.queued ≠ []) :
    s.takeAlerts.2.Closer s := by
  unfold takeAlerts
  split
  · contradiction
  · next hne =>
    refine .inr ⟨rfl, rfl, .inl ?_⟩
    have := List.length_pos_iff.2 h
    simp only [untaken, wake, Channel.drain, Channel.keep, Channel.pending, List.length_append,
      List.length_nil]
    omega

theorem Nearer.closer {a b : Site} (h : a.Nearer b) : a.Closer b := by
  rcases h with h | ⟨hl, hw, hq⟩
  · exact .inl h
  · exact .inr ⟨by simp only [work, hl], by simp only [rank, hl],
      .inr ⟨by simp only [untaken, hw], hq⟩⟩

/-- Everybody who queues can move. -/
def AllMove (s : Site) : Prop := ∀ p ∈ s.ready, s.canMove p = true

theorem allMove_wake {s : Site} (h : s.ready = []) : s.wake.AllMove := by
  intro p hp
  simp only [wake, h, List.nil_append, List.mem_filter, Bool.and_eq_true] at hp
  exact hp.2.1.1

theorem canMove_putCallerFirst (s : Site) (p : Party) :
    s.putCallerFirst.canMove p = s.canMove p := by
  simp only [canMove, lane?, s.putCallerFirst_lanes, s.putCallerFirst_world]

theorem allMove_putCallerFirst {s : Site} (h : s.AllMove) : s.putCallerFirst.AllMove := by
  intro p hp
  rw [canMove_putCallerFirst]
  refine h p ?_
  unfold putCallerFirst at hp
  split at hp
  · next q hq =>
    rcases List.mem_cons.1 hp with rfl | hp
    · exact List.mem_of_find?_eq_some hq
    · exact List.mem_of_mem_erase hp
  · exact hp

theorem less_of_next? {s t : Site} (ha : s.AllMove) (h : s.next? = some t) : t.Less s := by
  unfold next? at h
  split at h
  · simp at h
  · next p ready hr =>
    cases h
    have hm : canMove { s with ready } p = true := ha p (by simp [hr])
    exact less_of_turn (by decide) hm

theorem less_of_turns (n : Nat) {s t : Site} (h : s.next? = some t) (hl : t.Less s) :
    (turns (n + 1) s).Less s := by
  simp only [turns, h]
  cases n with
  | zero => exact hl
  | succ n =>
    cases ht : t.next? with
    | none => simpa only [turns, ht] using hl
    | some t' => exact .of_nearer (nearer_of_turns n ht) hl

theorem less_of_round {s : Site} (ha : s.AllMove) (h : s.ready ≠ []) : s.round.Less s := by
  obtain ⟨t, ht⟩ := exists_next?_putCallerFirst h
  have hl := less_of_turns 60 ht (less_of_next? (allMove_putCallerFirst ha) ht)
  simpa only [round, finishRound, roundTurns, Less, work, rank, requeue,
    s.putCallerFirst_lanes] using hl

theorem less_of_skip? {s t : Site} (hr : s.ready = []) (h : s.skip? = some t) :
    t.round.Less s := by
  unfold skip? at h
  split at h
  · next due _ =>
    dsimp only at h
    split at h
    · simp at h
    · next hne =>
      cases h
      exact less_of_round (allMove_wake hr) hne
  · simp at h

/-! ### Running out -/

/-- Takes the alerts until the lanes are over, or wait for what does not come. -/
def runOut (s : Site) : List Alert × Site :=
  if s.isOver then s.takeAlerts
  else if _h : s.world.alerts.queued ≠ [] then
    let (more, last) := s.takeAlerts.2.runOut
    (s.takeAlerts.1 ++ more, last)
  else if _h : s.ready ≠ [] then s.round.runOut
  else
    match _h : s.skip? with
    | some next => next.round.runOut
    | none => ([], s)
termination_by (s.work, s.rank, s.untaken, s.queue)
decreasing_by
  · have h := closer_of_queued ‹s.world.alerts.queued ≠ []›
    unfold Closer Less at h
    simp only [Prod.lex_def]
    omega
  · have h := (nearer_of_round ‹s.ready ≠ []›).closer
    unfold Closer Less at h
    simp only [Prod.lex_def]
    omega
  · have h := less_of_skip? (Decidable.not_not.1 ‹¬ s.ready ≠ []›) ‹_›
    unfold Less at h
    simp only [Prod.lex_def]
    omega

end Watchpost.Site
