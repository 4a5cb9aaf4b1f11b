import Watchpost.Site.Basic

/-! Rounds: parties have their turns, first come first served.

Whose turn was cut off queues again only in the next round, so that the others get on.
A round leaves less to be done, or fewer who queue (`less_of_round`). -/
namespace Watchpost.Site

/-- The length of a turn. -/
def turnUnits : Nat := 128

/-- A round has no more turns. -/
def roundTurns : Nat := 61

/-- A party has a turn. -/
def turn (s : Site) (p : Party) (units : Nat) : Site :=
  match s.lane? p.lane with
  | some l =>
    if l.moves p.side s.world then
      let (isCut, world, l) := l.turn p.side units s.world
      { s with
        world
        lanes := s.lanes.set p.lane l
        order := s.order.erase p ++ [p]
        cut := if isCut then p :: s.cut else s.cut }.wake
    else s
  | none => s

/-- Who queues first has a turn. -/
def next? (s : Site) : Option Site :=
  match s.ready with
  | [] => none
  | p :: ready => some ({ s with ready }.turn p turnUnits)

def turns : Nat → Site → Site
  | 0, s => s
  | n + 1, s =>
    match s.next? with
    | some s => turns n s
    | none => s

/-- Lets the caller's party go first. -/
def putCallerFirst (s : Site) : Site :=
  match s.ready.find? (some · = s.caller) with
  | some p => { s with ready := p :: s.ready.erase p }
  | none => s

/-- Lets those queue again whose turns were cut off. -/
def requeue (s : Site) : Site := { s with ready := s.ready ++ s.cut, cut := [] }

/-- The rest of a round, once the caller's party had its turn. -/
def finishRound (s : Site) : Site := (turns roundTurns s).requeue

def round (s : Site) : Site := s.putCallerFirst.finishRound

/-! ### Less is left -/

/-- How many queue now or in the next round. -/
def queue (s : Site) : Nat := s.ready.length + s.cut.length

/-- At one site there is less to be done than at another, or it is the same but for
fewer who queue. -/
def Nearer (a b : Site) : Prop :=
  a.Less b ∨ a.lanes = b.lanes ∧ a.world = b.world ∧ a.queue < b.queue

theorem Less.of_nearer {a b c : Site} (hab : a.Nearer b) (hbc : b.Less c) : a.Less c := by
  rcases hab with hab | ⟨hl, _, _⟩
  · exact hab.trans hbc
  · simpa only [Less, work, rank, hl] using hbc

theorem Nearer.trans {a b c : Site} (hab : a.Nearer b) (hbc : b.Nearer c) : a.Nearer c := by
  rcases hbc with hbc | ⟨hl, hw, hq⟩
  · exact .inl (.of_nearer hab hbc)
  · rcases hab with hab | ⟨hl', hw', hq'⟩
    · exact .inl (by simpa only [Less, work, rank, hl] using hab)
    · exact .inr ⟨hl'.trans hl, hw'.trans hw, by omega⟩

theorem less_of_turn {s : Site} {p : Party} {units : Nat} (hu : 2 ≤ units)
    (h : s.canMove p = true) : (s.turn p units).Less s := by
  unfold canMove at h
  unfold turn
  cases hl : s.lane? p.lane with
  | none => simp [hl] at h
  | some l =>
    simp only [hl, Option.any_some] at h
    simp only [h, if_true]
    exact less_of_set hl (Lane.less_of_turn hu h)

theorem turn_of_not_canMove {s : Site} {p : Party} {units : Nat} (h : s.canMove p = false) :
    (s.turn p units).lanes = s.lanes ∧ (s.turn p units).world = s.world ∧
      (s.turn p units).queue = s.queue := by
  unfold canMove at h
  unfold turn
  cases hl : s.lane? p.lane with
  | none => exact ⟨rfl, rfl, rfl⟩
  | some l =>
    simp only [hl, Option.any_some] at h
    simp only [h]
    exact ⟨rfl, rfl, rfl⟩

theorem nearer_of_next? {s t : Site} (h : s.next? = some t) : t.Nearer s := by
  unfold next? at h
  split at h
  · simp at h
  · next p ready hr =>
    cases h
    cases hm : canMove { s with ready } p with
    | true => exact .inl (less_of_turn (by decide) hm)
    | false =>
      obtain ⟨hl, hw, hq⟩ := turn_of_not_canMove hm
      refine .inr ⟨hl, hw, ?_⟩
      rw [hq]
      simp only [queue, hr, List.length_cons]
      omega

theorem nearer_of_turns (n : Nat) {s t : Site} (h : s.next? = some t) :
    (turns (n + 1) s).Nearer s := by
  have ht := nearer_of_next? h
  simp only [turns, h]
  cases n with
  | zero => exact ht
  | succ n =>
    cases ht' : t.next? with
    | none => simpa only [turns, ht'] using ht
    | some t' => exact (nearer_of_turns n ht').trans ht

theorem queue_putCallerFirst (s : Site) : s.putCallerFirst.queue = s.queue := by
  unfold putCallerFirst
  split
  · next p hp =>
    have hm := List.mem_of_find?_eq_some hp
    have := List.length_pos_of_mem hm
    simp only [queue, List.length_cons, List.length_erase_of_mem hm]
    omega
  · rfl

theorem putCallerFirst_lanes (s : Site) : s.putCallerFirst.lanes = s.lanes := by
  unfold putCallerFirst
  split <;> rfl

theorem putCallerFirst_world (s : Site) : s.putCallerFirst.world = s.world := by
  unfold putCallerFirst
  split <;> rfl

theorem putCallerFirst_nearer {s t : Site} (h : t.Nearer s.putCallerFirst) : t.Nearer s := by
  simpa only [Nearer, Less, work, rank, s.putCallerFirst_lanes, s.putCallerFirst_world,
    s.queue_putCallerFirst] using h

theorem next?_eq_none {s : Site} (h : s.next? = none) : s.ready = [] := by
  unfold next? at h
  split at h
  · assumption
  · simp at h

theorem exists_next?_putCallerFirst {s : Site} (h : s.ready ≠ []) :
    ∃ t, s.putCallerFirst.next? = some t := by
  cases hn : s.putCallerFirst.next? with
  | some t => exact ⟨t, rfl⟩
  | none =>
    have hr := next?_eq_none hn
    unfold putCallerFirst at hr
    split at hr
    · simp at hr
    · exact absurd hr h

theorem nearer_requeue {s t : Site} (h : t.Nearer s) : t.requeue.Nearer s := by
  simpa only [Nearer, Less, work, rank, requeue, queue, List.length_append, List.length_nil,
    Nat.add_zero] using h

theorem nearer_of_round {s : Site} (h : s.ready ≠ []) : s.round.Nearer s := by
  obtain ⟨t, ht⟩ := exists_next?_putCallerFirst h
  exact nearer_requeue (putCallerFirst_nearer (nearer_of_turns _ ht))

/-! ### At one moment -/

/-- Rounds follow each other as long as somebody queues and the caller waits. -/
def settleWhile (waits : Site → Bool) (s : Site) : Site :=
  if _h : waits s ∧ s.ready ≠ [] then s.round.settleWhile waits else s
termination_by (s.work, s.rank, s.queue)
decreasing_by
  have h := nearer_of_round (_h.2)
  simp only [Prod.lex_def]
  rcases h with h | ⟨hl, _, hq⟩
  · unfold Less at h
    omega
  · have hw : s.round.work = s.work := by simp only [work, hl]
    have hr : s.round.rank = s.rank := by simp only [rank, hl]
    omega

end Watchpost.Site
