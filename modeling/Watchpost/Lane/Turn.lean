import Watchpost.Lane.Work

/-! Turns: one side of a lane makes steps until it has to wait or has used up its turn.

Each step leaves less to be done, so there is an end to it even where steps cost nothing.
Who can move gets somewhere in its turn (`Lane.less_of_turn`). -/
namespace Watchpost

theorem Fetch.price_le (p : FetchPolicy) (f : Fetch) : f.price p ≤ 2 := by
  unfold price
  repeat' split
  all_goals decide

namespace Lane

/-! ### Who can move -/

theorem isSome_find? (l : Lane) (w : World) :
    (l.find? w).isSome = match l.looking with
      | .updates => l.updates.hasNext
      | .outcomes => l.outcomes.hasNext
      | .records => l.records.hasNext := by
  unfold find?
  simp only [← Channel.isSome_next?]
  split
  all_goals split <;> simp_all

/-- A pass finds whatever there is, wherever it begins. -/
theorem isSome_pass (l : Lane) (w : World) :
    (l.pass w).isSome = (l.updates.hasNext || l.outcomes.hasNext || l.records.hasNext) := by
  have hpass : (l.pass w).isSome =
      ((l.find? w).isSome || (l.lookOn.find? w).isSome || (l.lookOn.lookOn.find? w).isSome) := by
    unfold pass
    cases l.find? w with
    | some found => rfl
    | none => cases l.lookOn.find? w <;> rfl
  rw [hpass, isSome_find?, isSome_find?, isSome_find?]
  unfold lookOn
  cases l.looking <;> simp only [Look.next] <;>
    cases l.updates.hasNext <;> cases l.outcomes.hasNext <;> cases l.records.hasNext <;> rfl

theorem replicaStep_of_idle (l : Lane) (w : World) (hidle : l.isIdle = true)
    (hloops : l.loops = true) : l.replicaStep w = some (l.look w) := by
  unfold replicaStep
  rw [task_of_isIdle hidle]
  exact if_pos hloops

theorem replicaPass_of_busy {l : Lane} (h : l.isIdle = false) (w : World) :
    l.replicaPass w = l.replicaStep w := by
  unfold replicaPass
  rw [h]
  rfl

theorem isSome_replicaPass (l : Lane) (w : World) :
    (l.replicaPass w).isSome = l.replicaMoves w := by
  cases hidle : l.isIdle with
  | true =>
    unfold replicaPass replicaMoves
    rw [hidle, task_of_isIdle hidle]
    cases l.loops <;> simp [isSome_pass]
  | false =>
    rw [replicaPass_of_busy hidle]
    unfold replicaStep replicaMoves
    split
    · next h => simp [isIdle, h] at hidle
    · next h => simp only [h, loadStep]; split <;> simp_all
    · next built left posted h =>
      simp only [h]
      cases left with
      | nil => simp only [sendStep]; split <;> simp_all
      | cons a rest =>
        simp only [sendStep]
        repeat' split
        all_goals simp_all
    · next h => simp [h]
    · next h => simp [h]

theorem isSome_workerStep (l : Lane) (w : World) : (l.workerStep w).isSome = l.workerMoves w := by
  unfold workerStep workerMoves
  split
  · next h =>
    simp only [h]
    split
    · next hr => simp [hr]
    · next hr => split <;> simp_all
  · split <;> simp_all
  · simp only [Option.isSome_map, tellStep]
    repeat' split
    all_goals simp_all [Channel.isSome_enter?]
  · simp [Channel.isSome_enter?]
  · rfl

/-- Who can move has a step to make. -/
theorem isSome_step (l : Lane) (side : Side) (w : World) :
    (l.step side w).isSome = l.moves side w := by
  cases side with
  | replica => exact isSome_replicaPass l w
  | worker => exact isSome_workerStep l w

theorem price_le (l : Lane) (side : Side) (w : World) : l.price side w ≤ 2 := by
  cases side with
  | replica =>
    simp only [price, replicaPrice]
    repeat' split
    all_goals first
      | exact Fetch.price_le ..
      | omega
  | worker =>
    simp only [price, workerPrice]
    repeat' split
    all_goals first
      | exact Fetch.price_le ..
      | omega

/-! ### Turns -/

/-- Lets a side make steps until it waits or is cut off, and says whether it was cut off. -/
def turn (l : Lane) (side : Side) (units : Nat) (w : World) : Bool × World × Lane :=
  if units < l.price side w then (true, w, l)
  else
    match _h : l.step side w with
    | some (w', l') => l'.turn side (units - l.price side w) w'
    | none => (false, w, l)
termination_by (l.work, l.rank)
decreasing_by
  rcases less_of_step ‹_› with h | ⟨he, h⟩
  · exact .left _ _ h
  · rw [he]
    exact .right _ h

theorem turn_eq_or_less (l : Lane) (side : Side) (units : Nat) (w : World) :
    (l.turn side units w).2 = (w, l) ∨ (l.turn side units w).2.2.Less l := by
  fun_induction turn l side units w with
  | case1 => exact .inl rfl
  | case2 l units w _ w' l' h ih =>
    refine .inr ?_
    rcases ih with ih | ih
    · rw [ih]
      exact less_of_step h
    · exact ih.trans (less_of_step h)
  | case3 => exact .inl rfl

theorem less_of_turn {l : Lane} {side : Side} {units : Nat} {w : World} (hu : 2 ≤ units)
    (h : l.moves side w = true) : (l.turn side units w).2.2.Less l := by
  rw [turn]
  have := l.price_le side w
  rw [if_neg (by omega)]
  split
  · next w' l' hs =>
    rcases turn_eq_or_less l' side (units - l.price side w) w' with h' | h'
    · rw [h']
      exact less_of_step hs
    · exact h'.trans (less_of_step hs)
  · next hs =>
    rw [← isSome_step, hs] at h
    simp at h

end Lane
end Watchpost
