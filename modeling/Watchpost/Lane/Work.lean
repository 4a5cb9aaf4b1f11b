import Watchpost.Lane.Basic

/-! What is left to be done in a lane.

Messages that wait make up its work, and the tasks at hand its rank. Each step leaves less
work, or as much and a lower rank (`Lane.less_of_step`). -/
namespace Watchpost

def Fetch.rank (f : Fetch) : Nat :=
  match f.stage with
  | .called .. => 2 * f.left
  | .resting => 2 * f.left + 1

namespace Lane

/-- Counts more for a task that others follow. -/
def Task.weight : Task → Nat
  | .idle => 1
  | .loading .. => 3
  | .sending .. => 2
  | .done | .broken => 0

def Worker.weight : Worker → Nat
  | .idle => 2
  | .fetching .. => 6
  | .telling _ false => 5
  | .telling _ true | .leaving => 3
  | .gone => 0

/-- An update may become a request, and a request an outcome. -/
def work (l : Lane) : Nat :=
  6 * l.updates.load + 3 * l.records.load + 5 * l.requests.length + l.outcomes.load +
    l.task.weight + l.worker.weight

def Task.rank : Task → Nat
  | .loading _ fetch => fetch.rank
  | .sending _ left posted => 2 * left.length + if posted then 0 else 1
  | _ => 0

def Worker.rank : Worker → Nat
  | .fetching _ fetch => fetch.rank
  | _ => 0

/-- How far the tasks at hand are from their ends. -/
def rank (l : Lane) : Nat := l.task.rank + l.worker.rank

/-- One lane has less to do than another. -/
def Less (a b : Lane) : Prop := a.work < b.work ∨ a.work = b.work ∧ a.rank < b.rank

theorem Less.trans {a b c : Lane} (hab : a.Less b) (hbc : b.Less c) : a.Less c := by
  unfold Less at *
  omega

end Lane

/-! ### Fetches -/

theorem Fetch.rank_of_resume {p : FetchPolicy} {target : String} {read : Store → α} {now : Nat}
    {f f' : Fetch} {s s' : Store} (h : f.resume p target read now s = (.waiting f', s')) :
    f'.rank < f.rank := by
  obtain ⟨left, due, stage⟩ := f
  cases stage with
  | called delay failure =>
    simp only [resume, take, Prod.mk.injEq] at h
    obtain ⟨h, _⟩ := h
    split at h
    · cases h
      simp [rank]
      omega
    · simp at h
  | resting =>
    simp only [resume, call, Prod.mk.injEq] at h
    obtain ⟨h, _⟩ := h
    split at h
    · cases h
      simp [rank]
    · simp at h

namespace Lane

/-! ### The replica -/

theorem work_finish_le (l : Lane) {t : Task} (h : t.weight = 0) :
    (l.finish t).work ≤ 5 * l.requests.length + l.worker.weight := by
  unfold finish work
  split <;> simp [h, Worker.weight]

theorem work_takeUpdate_le (l : Lane) (u : RuleUpdate) : (l.takeUpdate u).work ≤ l.work + 5 := by
  unfold takeUpdate
  split
  · simp [work]
  · split <;> simp [work]
    omega

theorem work_evaluate (l : Lane) (w : World) (e : Event) :
    (l.evaluate w e).work + l.task.weight = l.work + 2 := by
  simp [evaluate, work, Task.weight]
  omega

theorem work_loaded_le (l : Lane) (w : World) (e : Event)
    (p : Progress (List (String × Definition))) :
    (l.loaded w e p).work + l.task.weight ≤ l.work + 3 := by
  cases p with
  | waiting => simp [loaded, work, Task.weight]; omega
  | answered answer =>
    have := work_evaluate { l with replica := l.replica.load answer } w e
    simp only [loaded, work] at this ⊢
    omega
  | broken =>
    have := l.work_finish_le (t := .broken) rfl
    simp only [loaded, work] at this ⊢
    omega

theorem work_takeEvent_le (l : Lane) (w : World) (e : Event) :
    (l.takeEvent w e).2.work + l.task.weight ≤ l.work + 3 := by
  unfold takeEvent
  split
  dsimp only
  split
  · exact Nat.le_succ_of_le (Nat.le_of_eq (work_evaluate ..))
  · exact work_loaded_le ..

theorem work_takeRecord_le (l : Lane) (w : World) (record : Record) (h : l.task = .idle) :
    (l.takeRecord w record).2.work ≤ l.work + 2 := by
  unfold takeRecord
  split
  · next replica e _ =>
    have := work_takeEvent_le { l with replica } w e
    simp only [h, Task.weight, work] at this ⊢
    omega
  · simp [work]

/-- A message that is taken leaves less to be done. -/
theorem work_of_find? {l l' : Lane} {w w' : World} (hidle : l.task = .idle)
    (h : l.find? w = some (w', l')) : l'.work < l.work := by
  unfold find? at h
  split at h
  · split at h
    · next u updates hu =>
      cases h
      have := work_takeUpdate_le { l with updates } u
      have := Channel.load_of_next? hu
      simp only [work] at *
      omega
    · next updates hu =>
      cases h
      have := Channel.load_of_next? hu
      simp only [work] at *
      omega
    · cases h
  · split at h
    · next o outcomes ho =>
      cases h
      have := Channel.load_of_next? ho
      simp only [work] at *
      omega
    · next outcomes ho =>
      cases h
      have := Channel.load_of_next? ho
      simp only [work] at *
      omega
    · cases h
  · split at h
    · next record records hr =>
      have hle := work_takeRecord_le { l with records, looking := .updates } w record hidle
      have := Channel.load_of_next? hr
      simp only [Option.some.injEq] at h
      rw [h] at hle
      simp only [work] at *
      omega
    · cases h
      have := l.work_finish_le (t := .done) rfl
      simp only [work, hidle, Task.weight] at this ⊢
      omega
    · cases h

theorem work_of_pass {l l' : Lane} {w w' : World} (hidle : l.task = .idle)
    (h : l.pass w = some (w', l')) : l'.work < l.work := by
  unfold pass at h
  split at h
  · next found hfound =>
    cases h
    exact work_of_find? hidle hfound
  · split at h
    · next found hfound =>
      cases h
      exact work_of_find? (l := l.lookOn) hidle hfound
    · exact work_of_find? (l := l.lookOn.lookOn) hidle h

theorem less_of_loadStep {l l' : Lane} {w w' : World} {e : Event} {fetch : Fetch}
    (htask : l.task = .loading e fetch) (h : l.loadStep w e fetch = some (w', l')) :
    l'.Less l := by
  unfold loadStep at h
  split at h
  · generalize hp : fetch.resume w.policy "*" Store.all w.now w.store = r at h
    obtain ⟨progress, store⟩ := r
    cases h
    cases progress with
    | waiting f' =>
      have := Fetch.rank_of_resume hp
      refine .inr ⟨by simp [loaded, work, htask, Task.weight], ?_⟩
      simpa [loaded, rank, htask, Task.rank] using this
    | answered answer =>
      have := work_evaluate { l with replica := l.replica.load answer } w e
      refine .inl ?_
      simp only [loaded, work, htask, Task.weight] at this ⊢
      omega
    | broken =>
      have := l.work_finish_le (t := .broken) rfl
      refine .inl ?_
      simp only [loaded, work, htask, Task.weight] at this ⊢
      omega
  · simp at h

theorem less_of_sendStep {l l' : Lane} {w w' : World} {built left : List Alert} {posted : Bool}
    (htask : l.task = .sending built left posted)
    (h : l.sendStep w built left posted = some (w', l')) : l'.Less l := by
  cases left with
  | nil =>
    simp only [sendStep] at h
    split at h
    · cases h
      refine .inl ?_
      simp only [work, htask, Task.weight]
      omega
    · simp at h
  | cons a rest =>
    simp only [sendStep] at h
    refine .inr ?_
    repeat' split at h
    all_goals first
      | (simp at h; done)
      | (cases h; refine ⟨by simp [work, htask, Task.weight], ?_⟩
         simp_all [rank, Task.rank]
         try omega)

theorem task_of_isIdle {l : Lane} (h : l.isIdle = true) : l.task = .idle := by
  unfold isIdle at h
  split at h
  · assumption
  · cases h

theorem less_of_replicaPass {l l' : Lane} {w w' : World} (h : l.replicaPass w = some (w', l')) :
    l'.Less l := by
  unfold replicaPass at h
  split at h
  · next hidle =>
    split at h
    · exact .inl (work_of_pass (task_of_isIdle hidle) h)
    · cases h
  · next hbusy =>
    unfold replicaStep at h
    split at h
    · next hidle => exact absurd (by rw [isIdle, hidle]) hbusy
    · next htask => exact less_of_loadStep htask h
    · next htask => exact less_of_sendStep htask h
    · cases h
    · cases h

/-! ### The worker -/

theorem work_leave_le (l : Lane) : l.leave.work + l.worker.weight ≤ l.work + 1 := by
  have := l.outcomes.load_endInput_le
  simp only [leave, work, Worker.weight, List.length_nil]
  omega

theorem work_fetched_le (l : Lane) (request : FetchRequest) (p : Progress (Option Definition)) :
    (l.fetched request p).work + l.worker.weight ≤ l.work + 6 := by
  cases p with
  | waiting => simp [fetched, work, Worker.weight]; omega
  | answered => simp [fetched, work, Worker.weight]; omega
  | broken => exact Nat.le_trans (work_leave_le l) (by omega)

theorem work_of_tellStep {l l' : Lane} {outcome : FetchOutcome} {posted : Bool}
    (hworker : l.worker = .telling outcome posted) (h : l.tellStep outcome posted = some l') :
    l'.work < l.work := by
  unfold tellStep at h
  split at h
  · next hposted =>
    obtain ⟨outcomes, ho, rfl⟩ := Option.map_eq_some_iff.1 h
    simp only [work, Channel.load_of_enter? ho, hworker, hposted, Worker.weight]
    omega
  · next hposted =>
    have hload := l.outcomes.load_send outcome
    cases Bool.eq_false_iff.2 hposted
    split at h
    · cases h
      have := work_leave_le l
      simp only [hworker, Worker.weight] at this
      omega
    · cases h
      simp only [work, hworker, hload]
      split <;> simp only [Worker.weight] <;> omega

theorem less_of_workerStep {l l' : Lane} {w w' : World} (h : l.workerStep w = some (w', l')) :
    l'.Less l := by
  unfold workerStep at h
  split at h
  · next hidle =>
    have hw : l.worker.weight = 2 := by rw [hidle]; rfl
    refine .inl ?_
    split at h
    · next request requests hr =>
      generalize Fetch.start w.policy w.now w.store = r at h
      obtain ⟨progress, store⟩ := r
      cases h
      have := work_fetched_le { l with requests } request progress
      have hl : l.requests.length = requests.length + 1 := by rw [hr]; rfl
      generalize fetched _ request progress = l' at this ⊢
      simp only [work] at this ⊢
      omega
    · split at h
      · cases h
        have := work_leave_le l
        omega
      · simp at h
  · next request fetch hworker =>
    have hw : l.worker.weight = 6 := by rw [hworker]; rfl
    split at h
    · generalize hp : fetch.resume w.policy request.ruleId _ w.now w.store = r at h
      obtain ⟨progress, store⟩ := r
      cases h
      cases progress with
      | waiting f' =>
        have := Fetch.rank_of_resume hp
        refine .inr ⟨by simp [fetched, work, hworker, Worker.weight], ?_⟩
        simpa [fetched, rank, hworker, Worker.rank] using this
      | answered answer => exact .inl (by simp [fetched, work, hworker, Worker.weight])
      | broken =>
        have := work_leave_le l
        exact .inl (by simp only [fetched]; omega)
    · simp at h
  · next outcome posted hworker =>
    obtain ⟨l'', hl, h⟩ := Option.map_eq_some_iff.1 h
    cases h
    exact .inl (work_of_tellStep hworker hl)
  · next hworker =>
    obtain ⟨outcomes, ho, h⟩ := Option.map_eq_some_iff.1 h
    cases h
    have := work_leave_le { l with outcomes }
    simp only [work, Channel.load_of_enter? ho, hworker, Worker.weight] at this
    exact .inl (by simp only [work, hworker, Worker.weight] at this ⊢; omega)
  · simp at h

/-! ### Both -/

theorem less_of_step {l l' : Lane} {side : Side} {w w' : World}
    (h : l.step side w = some (w', l')) : l'.Less l := by
  cases side with
  | replica => exact less_of_replicaPass h
  | worker => exact less_of_workerStep h

end Lane
end Watchpost
