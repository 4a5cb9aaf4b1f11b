import Watchpost.Replica.Basic

/-! What a replica shows of what it counts.

Most of what is counted in the statistics is counted in the metrics too. What is not is `unshown`,
and it is told here of each thing that a replica does. -/
namespace Watchpost

/-- How often a metric was raised, whatever its label. -/
def Metrics.overall (ms : Metrics) (m : Metric) : Nat := ms.countP (·.metric = m)

/-- One more of what belongs to a metric, and none of what does not. -/
theorem Stats.of_bump (s : Stats) (d c : Counter) :
    (s.bump d).of c = s.of c + UInt64.ofNat (if d.metric = c.metric then 1 else 0) := by
  cases d <;> cases c <;> first | rfl | exact (UInt64.add_zero _).symm

namespace Replica

/-- What the statistics tell beyond the metrics. -/
def unshown (r : Replica) (c : Counter) : UInt64 :=
  r.stats.of c - UInt64.ofNat (r.metrics.overall c.metric)

theorem of_eq_unshown (r : Replica) (c : Counter) :
    r.stats.of c = UInt64.ofNat (r.metrics.overall c.metric) + r.unshown c := by
  rw [unshown, UInt64.add_comm, UInt64.sub_add_cancel]

/-! ### What is shown -/

theorem unshown_new (number : Nat) (c : Counter) : ({ number } : Replica).unshown c = 0 := by
  cases c <;> exact UInt64.sub_self 0

theorem overall_count (r : Replica) (d : Counter) (m : Metric) :
    (r.count d).metrics.overall m = r.metrics.overall m + if d.metric = m then 1 else 0 := by
  by_cases h : d.metric = m <;> simp [count, Metrics.overall, Sample.metric, h]

theorem unshown_count (r : Replica) (d c : Counter) : (r.count d).unshown c = r.unshown c := by
  have hcounted : (r.count d).stats.of c = _ := r.stats.of_bump d c
  rw [unshown, overall_count, hcounted, UInt64.ofNat_add, unshown]
  grind

/-- Gauges are no counters. -/
theorem unshown_showRules (r : Replica) (registry : Registry) (c : Counter) :
    (r.showRules registry).unshown c = r.unshown c := by
  cases c <;> rfl

theorem unshown_setReady (r : Replica) (registry : Registry) (c : Counter) :
    (r.setReady registry).unshown c = r.unshown c := r.unshown_showRules registry c

theorem unshown_apply (r : Replica) (change : Change) (c : Counter) :
    (r.apply change).unshown c = r.unshown c := by
  unfold apply
  cases r.phase with
  | waiting pending => rfl
  | ready registry =>
    dsimp only
    rcases registry.apply change with ⟨next, verdict⟩
    cases verdict with
    | applied => exact (unshown_showRules _ next c).trans (unshown_count _ _ c)
    -- No metric tells of changes that come too late.
    | stale => cases c <;> rfl

theorem unshown_update (r : Replica) (u : RuleUpdate) (c : Counter) :
    (r.update u).1.unshown c = r.unshown c := by
  obtain ⟨id, action⟩ := u
  cases action with
  | upsert => rfl
  | delete => exact unshown_apply { r with lastIssued := r.lastIssued + 1 } _ c

theorem unshown_takeOutcome (r : Replica) (o : FetchOutcome) (c : Counter) :
    (r.takeOutcome o).unshown c = r.unshown c := by
  unfold takeOutcome
  split
  · split
    · exact r.unshown_apply _ c
    · exact r.unshown_count _ c
  · exact r.unshown_count _ c
  · exact r.unshown_count _ c

theorem unshown_compileAll (r : Replica) (definitions : List (String × Definition)) (c : Counter) :
    (r.compileAll definitions).1.unshown c = r.unshown c := by
  induction definitions generalizing r with
  | nil => rfl
  | cons e rest ih =>
    obtain ⟨id, d⟩ := e
    unfold compileAll
    cases Rule.compile id d with
    | ok rule => exact ih r
    | error error => exact (ih (r.count .compileFailures)).trans (r.unshown_count _ c)

/-! ### What is not -/

/-- What is told in the statistics alone. -/
theorem unshown_of_hidden {r r' : Replica} {c : Counter} {n : UInt64}
    (hcounted : r'.stats.of c = r.stats.of c + n)
    (hshown : r'.metrics.overall c.metric = r.metrics.overall c.metric) :
    r'.unshown c = r.unshown c + n := by
  rw [unshown, hcounted, hshown, unshown]
  grind

/-- Rules of a snapshot that do not compile are counted, and not shown. -/
theorem unshown_restore (r : Replica) (s : Snapshot) (c : Counter) :
    (r.restore s).1.unshown c = r.unshown c +
      UInt64.ofNat (if c.metric = .compileFailures then (Registry.restore s).2.length else 0) := by
  refine unshown_of_hidden ?_ ?_
  · cases c <;> first | rfl | exact (UInt64.add_zero _).symm
  · cases c <;> rfl

end Replica
end Watchpost
