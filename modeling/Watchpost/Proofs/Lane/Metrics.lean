import Watchpost.Proofs.Lane.Agreement
import Watchpost.Proofs.Lane.Ledger

/-! What observers are told of a lane.

What a replica counts stands in its statistics and is told under a metric. The two agree but for
what is counted in the statistics alone: changes that come into force when the rules are loaded, and
rules of a snapshot that do not compile (`stats_eq_metrics`). -/
namespace Watchpost.Lane

/-! ### What is done -/

/-- What is done at a lane that is also given snapshots, and outcomes that its worker did not
tell. -/
inductive Deed where
  | act (a : Act)
  | restore (s : Snapshot)
  | handed (o : FetchOutcome)

namespace Deed

/-- How often what is done counts without a word to the observers of a metric. -/
def hidden (p : Replica.Phase) (m : Metric) : Deed → Nat
  | act (.load answer) => Ending.hidden m
    ((Registry.ofRules (Rule.ofDefinitions (Definition.told answer))).settle p.pending)
  | restore s => if m = .compileFailures then (Registry.restore s).2.length else 0
  | act (.update _) | act (.outcome _) | act .other | handed _ => 0

/-- Whether all that it counts is told: nothing was put aside that loading would bring into force,
and all rules of a snapshot compile. -/
def Open (p : Replica.Phase) : Deed → Prop
  | act (.load _) => p.pending = []
  | restore s => (Registry.restore s).2 = []
  | act (.update _) | act (.outcome _) | act .other | handed _ => True

theorem hidden_of_open {p : Replica.Phase} {d : Deed} (h : d.Open p) (m : Metric) :
    d.hidden p m = 0 := by
  unfold Open at h
  unfold hidden
  split at h
  · rw [h]
    exact ite_self 0
  · rw [h]
    exact ite_self 0
  all_goals rfl

/-- Only two metrics are not told everything. -/
theorem hidden_of_ne {m : Metric} (happlied : m ≠ .applied) (hfailed : m ≠ .compileFailures)
    (p : Replica.Phase) (d : Deed) : d.hidden p m = 0 := by
  unfold hidden
  split
  · exact if_neg happlied
  · exact if_neg hfailed
  all_goals rfl

end Deed

/-- A move of a lane, or something that is done to its replica while it is idle. -/
inductive Performs : Lane → Deed → Lane → Prop where
  | act {l l' : Lane} {a : Act} (h : Acts l a l') : Performs l (.act a) l'
  | restore {l : Lane} (s : Snapshot) (h : l.isIdle = true) :
      Performs l (.restore s) { l with replica := (l.replica.restore s).1 }
  | handed {l : Lane} (o : FetchOutcome) (h : l.isIdle = true) :
      Performs l (.handed o) { l with replica := l.replica.takeOutcome o }

/-- What was done at a lane one after the other, each with the phase of the replica before. -/
inductive Performed (start : Lane) : List (Replica.Phase × Deed) → Lane → Prop where
  | nil : Performed start [] start
  | snoc {ds : List (Replica.Phase × Deed)} {l l' : Lane} {d : Deed} (h : Performed start ds l)
      (hd : Performs l d l') : Performed start (ds ++ [(l.replica.phase, d)]) l'

/-- How often all of it counted without a word to the observers of a metric. -/
def hidden (m : Metric) : List (Replica.Phase × Deed) → Nat
  | [] => 0
  | (p, d) :: rest => d.hidden p m + hidden m rest

theorem hidden_snoc (ds : List (Replica.Phase × Deed)) (p : Replica.Phase) (d : Deed) (m : Metric) :
    hidden m (ds ++ [(p, d)]) = hidden m ds + d.hidden p m := by
  induction ds with
  | nil => exact Nat.add_comm ..
  | cons x rest ih => rw [List.cons_append, hidden, hidden, ih, Nat.add_assoc]

theorem hidden_eq_zero {ds : List (Replica.Phase × Deed)} {m : Metric}
    (h : ∀ x ∈ ds, x.2.hidden x.1 m = 0) : hidden m ds = 0 := by
  induction ds with
  | nil => rfl
  | cons x rest ih =>
    obtain ⟨hx, hrest⟩ := List.forall_mem_cons.1 h
    rw [hidden, hx, ih hrest]

/-! ### What is told -/

theorem unshown_takeUpdate (l : Lane) (u : RuleUpdate) (c : Counter) :
    (l.takeUpdate u).replica.unshown c = l.replica.unshown c := by
  have hupdate := l.replica.unshown_update u c
  unfold takeUpdate
  split
  · next heq =>
    rw [heq] at hupdate
    exact hupdate
  · next heq =>
    rw [heq] at hupdate
    split
    · exact (Replica.unshown_count _ .fetchFailures c).trans hupdate
    · exact hupdate

section
variable {l l' : Lane} {d : Deed}

theorem Performs.fits (h : Performs l d l') (hfits : l.task.Fits l.replica.phase) :
    l'.task.Fits l'.replica.phase := by
  cases h with
  | act h => exact h.fits hfits
  | restore s hidle =>
    dsimp only
    rw [task_of_isIdle hidle]
    trivial
  | handed o hidle =>
    dsimp only
    rw [task_of_isIdle hidle]
    trivial

/-- **Each deed hides what it is known to.** -/
theorem Performs.unshown (h : Performs l d l') (hfits : l.task.Fits l.replica.phase) (c : Counter) :
    l'.replica.unshown c =
      l.replica.unshown c + UInt64.ofNat (d.hidden l.replica.phase c.metric) := by
  cases h with
  | act h =>
    have hbecomes := h.becomes hfits
    generalize l'.replica = r' at hbecomes ⊢
    cases hbecomes with
    | update u => exact (l.unshown_takeUpdate u c).trans (UInt64.add_zero _).symm
    | outcome o => exact (l.replica.unshown_takeOutcome o c).trans (UInt64.add_zero _).symm
    | @load pending answer r' hphase hsteady =>
      rw [hsteady.unshown, Replica.unshown_load hphase, hphase]
      rfl
    | other hsteady => exact (hsteady.unshown c).trans (UInt64.add_zero _).symm
  | restore s hidle => exact l.replica.unshown_restore s c
  | handed o hidle => exact (l.replica.unshown_takeOutcome o c).trans (UInt64.add_zero _).symm

end

section
variable {number : Nat} {start l : Lane} {ds : List (Replica.Phase × Deed)}

theorem Performed.fits (h : Performed start ds l) (hstart : Fresh { number } start) :
    l.task.Fits l.replica.phase := by
  induction h with
  | nil => exact hstart.traced.fits
  | snoc _ hd ih => exact hd.fits ih

theorem Performed.unshown (h : Performed start ds l) (hstart : Fresh { number } start)
    (c : Counter) : l.replica.unshown c = UInt64.ofNat (hidden c.metric ds) := by
  induction h with
  | nil =>
    rw [hstart.replica]
    exact Replica.unshown_new number c
  | snoc h hd ih =>
    rw [hd.unshown (h.fits hstart) c, ih, hidden_snoc, UInt64.ofNat_add]

/-- **Metrics and statistics agree, but for what is known to be hidden**, whatever is done at a
lane and in whatever order. Only changes that had been put aside until the rules were loaded and
rules of a snapshot that do not compile are hidden: all other counts agree always, and these do
where there was nothing of the kind. -/
theorem stats_eq_metrics (hstart : Fresh { number } start) (h : Performed start ds l)
    (c : Counter) :
    l.replica.stats.of c =
      UInt64.ofNat (l.replica.metrics.overall c.metric + hidden c.metric ds) ∧
    (c.metric ≠ .applied → c.metric ≠ .compileFailures →
      l.replica.stats.of c = UInt64.ofNat (l.replica.metrics.overall c.metric)) ∧
    ((∀ x ∈ ds, x.2.Open x.1) →
      l.replica.stats.of c = UInt64.ofNat (l.replica.metrics.overall c.metric)) := by
  have hsum : l.replica.stats.of c =
      UInt64.ofNat (l.replica.metrics.overall c.metric + hidden c.metric ds) := by
    rw [Replica.of_eq_unshown, h.unshown hstart, UInt64.ofNat_add]
  have hagree (hnone : ∀ x ∈ ds, x.2.hidden x.1 c.metric = 0) :
      l.replica.stats.of c = UInt64.ofNat (l.replica.metrics.overall c.metric) := by
    rw [hsum, hidden_eq_zero hnone, Nat.add_zero]
  exact ⟨hsum,
    fun happlied hfailed => hagree fun x _ => Deed.hidden_of_ne happlied hfailed x.1 x.2,
    fun hopen => hagree fun x hx => Deed.hidden_of_open (hopen x hx) c.metric⟩

end

/-- A replica that has a rule from a snapshot takes the deletion of that, and an outcome without a
definition. -/
theorem stats_eq_metrics_restored : ∃ ds l, Performed (.ofReplica { number := 0 } 1) ds l ∧
    (∀ x ∈ ds, x.2.Open x.1) ∧ l.replica.stats.of (.applied .delete) = 1 ∧
      l.replica.metrics.overall .applied = 1 ∧
      ∀ c, l.replica.stats.of c = UInt64.ofNat (l.replica.metrics.overall c.metric) := by
  let stored : Snapshot := ⟨1, .ofList [("A", ⟨1, switchedOff⟩)], .empty⟩
  have restored := Performed.nil.snoc (.restore (l := .ofReplica { number := 0 } 1) stored rfl)
  have deleted :=
    restored.snoc (.act (.happens (w := .prompt .empty) (.update ⟨"A", .delete⟩ rfl)))
  have handed := deleted.snoc (.handed ⟨2, "B", .ok none⟩ rfl)
  have hcompiles : (Registry.restore stored).2 = [] := by decide +kernel
  refine ⟨_, _, handed, ?_, by decide +kernel, by decide +kernel, fun c =>
    (stats_eq_metrics (fresh_ofReplica ..) handed c).2.2 ?_⟩
  all_goals
    simp only [List.nil_append, List.cons_append, List.forall_mem_cons]
    exact ⟨hcompiles, trivial, trivial, fun x hx => nomatch hx⟩

/-- A deletion that is put aside until the rules are loaded counts as applied, and no metric tells
of it; nor does one of a rule of a snapshot that does not compile. -/
theorem metrics_miss_replayed :
    (∃ ds l, Performed (.ofReplica { number := 0 } 1) ds l ∧
      l.replica.stats.of (.applied .delete) = 1 ∧ l.replica.metrics.overall .applied = 0) ∧
    ∃ ds l, Performed (.ofReplica { number := 0 } 1) ds l ∧
      l.replica.stats.of .compileFailures = 1 ∧ l.replica.metrics.overall .compileFailures = 0 := by
  let world := World.prompt .empty
  let event : Event := { msgId := "m", timestamp := ⟨0, 0⟩ }
  have hdue : 0 ≤ world.now := Nat.zero_le _
  have deleted := Performed.nil.snoc (.act (.happens (w := world)
    (.update (l := .ofReplica { number := 0 } 1) ⟨"A", .delete⟩ rfl)))
  have loading := deleted.snoc (.act (.happens (w := world) (.event event rfl)))
  have loaded := loading.snoc
    (.act (.happens (w := world) (.load (p := .answered (.ok [])) rfl hdue rfl)))
  let wrong : Snapshot := ⟨1, .ofList [("A", ⟨1, { sql := "?" }⟩)], .empty⟩
  have restored := Performed.nil.snoc (.restore (l := .ofReplica { number := 0 } 1) wrong rfl)
  exact ⟨⟨_, _, loaded, by decide +kernel, by decide +kernel⟩,
    _, _, restored, by decide +kernel, by decide +kernel⟩

end Watchpost.Lane
