import Mathlib.Data.List.Forall2
import Watchpost.Proofs.Replica.Counts
import Watchpost.Proofs.Replica.Fates

/-! What a replica makes of an event.

It offers the event, loads its rules if it has none, holds the event against them and sends what
fires. In the end each rule that fires has one alert (`fired_evaluate`), each alert counts once, and
nothing else has changed (`processed_sentAll`). -/
namespace Watchpost

/-! ### Rules that fire -/

/-- There is one alert for each rule that is switched on and whose condition holds of the event, and
there are no others. -/
def Registry.Fired (registry : Registry) (e : Event) (alerts : List Alert) : Prop :=
  ∃ ids : List String, ids.Nodup ∧
    (∀ id, id ∈ ids ↔ ∃ rule, registry.get? id = some rule ∧ rule.enabled = true ∧
      rule.condition.holds e = true) ∧
    List.Forall₂ (fun id a => ∃ rule alertId now, registry.get? id = some rule ∧
      a = Alert.build alertId now rule e) ids alerts

namespace Replica

theorem forall₂_alertsOf (now : Instant) (e : Event) (factory : AlertFactory) (rules : List Rule) :
    List.Forall₂ (fun rule a => ∃ alertId, a = Alert.build alertId now rule e) rules
      (alertsOf now e factory rules).2 := by
  induction rules generalizing factory with
  | nil => exact .nil
  | cons rule rest ih => exact .cons ⟨_, rfl⟩ (ih _)

/-- **Just the rules that fire have alerts.** -/
theorem fired_evaluate {r : Replica} {registry : Registry} (h : r.phase = .ready registry)
    (now : Instant) (e : Event) : registry.Fired e (r.evaluate now e).2 := by
  let fired := registry.rules.entries.filter fun x => x.2.fires e
  have hmem (x : String × Rule) :
      x ∈ fired ↔ registry.get? x.1 = some x.2 ∧ x.2.fires e = true := by
    rw [List.mem_filter, ← Table.get?_eq_some_iff]
    rfl
  have halerts : (r.evaluate now e).2 = (alertsOf now e r.factory (fired.map (·.2))).2 := by
    have hvalues : registry.rules.values.filter (·.fires e) = fired.map (·.2) := List.filter_map
    unfold evaluate
    rw [h]
    dsimp only
    rw [hvalues]
  refine ⟨fired.map (·.1), ?_, fun id => ?_, ?_⟩
  · refine List.pairwise_map.2 ((registry.rules.ordered.filter _).imp fun hlt heq => ?_)
    exact String.lt_irrefl _ (heq ▸ hlt)
  · simp only [List.mem_map, hmem, Rule.fires, Bool.and_eq_true]
    exact ⟨fun ⟨x, ⟨hget, hfires⟩, hid⟩ => ⟨x.2, hid ▸ hget, hfires⟩,
      fun ⟨rule, hget, hfires⟩ => ⟨(id, rule), ⟨hget, hfires⟩, rfl⟩⟩
  · rw [halerts, List.forall₂_map_left_iff]
    have hbuilt := List.forall₂_map_left_iff.1 (forall₂_alertsOf now e r.factory (fired.map (·.2)))
    refine ((List.forall₂_and_left ..).2 ⟨fun x hx => ((hmem x).1 hx).1, hbuilt⟩).imp ?_
    rintro x a ⟨hget, alertId, ha⟩
    exact ⟨x.2, alertId, now, hget, ha⟩

/-! ### Alerts that are sent -/

/-- Notes of alerts one after the other whether they were taken. -/
def sentAll (r : Replica) : List Alert → List Bool → Replica
  | a :: alerts, taken :: verdicts => (r.sent a taken).sentAll alerts verdicts
  | _, _ => r

theorem sentAll_snoc (r : Replica) {alerts : List Alert} {verdicts : List Bool}
    (h : verdicts.length = alerts.length) (a : Alert) (taken : Bool) :
    r.sentAll (alerts ++ [a]) (verdicts ++ [taken]) = (r.sentAll alerts verdicts).sent a taken := by
  induction alerts generalizing r verdicts with
  | nil =>
    cases List.length_eq_zero_iff.1 h
    rfl
  | cons b rest ih =>
    cases verdicts with
    | nil => cases h
    | cons v vs => exact ih (r.sent b v) (Nat.succ.inj h)

/-- What each alert keeps, all of them do. -/
theorem sentAll_keeps {P : Replica → Prop} (hsent : ∀ r a taken, P r → P (r.sent a taken))
    (alerts : List Alert) (verdicts : List Bool) (r : Replica) (h : P r) :
    P (r.sentAll alerts verdicts) := by
  induction alerts generalizing r verdicts with
  | nil => exact h
  | cons a rest ih =>
    cases verdicts with
    | nil => exact h
    | cons v vs => exact ih vs _ (hsent r a v h)

/-- The alerts that were taken, and what nobody took. -/
def delivered (r : Replica) : UInt64 × UInt64 := (r.stats.alerts, r.stats.sinkFailures)

theorem delivered_sent (r : Replica) (a : Alert) (taken : Bool) :
    (r.sent a taken).delivered =
      (r.stats.alerts + UInt64.ofNat (if taken == true then 1 else 0),
        r.stats.sinkFailures + UInt64.ofNat (if taken == false then 1 else 0)) := by
  cases taken with
  | true => exact Prod.ext rfl (UInt64.add_zero _).symm
  | false => exact Prod.ext (UInt64.add_zero _).symm rfl

/-- **Each alert counts once**, as taken or as failed. -/
theorem delivered_sentAll (r : Replica) {alerts : List Alert} {verdicts : List Bool}
    (h : verdicts.length = alerts.length) :
    (r.sentAll alerts verdicts).delivered =
      (r.stats.alerts + UInt64.ofNat (verdicts.count true),
        r.stats.sinkFailures + UInt64.ofNat (verdicts.count false)) := by
  induction alerts generalizing r verdicts with
  | nil =>
    cases List.length_eq_zero_iff.1 h
    exact Prod.ext (UInt64.add_zero _).symm (UInt64.add_zero _).symm
  | cons a rest ih =>
    cases verdicts with
    | nil => cases h
    | cons v vs =>
      obtain ⟨halerts, hfailures⟩ := Prod.mk.inj (r.delivered_sent a v)
      rw [sentAll, ih (r.sent a v) (Nat.succ.inj h), halerts, hfailures, List.count_cons,
        List.count_cons, UInt64.add_assoc, UInt64.add_assoc, ← UInt64.ofNat_add,
        ← UInt64.ofNat_add, Nat.add_comm (vs.count true), Nat.add_comm (vs.count false)]

/-! ### All of it -/

/-- A replica after an event. The store answered so if it was asked, the event was taken or not by
those who want to see all events, and of each alert it is known whether it was taken. -/
structure Processed (r : Replica) (answer : Except Error (List (String × Definition))) (e : Event)
    (taken : Bool) (verdicts : List Bool) (alerts : List Alert) (r' : Replica) : Prop where
  fired : ∃ registry, r'.phase = .ready registry ∧ registry.Fired e alerts
  /-- Each alert is sent, whatever became of those before it. -/
  settled : verdicts.length = alerts.length
  counted : r'.counted = (r.stats.events + 1, r.stats.dropped)
  delivered : r'.delivered = (r.stats.alerts + UInt64.ofNat (verdicts.count true),
    r.stats.sinkFailures + UInt64.ofNat (verdicts.count false + if taken then 0 else 1))
  /-- A replica that has its rules keeps them. -/
  ready : ∀ registry, r.phase = .ready registry →
    r'.phase = .ready registry ∧ ∀ f, r'.stats.fate f = r.stats.fate f
  /-- Another one has loaded them, and what was put aside has come to its ends. -/
  waiting : ∀ pending, r.phase = .waiting pending →
    let loaded := Registry.ofRules (Rule.ofDefinitions (Definition.told answer))
    r'.phase = .ready (loaded.applyAll pending) ∧
      ∀ f, r'.stats.fate f = r.stats.fate f + UInt64.ofNat (Definition.failures f answer) +
        UInt64.ofNat (Ending.tally f (loaded.settle pending))
  issued : r'.lastIssued = r.lastIssued
  number : r'.number = r.number

theorem delivered_offered (r : Replica) (taken : Bool) :
    (r.offered taken).delivered =
      (r.stats.alerts, r.stats.sinkFailures + UInt64.ofNat (if taken then 0 else 1)) := by
  cases taken with
  | true => exact Prod.ext rfl (UInt64.add_zero _).symm
  | false => rfl

theorem delivered_load (r : Replica) (answer : Except Error (List (String × Definition))) :
    (r.load answer).delivered = r.delivered :=
  stats_load (f := fun s => (s.alerts, s.sinkFailures)) (fun _ => rfl) (fun _ => rfl)
    (fun _ v => by cases v <;> rfl) r answer

theorem delivered_evaluate (r : Replica) (now : Instant) (e : Event) :
    (r.evaluate now e).1.delivered = r.delivered := by
  unfold evaluate
  split <;> rfl

/-- **What a replica makes of an event**, from offering it to the verdict on the last alert. -/
theorem processed_sentAll (r : Replica) (answer : Except Error (List (String × Definition)))
    (now : Instant) (e : Event) (taken : Bool) {q : Replica} {alerts : List Alert}
    {verdicts : List Bool} (h : ((r.offered taken).load answer).evaluate now e = (q, alerts))
    (hsettled : verdicts.length = alerts.length) :
    Processed r answer e taken verdicts alerts (q.sentAll alerts verdicts) := by
  let offered := r.offered taken
  obtain ⟨registry, hregistry⟩ := offered.exists_registry_of_load answer
  have hq : ((offered.load answer).evaluate now e).1 = q := congrArg Prod.fst h
  have halerts : ((offered.load answer).evaluate now e).2 = alerts := congrArg Prod.snd h
  have hoffered : r.Steady offered := r.steady_offered taken
  have hsteady : (offered.load answer).Steady (q.sentAll alerts verdicts) := by
    refine sentAll_keeps (fun r a taken hr => hr.trans (r.steady_sent a taken)) alerts verdicts q ?_
    exact hq ▸ Replica.steady_evaluate _ now e
  refine
    { fired := ⟨registry, hsteady.phase.trans hregistry, ?_⟩
      settled := hsettled
      counted := ?_
      delivered := ?_
      ready := fun kept hready => ?_
      waiting := fun pending hwaiting => ?_
      issued := ?_
      number := (hsteady.number.trans (number_load offered answer)).trans hoffered.number }
  · exact halerts ▸ fired_evaluate hregistry now e
  · refine sentAll_keeps (P := fun s => s.counted = (r.stats.events + 1, r.stats.dropped))
      (fun s a taken hs => (s.counted_sent a taken).trans hs) alerts verdicts q ?_
    rw [← hq, counted_evaluate hregistry, counted_load, counted_offered]
    rfl
  · have hdelivered : q.delivered = offered.delivered := by
      rw [← hq, delivered_evaluate, delivered_load]
    obtain ⟨hsent, hfailed⟩ := Prod.mk.inj (hdelivered.trans (r.delivered_offered taken))
    rw [q.delivered_sentAll hsettled, hsent, hfailed, UInt64.add_assoc, ← UInt64.ofNat_add,
      Nat.add_comm (verdicts.count false)]
  · have hload := load_of_ready (hoffered.phase.trans hready) answer
    rw [hload] at hsteady
    exact ⟨(hsteady.phase.trans hoffered.phase).trans hready,
      fun f => (hsteady.fates f).trans (hoffered.fates f)⟩
  · have hphase := hoffered.phase.trans hwaiting
    exact ⟨hsteady.phase.trans (phase_load hphase answer), fun f => by
      rw [hsteady.fates, fate_load hphase, hoffered.fates]⟩
  · refine sentAll_keeps (P := fun s => s.lastIssued = r.lastIssued)
      (fun s a taken hs => (s.kept_sent a taken).2.trans hs) alerts verdicts q ?_
    rw [← hq, (Replica.kept_evaluate _ now e).2, lastIssued_load]
    exact (r.kept_offered taken).2

end Replica
end Watchpost
