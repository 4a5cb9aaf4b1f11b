import Watchpost.Proofs.Lane.Number
import Watchpost.Proofs.Registry.Restoring

/-! What replicas begin with.

A replica is new, or takes its rules from a snapshot of another one before its first update.
Both may have begun with a snapshot themselves, and the one that takes the rules may have been
given records before. Its registry is in order then, and no number in it is beyond the count of
all updates so far (`Begins.founded`). -/
namespace Watchpost

namespace Lane

/-- How a replica begins, after a number of updates to those whose rules it has. -/
inductive Begins : Replica → Nat → Prop where
  | new (number : Nat) : Begins { number } 0
  | restored {q r : Replica} {m n : Nat} {first early start l : Lane} {records acts : List Act}
      {s : Snapshot} (hfirst : Begins q m) (hempty : Fresh q first)
      (hearly : Run first records early) (hnone : updatesOf records = []) (h : Begins r n)
      (hfresh : Fresh r start) (hrun : Run start acts l)
      (hsnapshot : l.replica.snapshot? = some s) :
      Begins (early.replica.restore s).1 (n + (updatesOf acts).length)

/-- A lane without updates has no wishes under way, so nothing that was done before reaches the
rules that its replica takes. -/
theorem fresh_restore {q : Replica} {first early : Lane} {records : List Act}
    (hempty : Fresh q first) (hearly : Run first records early) (hnone : updatesOf records = [])
    (hidle : early.isIdle = true) (s : Snapshot) :
    Fresh (early.replica.restore s).1 { early with replica := (early.replica.restore s).1 } where
  replica := rfl
  idle := task_of_isIdle hidle
  flight := by
    have hwishes : wishes q.lastIssued records = [] := by
      refine List.eq_nil_iff_forall_not_mem.2 fun wish hwish => ?_
      obtain ⟨k, hk, -⟩ := mem_wishes.1 hwish
      rw [hnone] at hk
      cases hk
    have hasked := (hearly.traced hempty).asked
    rw [hwishes] at hasked
    exact (List.append_eq_nil_iff.1 (List.subperm_nil.1 hasked)).2

/-- A replica that waits without changes, or has a registry that is in order. -/
structure Founded (r : Replica) (n : Nat) : Prop where
  issued : r.lastIssued.toNat ≤ n
  phase : r.phase = .waiting [] ∨
    ∃ base, r.phase = .ready base ∧ Grounded r.lastIssued base

/-- A registry is one that the replica may have begun with, after the changes of the run. -/
theorem Traced.exists_base {r : Replica} {n : Nat} {acts : List Act} {l : Lane}
    (h : Traced r acts l) (hr : Founded r n) {registry : Registry}
    (hready : l.replica.phase = .ready registry) :
    ∃ base, Grounded r.lastIssued base ∧ registry = base.applyAll (changes r.lastIssued acts) := by
  have hphase := h.phase
  rw [hready] at hphase
  rcases hr.phase with hwaiting | ⟨base, hbase, hgrounded⟩
  · rw [hwaiting] at hphase
    cases hloads : loadsOf acts with
    | nil =>
      rw [hloads] at hphase
      cases hphase
    | cons answer rest =>
      rw [hloads] at hphase
      cases hphase
      exact ⟨_, grounded_ofRules r.lastIssued _, rfl⟩
  · have hground : r.phase.ground (loadsOf acts) = .ready base := by
      rw [hbase]
      cases loadsOf acts <;> rfl
    rw [hground] at hphase
    cases hphase
    exact ⟨base, hgrounded, rfl⟩

theorem toNat_issued {last : UInt64} {acts : List Act}
    (h : last.toNat + (updatesOf acts).length < 2 ^ 64) :
    (issued last acts).toNat = last.toNat + (updatesOf acts).length := by
  rw [issued_eq, UInt64.toNat_add, UInt64.toNat_ofNat',
    Nat.mod_eq_of_lt (a := (updatesOf acts).length) (by omega), Nat.mod_eq_of_lt h]

/-- **A registry that a run comes to is in order.** -/
theorem Traced.grounded {r : Replica} {n : Nat} {acts : List Act} {l : Lane}
    (h : Traced r acts l) (hr : Founded r n) (hlen : n + (updatesOf acts).length < 2 ^ 64)
    {registry : Registry} (hready : l.replica.phase = .ready registry) :
    Grounded (Lane.issued r.lastIssued acts) registry := by
  obtain ⟨base, hbase, rfl⟩ := h.exists_base hr hready
  have hissued := hr.issued
  have hnumbers : r.lastIssued.toNat + (updatesOf acts).length < 2 ^ 64 := by omega
  refine ⟨hbase.numbered.applyAll _, hbase.keyed.applyAll _, ?_⟩
  refine Registry.lastSeq_applyAll_le (UInt64.le_trans hbase.le ?_) fun c hc => h.seq_le hnumbers hc
  rw [UInt64.le_iff_toNat_le, toNat_issued hnumbers]
  exact Nat.le_add_right ..

theorem founded_restore {n : Nat} {registry : Registry} {last : UInt64} (q : Replica)
    (h : Grounded last registry) (hn : last.toNat ≤ n) :
    Founded (q.restore registry.snapshot).1 n where
  issued := by
    have hlast : (q.restore registry.snapshot).1.lastIssued = registry.lastSeq :=
      Registry.lastSeq_restore registry.snapshot
    rw [hlast]
    exact Nat.le_trans (UInt64.le_iff_toNat_le.1 h.le) hn
  phase := .inr ⟨(Registry.restore registry.snapshot).1, rfl,
    Registry.numbered_restore h.numbered, Registry.keyed_restore _, UInt64.le_refl _⟩

theorem Begins.founded {r : Replica} {n : Nat} (h : Begins r n) (hn : n < 2 ^ 64) :
    Founded r n := by
  induction h with
  | new number => exact ⟨Nat.le_refl 0, .inl rfl⟩
  | @restored q r m n first early start l records acts s _ _ _ _ h hfresh hrun hsnapshot _ ih =>
    have hr := ih (by omega)
    have hissued := hr.issued
    obtain ⟨registry, hregistry, rfl⟩ := Option.map_eq_some_iff.1 hsnapshot
    have hready := Replica.ready_iff.1 hregistry
    have hnumbers : r.lastIssued.toNat + (updatesOf acts).length < 2 ^ 64 := by omega
    refine founded_restore early.replica ((hrun.traced hfresh).grounded hr hn hready) ?_
    rw [toNat_issued hnumbers]
    omega

end Lane
end Watchpost
