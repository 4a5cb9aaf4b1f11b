import Watchpost.Proofs.Lane.Agreement
import Watchpost.Proofs.Lane.Beginning
import Watchpost.Proofs.Lane.Ledger
import Watchpost.Proofs.Registry.Lossless
import Watchpost.Proofs.Registry.Order

/-! Updates after a replica took its rules from a snapshot.

Whatever the snapshot is, numbers go on from its last one, so an update has its way with every id
of which the snapshot tells no later number (`updates_resume`). A snapshot that was not made by a replica
may tell later numbers than its last one, and then an update comes too late
(`deletion_outnumbered`). -/
namespace Watchpost

namespace Registry

/-- No number beyond one is known of an id. -/
def KnownBy (r : Registry) (id : String) (seq : UInt64) : Prop :=
  ∀ version, r.version? id = some version → version ≤ seq

/-- What is known of an id after many changes was known before, or is the number of one of them. -/
theorem version?_applyAll {r : Registry} {cs : List Change} {id : String} {version : UInt64}
    (h : (r.applyAll cs).version? id = some version) :
    r.version? id = some version ∨ ∃ c ∈ cs, c.id = id ∧ c.seq = version := by
  induction cs generalizing r with
  | nil => exact .inl h
  | cons c rest ih =>
    rcases ih h with hbefore | ⟨d, hd, hid⟩
    · cases hs : r.isStale c with
      | true =>
        rw [apply_of_stale hs] at hbefore
        exact .inl hbefore
      | false =>
        rw [apply_of_timely hs, version?_enforce] at hbefore
        split at hbefore
        · next hid =>
          cases hbefore
          exact .inr ⟨c, List.mem_cons_self .., hid.symm, rfl⟩
        · exact .inl hbefore
    · exact .inr ⟨d, List.mem_cons_of_mem c hd, hid⟩

/-- A change that comes in time is what is shown, and counts as applied. -/
theorem timely_of_known {r : Registry} {c : Change} (h : r.KnownBy c.id c.seq) :
    (r.apply c).1.Shows c ∧ r.settle [c] = [⟨c.seq, .applied⟩] := by
  have htimely : r.isStale c = false := timely_iff.1 h
  have happly : r.apply c = (r.enforce c, .applied) := by
    rw [apply, htimely, if_neg Bool.false_ne_true]
  refine ⟨?_, ?_⟩
  · rw [happly]
    exact shows_enforce r c
  · rw [settle, settle, happly]
    rfl

end Registry

theorem Replica.lastIssued_restore (number : Nat) (s : Snapshot) :
    (({ number } : Replica).restore s).1.lastIssued = s.lastSeq := Registry.lastSeq_restore s

/-- No change of a snapshot counts. -/
theorem Replica.fate_restore (number : Nat) (s : Snapshot) :
    (({ number } : Replica).restore s).1.stats.fate .applied = 0 ∧
      (({ number } : Replica).restore s).1.stats.fate .stale = 0 := ⟨rfl, rfl⟩

namespace Lane

section
variable {number : Nat} {s : Snapshot} {start l l' : Lane} {acts : List Act} {a : Act}

/-- The rules of the snapshot, after the changes of the run. -/
theorem Traced.phase_resumed (h : Traced (({ number } : Replica).restore s).1 acts l) :
    l.replica.phase = .ready ((Registry.restore s).1.applyAll (changes s.lastSeq acts)) := by
  have hlast := Replica.lastIssued_restore number s
  have hphase := h.phase
  rw [hlast] at hphase
  refine hphase.trans ?_
  cases loadsOf acts <;> rfl

/-- Numbers go on from the last one of the snapshot. -/
theorem Traced.issued_resumed (h : Traced (({ number } : Replica).restore s).1 acts l)
    (hlen : s.lastSeq.toNat + (updatesOf acts).length < 2 ^ 64) :
    l.replica.lastIssued.toNat = s.lastSeq.toNat + (updatesOf acts).length := by
  have hlast := Replica.lastIssued_restore number s
  rw [h.issued, hlast]
  exact toNat_issued hlen

/-- No change has a number beyond the last one. -/
theorem Traced.seq_le_resumed (h : Traced (({ number } : Replica).restore s).1 acts l)
    (hlen : s.lastSeq.toNat + (updatesOf acts).length < 2 ^ 64) {c : Change}
    (hc : c ∈ changes s.lastSeq acts) : c.seq ≤ l.replica.lastIssued := by
  have hlast := Replica.lastIssued_restore number s
  rw [← hlast] at hc hlen
  rw [h.issued]
  exact h.seq_le hlen hc

/-- The registry after a move that makes a change. -/
theorem Acts.phase_changed (h : Acts l a l') {registry : Registry} {c : Change}
    (hready : l.replica.phase = .ready registry) (hload : a.load? = none)
    (hchange : a.changes l.replica.lastIssued = [c]) :
    l'.replica.phase = .ready (registry.apply c).1 := by
  rw [h.effect.phase, hready, hload, hchange]
  rfl

/-- A change that comes in time is in force, and counts as applied. -/
theorem Acts.applied (h : Acts l a l') (hfits : l.task.Fits l.replica.phase) {registry : Registry}
    {c : Change} (hready : l.replica.phase = .ready registry) (hload : a.load? = none)
    (hchange : a.changes l.replica.lastIssued = [c])
    (hends : a.endings l.workerGone l.replica.phase l.replica.lastIssued = registry.settle [c])
    (hfailures : a.failures .applied = 0) (hknown : registry.KnownBy c.id c.seq) :
    ∃ after, l'.replica.registry? = some after ∧ after.Shows c ∧
      l'.replica.stats.applied = l.replica.stats.applied + 1 := by
  obtain ⟨hshows, hsettle⟩ := Registry.timely_of_known hknown
  refine ⟨_, Replica.ready_iff.2 (h.phase_changed hready hload hchange), hshows, ?_⟩
  have hfates := h.fates hfits .applied
  rw [hends, hsettle, hfailures] at hfates
  exact hfates

/-- A deletion has its way with what is known by its own number. -/
theorem Run.deleted (hfresh : Fresh (({ number } : Replica).restore s).1 start)
    (hrun : Run start acts l) {id : String} (hact : Acts l (.update ⟨id, .delete⟩) l')
    (hlen : s.lastSeq.toNat + (updatesOf acts).length + 1 < 2 ^ 64)
    (hknown : (Registry.restore s).1.KnownBy id l'.replica.lastIssued) :
    ∃ registry, l'.replica.registry? = some registry ∧ registry.get? id = none ∧
      registry.version? id = some l'.replica.lastIssued ∧
      l'.replica.stats.applied = l.replica.stats.applied + 1 := by
  have htraced := hrun.traced hfresh
  have hready := htraced.phase_resumed
  have hissued : l'.replica.lastIssued = l.replica.lastIssued + 1 := hact.effect.issued
  rw [hissued] at hknown ⊢
  -- All changes before have lower numbers.
  have hlast : l.replica.lastIssued ≤ l.replica.lastIssued + 1 := by
    have hnow := htraced.issued_resumed (by omega)
    have hnext : (l.replica.lastIssued + 1).toNat = l.replica.lastIssued.toNat + 1 :=
      toNat_seqAt (k := 0) (by omega)
    rw [UInt64.le_iff_toNat_le]
    omega
  have hbefore : ((Registry.restore s).1.applyAll (changes s.lastSeq acts)).KnownBy id
      (l.replica.lastIssued + 1) := by
    intro version hversion
    rcases Registry.version?_applyAll hversion with hversion | ⟨c, hc, -, rfl⟩
    · exact hknown version hversion
    · exact UInt64.le_trans (htraced.seq_le_resumed (by omega) hc) hlast
  obtain ⟨registry, hregistry, hshows, hcounted⟩ := hact.applied htraced.fits hready rfl rfl
    (congrArg (Replica.Phase.settle · _) hready) rfl hbefore
  exact ⟨registry, hregistry, hshows.rule, hshows.version, hcounted⟩

/-- What came of a wish that was made at an update of its id. -/
theorem Run.wished (hfresh : Fresh (({ number } : Replica).restore s).1 start)
    (hrun : Run start acts l) {o : FetchOutcome} (hact : Acts l (.outcome o) l') :
    ∃ k, (updatesOf acts)[k]? = some ⟨o.ruleId, .upsert⟩ ∧ o.seq = seqAt s.lastSeq k := by
  have hlast := Replica.lastIssued_restore number s
  have htraced := (hrun.snoc hact).traced hfresh
  have ho : o ∈ outcomesOf (acts ++ [.outcome o]) := by
    rw [outcomesOf_snoc]
    exact List.mem_append_right _ (List.mem_singleton_self o)
  obtain ⟨k, hk, hseq⟩ := mem_wishes.1 (htraced.mem_wishes_of_outcome ho)
  rw [hlast] at hseq
  rw [updatesOf_snoc] at hk
  exact ⟨k, (congrArg (·[k]?) (List.append_nil (updatesOf acts))).symm.trans hk, hseq⟩

/-- A rule that came of an upsert has its way with what is known by its number, unless a later
update of its id was there first. -/
theorem Run.upserted (hfresh : Fresh (({ number } : Replica).restore s).1 start)
    (hrun : Run start acts l) {seq : UInt64} {id : String} {d : Definition} {rule : Rule}
    (hact : Acts l (.outcome ⟨seq, id, .ok (some d)⟩) l')
    (hlen : s.lastSeq.toNat + (updatesOf acts).length < 2 ^ 64)
    (hcompile : Rule.compile id d = .ok rule) (hknown : (Registry.restore s).1.KnownBy id seq) :
    ∃ k registry, (updatesOf acts)[k]? = some ⟨id, .upsert⟩ ∧ seq = seqAt s.lastSeq k ∧
      l'.replica.registry? = some registry ∧
      ((registry.get? id = some rule ∧ registry.version? id = some seq ∧
          l'.replica.stats.applied = l.replica.stats.applied + 1) ∨
        ∃ j action, k < j ∧ (updatesOf acts)[j]? = some ⟨id, action⟩ ∧
          registry.version? id = some (seqAt s.lastSeq j)) := by
  have hlast := Replica.lastIssued_restore number s
  have htraced := hrun.traced hfresh
  have hready := htraced.phase_resumed
  have hid := Rule.id_of_compile hcompile
  obtain ⟨k, hk, hseq⟩ := hrun.wished hfresh hact
  have hchange : FetchOutcome.change? ⟨seq, id, .ok (some d)⟩ = some (.upsert seq rule) := by
    unfold FetchOutcome.change?
    dsimp only
    rw [hcompile]
    rfl
  have hchanges : Act.changes l.replica.lastIssued (.outcome ⟨seq, id, .ok (some d)⟩) =
      [.upsert seq rule] := congrArg Option.toList hchange
  by_cases hbefore : ((Registry.restore s).1.applyAll (changes s.lastSeq acts)).KnownBy id seq
  · have hends : (Act.outcome ⟨seq, id, .ok (some d)⟩).endings l.workerGone l.replica.phase
        l.replica.lastIssued =
          ((Registry.restore s).1.applyAll (changes s.lastSeq acts)).settle [.upsert seq rule] := by
      rw [hready, Act.endings, FetchOutcome.endings, hchange]
      rfl
    rw [← hid] at hbefore
    obtain ⟨registry, hregistry, hshows, hcounted⟩ :=
      hact.applied htraced.fits hready rfl hchanges hends rfl hbefore
    rw [← hid] at hk ⊢
    exact ⟨k, registry, hk, hseq, hregistry, .inl ⟨hshows.rule, hshows.version, hcounted⟩⟩
  · -- The version that stands in the way is not one of the snapshot, so a later update left it.
    obtain ⟨version, hrest⟩ := Classical.not_forall.1 hbefore
    obtain ⟨hversion, hnot⟩ := Classical.not_imp.1 hrest
    have hlater := UInt64.not_le.1 hnot
    rcases Registry.version?_applyAll hversion with hbase | ⟨c, hc, hcid, rfl⟩
    · exact absurd (hknown version hbase) hnot
    · rw [← hlast] at hc
      obtain ⟨j, action, hj, hcseq, -⟩ := htraced.exists_update_of_change hc
      rw [hlast] at hcseq
      rw [hcid] at hj
      have hstale : ((Registry.restore s).1.applyAll (changes s.lastSeq acts)).isStale
          (.upsert seq rule) = true := by
        refine Registry.isStale_iff.2 ⟨c.seq, ?_, hlater⟩
        rw [← hid] at hversion
        exact hversion
      have hafter := hact.phase_changed hready rfl hchanges
      rw [Registry.apply_of_stale hstale] at hafter
      refine ⟨k, _, hk, hseq, Replica.ready_iff.2 hafter, .inr ⟨j, action, ?_, hj, ?_⟩⟩
      · have hjlt := (List.getElem?_eq_some_iff.1 hj).1
        have hklt := (List.getElem?_eq_some_iff.1 hk).1
        have hplaces : seqAt s.lastSeq k < seqAt s.lastSeq j := by
          rw [← hcseq]
          exact hseq ▸ hlater
        rw [UInt64.lt_iff_toNat_lt, toNat_seqAt (by omega), toNat_seqAt (by omega)] at hplaces
        omega
      · rw [← hcseq]
        exact hversion

end

/-- **Updates take effect after a replica took its rules from any snapshot.** Each update is given
the number after the last one, as long as there are numbers. If no later number is known of an id
from the snapshot, a deletion of it is in force at once, and a rule that came of an upsert of it
when that is fetched, unless a later update was there first. -/
theorem updates_resume {number : Nat} {s : Snapshot} {start l l' : Lane} {acts : List Act} {a : Act}
    (hfresh : Fresh (({ number } : Replica).restore s).1 start) (hrun : Run start acts l)
    (hact : Acts l a l') (hlen : s.lastSeq.toNat + (updatesOf (acts ++ [a])).length < 2 ^ 64) :
    (∀ u, a = .update u →
      l'.replica.lastIssued.toNat = s.lastSeq.toNat + (updatesOf acts).length + 1 ∧
      (∀ j < (updatesOf acts).length, seqAt s.lastSeq j < l'.replica.lastIssued) ∧
      ∀ id version, (Registry.restore s).1.version? id = some version → version ≤ s.lastSeq →
        version < l'.replica.lastIssued) ∧
    (∀ id, a = .update ⟨id, .delete⟩ →
      (Registry.restore s).1.KnownBy id l'.replica.lastIssued →
      ∃ registry, l'.replica.registry? = some registry ∧ registry.get? id = none ∧
        registry.version? id = some l'.replica.lastIssued ∧
        l'.replica.stats.applied = l.replica.stats.applied + 1) ∧
    (∀ seq id d rule, a = .outcome ⟨seq, id, .ok (some d)⟩ → Rule.compile id d = .ok rule →
      (Registry.restore s).1.KnownBy id seq →
      ∃ k registry, (updatesOf acts)[k]? = some ⟨id, .upsert⟩ ∧ seq = seqAt s.lastSeq k ∧
        l'.replica.registry? = some registry ∧
        ((registry.get? id = some rule ∧ registry.version? id = some seq ∧
            l'.replica.stats.applied = l.replica.stats.applied + 1) ∨
          ∃ j action, k < j ∧ (updatesOf acts)[j]? = some ⟨id, action⟩ ∧
            registry.version? id = some (seqAt s.lastSeq j))) := by
  have hupdate {u : RuleUpdate} (hu : a = .update u) :
      (updatesOf (acts ++ [a])).length = (updatesOf acts).length + 1 := by
    rw [hu, updatesOf_snoc, List.length_append]
    rfl
  refine ⟨?_, ?_, ?_⟩
  · rintro u rfl
    have hlength := hupdate rfl
    have hnumber := ((hrun.snoc hact).traced hfresh).issued_resumed hlen
    refine ⟨by omega, fun j hj => ?_, fun id version _ hversion => ?_⟩
    · rw [UInt64.lt_iff_toNat_lt, toNat_seqAt (by omega)]
      omega
    · rw [UInt64.lt_iff_toNat_lt]
      have := UInt64.le_iff_toNat_le.1 hversion
      omega
  · rintro id rfl hknown
    have hlength := hupdate rfl
    exact hrun.deleted hfresh hact (by omega) hknown
  · rintro seq id d rule rfl hcompile hknown
    rw [updatesOf_snoc, List.length_append] at hlen
    exact hrun.upserted hfresh hact (by omega) hcompile hknown

/-- A snapshot in which a deletion has a later number than the last one. -/
def farAhead : Snapshot :=
  { lastSeq := 3
    rules := Table.empty.insert "A" ⟨2, switchedOff⟩
    tombstones := Table.empty.insert "B" 9 }

/-- What the worker comes to when it fetches the definition for the second update. -/
def fetchedAgain : FetchOutcome := ⟨5, "A", .ok (some switchedOff)⟩

theorem known_farAhead {seq : UInt64} (h : 2 ≤ seq) : (Registry.restore farAhead).1.KnownBy "A" seq := by
  intro version hversion
  rw [Registry.version?_restore] at hversion
  cases hversion
  exact h

/-- The rule of the snapshot is deleted and put back. -/
theorem updates_resume_farAhead : ∃ (start mid l : Lane) (registry later : Registry) (rule : Rule),
    Fresh (({ number := 0 } : Replica).restore farAhead).1 start ∧
      Run start [.update ⟨"A", .delete⟩] mid ∧
      Run start [.update ⟨"A", .delete⟩, .update ⟨"A", .upsert⟩, .other, .other, .other,
        .outcome fetchedAgain] l ∧
      mid.replica.registry? = some registry ∧ registry.get? "A" = none ∧
      l.replica.registry? = some later ∧ Rule.compile "A" switchedOff = .ok rule ∧
      later.get? "A" = some rule ∧ later.version? "A" = some 5 := by
  let world := World.prompt (Table.empty.insert "A" switchedOff)
  let start := Lane.ofReplica (({ number := 0 } : Replica).restore farAhead).1 1
  let mid := start.takeUpdate ⟨"A", .delete⟩
  let asked := { mid with replica := (mid.replica.update ⟨"A", .upsert⟩).1 }
  have hfresh := fresh_ofReplica (({ number := 0 } : Replica).restore farAhead).1 1
  have hdelete : Acts start (.update ⟨"A", .delete⟩) mid := .happens (w := world) (.update _ rfl)
  have deleted : Run start [.update ⟨"A", .delete⟩] mid := Run.nil.snoc hdelete
  have hlast := (congrArg Replica.lastIssued hfresh.replica).trans
    (Replica.lastIssued_restore 0 farAhead)
  have hissued : mid.replica.lastIssued = 4 := by
    rw [hdelete.effect.issued, hlast]
    rfl
  -- The definition is wished for, fetched and handed over.
  have hupsert : Acts mid (.update ⟨"A", .upsert⟩) { asked with requests := [⟨5, "A"⟩] } := by
    have htaken : mid.takeUpdate ⟨"A", .upsert⟩ =
        { asked with requests := [⟨mid.replica.lastIssued + 1, "A"⟩] } := rfl
    rw [show (5 : UInt64) = 4 + 1 from rfl, ← hissued, ← htaken]
    exact .happens (w := world) (.update _ rfl)
  have hcalled : workerStep { asked with requests := [⟨5, "A"⟩] } world =
      some (world, { asked with worker := .fetching ⟨5, "A"⟩ ⟨0, 0, .called 0 none⟩ }) := rfl
  have hfetched : workerStep { asked with worker := .fetching ⟨5, "A"⟩ ⟨0, 0, .called 0 none⟩ }
      world = some (world, { asked with worker := .telling fetchedAgain false }) := rfl
  have htold : workerStep { asked with worker := .telling fetchedAgain false } world =
      some (world, { asked with outcomes := { capacity := 1, queued := [fetchedAgain] } }) := rfl
  have handed : Run start [.update ⟨"A", .delete⟩, .update ⟨"A", .upsert⟩, .other, .other, .other]
      { asked with outcomes := { capacity := 1, queued := [fetchedAgain] } } :=
    (((deleted.snoc hupsert).happens world (.worker hcalled)).happens world
      (.worker hfetched)).happens world (.worker htold)
  have houtcome : Acts _ (.outcome fetchedAgain) _ := .happens (w := world) (.outcome
    (l := { asked with outcomes := { capacity := 1, queued := [fetchedAgain] } }) rfl rfl)
  have hcompiles : (Rule.compile "A" switchedOff).toOption.isSome = true := by decide +kernel
  cases hcompile : Rule.compile "A" switchedOff with
  | error error =>
    rw [hcompile] at hcompiles
    cases hcompiles
  | ok rule =>
    obtain ⟨registry, hregistry, hnone, -⟩ := (updates_resume hfresh .nil hdelete (by decide)).2.1
      "A" rfl (known_farAhead (by rw [hissued]; decide))
    obtain ⟨k, later, hk, -, hlater, hfate⟩ := (updates_resume hfresh handed houtcome
      (by decide)).2.2 5 "A" switchedOff rule rfl hcompile (known_farAhead (by decide))
    obtain ⟨hrule, hversion, -⟩ := hfate.resolve_right fun ⟨j, action, hkj, hj, _⟩ => by
      have hjlt : j < 2 := (List.getElem?_eq_some_iff.1 hj).1
      have : k = 0 := by omega
      subst this
      cases hk
    exact ⟨start, mid, _, registry, later, rule, hfresh, deleted, handed.snoc houtcome, hregistry,
      hnone, hlater, rfl, hrule, hversion⟩

/-- A snapshot whose last number is not the last one in it. -/
def outnumbered : Snapshot :=
  { lastSeq := 0, rules := Table.empty.insert "A" ⟨5, switchedOff⟩, tombstones := .empty }

/-- A deletion after such a snapshot comes too late: its number is not a later one than that of the
rule, which stays. -/
theorem deletion_outnumbered : ∃ (l : Lane) (registry : Registry),
    Run (.ofReplica (({ number := 0 } : Replica).restore outnumbered).1 1)
      [.update ⟨"A", .delete⟩] l ∧
    l.replica.lastIssued = 1 ∧ (Registry.restore outnumbered).1.version? "A" = some 5 ∧
    l.replica.registry? = some registry ∧ registry.contains "A" = true ∧
    l.replica.stats.applied = 0 ∧ l.replica.stats.stale = 1 := by
  let start := Lane.ofReplica (({ number := 0 } : Replica).restore outnumbered).1 1
  have hdelete : Acts start (.update ⟨"A", .delete⟩) (start.takeUpdate ⟨"A", .delete⟩) :=
    .happens (w := .prompt .empty) (.update _ rfl)
  have hfresh := fresh_ofReplica (({ number := 0 } : Replica).restore outnumbered).1 1
  have hreplica : start.replica = (({ number := 0 } : Replica).restore outnumbered).1 :=
    hfresh.replica
  have hlast := Replica.lastIssued_restore 0 outnumbered
  rw [← hreplica] at hlast
  have hready : start.replica.phase = .ready (Registry.restore outnumbered).1 :=
    (hfresh.traced.phase_resumed).trans rfl
  have hversion : (Registry.restore outnumbered).1.version? "A" = some 5 :=
    Registry.version?_restore outnumbered "A"
  have hcontains : (Registry.restore outnumbered).1.contains "A" = true := by decide +kernel
  have hstale : (Registry.restore outnumbered).1.isStale
      (.delete (outnumbered.lastSeq + 1) "A") = true :=
    Registry.isStale_iff.2 ⟨5, hversion, by decide⟩
  have hissued := hdelete.effect.issued
  have hafter := hdelete.phase_changed hready rfl rfl
  have hends : Act.endings start.workerGone start.replica.phase start.replica.lastIssued
      (.update ⟨"A", .delete⟩) = [⟨1, .stale⟩] := by
    rw [hlast, hready]
    show (Registry.restore outnumbered).1.settle [.delete (outnumbered.lastSeq + 1) "A"] = _
    rw [Registry.settle, Registry.settle, Registry.apply, hstale]
    rfl
  have hfates (f : Fate) := hdelete.fates hfresh.traced.fits f
  rw [hlast] at hissued hafter
  rw [Registry.apply_of_stale hstale] at hafter
  rw [hends] at hfates
  refine ⟨_, _, Run.nil.snoc hdelete, hissued, hversion, Replica.ready_iff.2 hafter, hcontains,
    (hfates .applied).trans ?_, (hfates .stale).trans ?_⟩
  · rw [hreplica, (Replica.fate_restore 0 outnumbered).1]
    rfl
  · rw [hreplica, (Replica.fate_restore 0 outnumbered).2]
    rfl

end Lane
end Watchpost
