import Watchpost.Proofs.Lane.Agreement
import Watchpost.Proofs.Lane.Beginning
import Watchpost.Proofs.Lane.Ledger
import Watchpost.Proofs.Registry.Lossless
import Watchpost.Proofs.Registry.Order

/-! What holds of a replica at all times.

Its rules are what their own definitions compile to, and each has a number; no number is beyond the
last one that counts, and that one not beyond the number of the last update. What is put aside bears
numbers of its own, and the replica shows how many rules it has (`Standing`). None of this is ever
lost, and nothing goes back (`always_standing`). -/
namespace Watchpost

/-! ### Rules -/

/-- A rule that may stand under an id. -/
structure Rule.InOrder (id : String) (rule : Rule) : Prop where
  id_eq : rule.id = id
  valid : rule.definition.validate id = .ok ()
  named : Text.isBlankText rule.name = false
  condition : Condition.compile rule.sql = .ok rule.condition

theorem Definition.isBlank_of_validate {d : Definition} {id : String}
    (h : d.validate id = .ok ()) : Text.isBlankText id = false := by
  unfold validate validateId at h
  cases hid : Text.isBlankText id with
  | false => rfl
  | true =>
    rw [hid] at h
    cases h

theorem Rule.isBlank_nameFor {id : String} (h : Text.isBlankText id = false) (name : String) :
    Text.isBlankText (nameFor id name) = false := by
  unfold nameFor
  split
  · exact h
  · next hname => exact Bool.eq_false_iff.2 hname

/-- What its own definition compiles to may stand under its id. -/
theorem Rule.inOrder_of_compile {id : String} {rule : Rule}
    (h : Rule.compile id rule.definition = .ok rule) : rule.InOrder id := by
  have hid := Rule.id_of_compile h
  unfold Rule.compile at h
  cases hvalid : rule.definition.validate id with
  | error e =>
    rw [hvalid] at h
    cases h
  | ok =>
    rw [hvalid] at h
    dsimp only [bind, Except.bind] at h
    split at h
    · next condition hcondition =>
      have hrule := Except.ok.inj h
      have hname : Rule.nameFor id rule.name = rule.name := congrArg Rule.name hrule
      refine ⟨hid, hvalid, ?_, ?_⟩
      · rw [← hname]
        exact Rule.isBlank_nameFor (Definition.isBlank_of_validate hvalid) rule.name
      · rw [← congrArg Rule.condition hrule]
        exact hcondition
    · cases h

/-! ### Replicas -/

/-- A replica whose state is in order. -/
structure Replica.Standing (r : Replica) : Prop where
  rules : ∀ registry, r.registry? = some registry → ∀ id rule, registry.get? id = some rule →
    rule.InOrder id ∧ (registry.version? id).isSome
  versions : ∀ registry, r.registry? = some registry → ∀ id version,
    registry.version? id = some version → version ≤ registry.lastSeq
  lastSeq : ∀ registry, r.registry? = some registry → registry.lastSeq ≤ r.lastIssued
  distinct : (r.phase.pending.map Change.seq).Nodup
  pending : ∀ c ∈ r.phase.pending, c.seq ≤ r.lastIssued
  shown : ∀ registry, r.registry? = some registry →
    r.metrics.gauge? r.number = some registry.size

/-! ### Registries -/

namespace Registry

theorem Sound.applyAll {r : Registry} (h : r.Sound) {cs : List Change}
    (hcs : ∀ c ∈ cs, ∀ rule, c.rule? = some rule → Compiled rule) : (r.applyAll cs).Sound := by
  induction cs generalizing r with
  | nil => exact h
  | cons c rest ih =>
    exact ih (h.apply (hcs c (List.mem_cons_self ..))) fun d hd => hcs d (List.mem_cons_of_mem c hd)

theorem sound_ofDefinitions (definitions : List (String × Definition)) :
    (ofRules (Rule.ofDefinitions definitions)).Sound := by
  refine sound_ofRules fun rule hrule => ?_
  obtain ⟨id, d, -, hcompile⟩ := Rule.mem_ofDefinitions.1 hrule
  exact ⟨id, d, hcompile⟩

end Registry

/-! ### Phases -/

namespace Replica.Phase

/-- What is in force and what is put aside was compiled. -/
def Sound : Phase → Prop
  | .waiting pending => ∀ c ∈ pending, ∀ rule, c.rule? = some rule → Registry.Compiled rule
  | .ready registry => registry.Sound

theorem Sound.ground {p : Phase} (h : p.Sound)
    (loads : List (Except Error (List (String × Definition)))) : (p.ground loads).Sound := by
  cases loads with
  | nil => exact h
  | cons answer rest =>
    cases p with
    | waiting pending => exact (Registry.sound_ofDefinitions _).applyAll h
    | ready registry => exact h

theorem Sound.take {p : Phase} (h : p.Sound) {cs : List Change}
    (hcs : ∀ c ∈ cs, ∀ rule, c.rule? = some rule → Registry.Compiled rule) : (p.take cs).Sound := by
  cases p with
  | waiting pending =>
    intro c hc
    rcases List.mem_append.1 hc with hc | hc
    · exact h c hc
    · exact hcs c hc
  | ready registry => exact Registry.Sound.applyAll h hcs

end Replica.Phase

namespace Lane

/-! ### One move -/

theorem compiled_of_change {last : UInt64} {a : Act} {c : Change} (h : c ∈ a.changes last)
    {rule : Rule} (hrule : c.rule? = some rule) : Registry.Compiled rule := by
  cases a with
  | update u =>
    obtain ⟨id, action⟩ := u
    cases action with
    | upsert => cases h
    | delete =>
      rw [Act.changes, List.mem_singleton] at h
      subst h
      cases hrule
  | outcome o =>
    rw [Act.changes, Option.mem_toList] at h
    unfold FetchOutcome.change? at h
    split at h
    · next d hd =>
      obtain ⟨other, hother, rfl⟩ := Option.map_eq_some_iff.1 h
      cases hrule
      refine ⟨o.ruleId, d, ?_⟩
      cases hcompile : Rule.compile o.ruleId d with
      | ok rule =>
        rw [hcompile] at hother
        exact congrArg Except.ok (Option.some.inj hother)
      | error e =>
        rw [hcompile] at hother
        cases hother
    · cases h
  | load answer => cases h
  | other => cases h

section
variable {l l' : Lane} {a : Act}

theorem Acts.sound (h : Acts l a l') (hl : l.replica.phase.Sound) : l'.replica.phase.Sound := by
  rw [h.effect.phase]
  exact (hl.ground _).take fun c hc rule hrule => compiled_of_change hc hrule

theorem Acts.gauged (h : Acts l a l') (hfits : l.task.Fits l.replica.phase)
    (hl : l.replica.Gauged) : l'.replica.Gauged := by
  have hbecomes := h.becomes hfits
  generalize l'.replica = r' at hbecomes ⊢
  cases hbecomes with
  | update u =>
    have hupdate := hl.update u
    unfold takeUpdate
    split
    · next replica heq =>
      rw [heq] at hupdate
      exact hupdate
    · next replica request heq =>
      rw [heq] at hupdate
      split <;> exact hupdate
  | outcome o => exact hl.takeOutcome o
  | load hphase hsteady => exact hsteady.gauged (hl.load _)
  | other hsteady => exact hsteady.gauged hl

/-- Rules in force are only changed. -/
theorem Acts.grows (h : Acts l a l') {registry : Registry}
    (hready : l.replica.phase = .ready registry) :
    ∃ later, l'.replica.phase = .ready later ∧ registry.Grows later := by
  refine ⟨registry.applyAll (a.changes l.replica.lastIssued), ?_, registry.grows_applyAll _⟩
  have hground : (Replica.Phase.ready registry).ground a.load?.toList = .ready registry := by
    cases a.load?.toList <;> rfl
  rw [h.effect.phase, hready, hground]
  rfl

end

/-! ### Runs -/

section
variable {start mid l : Lane} {acts more : List Act}

theorem Run.sound (h : Run start acts l) (hstart : start.replica.phase.Sound) :
    l.replica.phase.Sound := by
  induction h with
  | nil => exact hstart
  | snoc hrun ha ih => exact ha.sound ih

theorem Run.gauged (h : Run start acts l) (hfresh : Fresh start.replica start)
    (hstart : start.replica.Gauged) : l.replica.Gauged := by
  induction h with
  | nil => exact hstart
  | snoc hrun ha ih => exact ha.gauged (hrun.traced hfresh).fits ih

theorem Run.issued (h : Run start acts l) :
    l.replica.lastIssued = Lane.issued start.replica.lastIssued acts := by
  induction h with
  | nil => rfl
  | snoc hrun ha ih => rw [ha.effect.issued, ih, issued_snoc]

theorem Run.grows (h : Run start acts l) {registry : Registry}
    (hready : start.replica.phase = .ready registry) :
    ∃ later, l.replica.phase = .ready later ∧ registry.Grows later := by
  induction h with
  | nil => exact ⟨registry, hready, .refl registry⟩
  | snoc hrun ha ih =>
    obtain ⟨later, hlater, hgrows⟩ := ih
    obtain ⟨last, hlast, hgrows'⟩ := ha.grows hlater
    exact ⟨last, hlast, hgrows.trans hgrows'⟩

end

/-! ### Beginnings -/

theorem Begins.sound {r : Replica} {n : Nat} (h : Begins r n) : r.phase.Sound := by
  cases h with
  | new number => exact fun c hc => by cases hc
  | restored => exact Registry.sound_restore _

theorem Begins.gauged {r : Replica} {n : Nat} (h : Begins r n) : r.Gauged := by
  cases h with
  | new number => exact Replica.gauged_of_waiting rfl
  | restored => exact Replica.gauged_setReady _ _

/-! ### What is put aside -/

section
variable {r : Replica} {n : Nat} {acts : List Act} {l : Lane}

/-- No two changes that are put aside have the same number. -/
theorem Traced.nodup_pending (h : Traced r acts l) (hr : Founded r n)
    (hlen : r.lastIssued.toNat + (updatesOf acts).length < 2 ^ 64) :
    (l.replica.phase.pending.map Change.seq).Nodup := by
  have hnothing : r.phase.pending = [] := by
    rcases hr.phase with hphase | ⟨base, hphase, -⟩ <;> rw [hphase] <;> rfl
  have hnumbers := nodup_seqAt hlen
  rw [List.nodup_iff_count_le_one] at hnumbers ⊢
  intro x
  -- Outcomes have no more numbers than wishes.
  obtain ⟨asked, hperm, hsublist⟩ := (List.sublist_append_left _ l.inFlight).subperm.trans h.asked
  have htaken := (hsublist.map FetchRequest.seq).count_le x
  rw [(hperm.map FetchRequest.seq).count_eq x, map_seq_request] at htaken
  have hplaces := (places_run false r.phase r.lastIssued acts).count_eq x
  have hnumber := hnumbers x
  rw [h.phase]
  simp only [phaseAfter, hnothing, Bool.false_eq_true, if_false, List.map_nil, List.count_append,
    List.count_nil] at hplaces
  omega

theorem Traced.pending_le (h : Traced r acts l) (hr : Founded r n)
    (hlen : r.lastIssued.toNat + (updatesOf acts).length < 2 ^ 64) {c : Change}
    (hc : c ∈ l.replica.phase.pending) : c.seq ≤ l.replica.lastIssued := by
  rw [h.issued]
  rw [h.phase] at hc
  refine h.seq_le hlen ?_
  rcases hr.phase with hphase | ⟨base, hphase, -⟩ <;> rw [hphase] at hc
  · cases hloads : loadsOf acts with
    | nil =>
      rw [hloads] at hc
      exact hc
    | cons answer rest =>
      rw [hloads] at hc
      cases hc
  · cases hloads : loadsOf acts <;> rw [hloads] at hc <;> cases hc

end

/-! ### All times -/

section
variable {r : Replica} {n : Nat} {start l : Lane} {acts : List Act}

theorem Run.standing (hbegins : Begins r n) (hfresh : Fresh r start) (hrun : Run start acts l)
    (hlen : n + (updatesOf acts).length < 2 ^ 64) : l.replica.Standing := by
  obtain rfl := hfresh.replica
  have hr := hbegins.founded (by omega)
  have hissued := hr.issued
  have hnumbers : start.replica.lastIssued.toNat + (updatesOf acts).length < 2 ^ 64 := by omega
  have htraced := hrun.traced hfresh
  have hsound := hrun.sound hbegins.sound
  refine ⟨fun registry h id rule hrule => ?_, fun registry h => ?_, fun registry h => ?_,
    htraced.nodup_pending hr hnumbers, fun c hc => htraced.pending_le hr hnumbers hc,
    fun registry h => ?_⟩
  · rw [Replica.ready_iff.1 h] at hsound
    obtain ⟨hcompile, hversion⟩ := hsound id rule hrule
    exact ⟨Rule.inOrder_of_compile hcompile, hversion⟩
  · exact (htraced.grounded hr hlen (Replica.ready_iff.1 h)).numbered
  · rw [htraced.issued]
    exact (htraced.grounded hr hlen (Replica.ready_iff.1 h)).le
  · exact hrun.gauged hfresh hbegins.gauged registry (Replica.ready_iff.1 h)

end

/-- **The state of a replica is in order at all times**, and goes only on: each update is given the
next number, and no version and no last number goes back. -/
theorem always_standing {r : Replica} {n : Nat} {start mid l : Lane} {acts more : List Act}
    (hbegins : Begins r n) (hfresh : Fresh r start) (hrun : Run start acts mid)
    (hmore : Run mid more l) (hlen : n + (updatesOf (acts ++ more)).length < 2 ^ 64) :
    l.replica.Standing ∧
    l.replica.lastIssued.toNat = mid.replica.lastIssued.toNat + (updatesOf more).length ∧
    ∀ registry, mid.replica.registry? = some registry →
      ∃ later, l.replica.registry? = some later ∧ registry.Grows later := by
  have hupdates : updatesOf (acts ++ more) = updatesOf acts ++ updatesOf more :=
    List.filterMap_append
  have hissued := (hbegins.founded (by omega)).issued
  have hlength := hlen
  rw [hupdates, List.length_append] at hlength
  refine ⟨(hrun.trans hmore).standing hbegins hfresh hlen, ?_, fun registry hready => ?_⟩
  · have hmid : mid.replica.lastIssued.toNat = r.lastIssued.toNat + (updatesOf acts).length := by
      rw [(hrun.traced hfresh).issued]
      exact toNat_issued (by omega)
    rw [hmore.issued]
    exact toNat_issued (by omega)
  · obtain ⟨later, hlater, hgrows⟩ := hmore.grows (Replica.ready_iff.1 hready)
    exact ⟨later, Replica.ready_iff.2 hlater, hgrows⟩

/-- A replica that has processed an event takes its rules from another one, which was told of a
deletion before it loaded them, and is told of two updates itself. -/
theorem always_standing_restored : ∃ (r : Replica) (start mid l : Lane) (registry later : Registry),
    Begins r 1 ∧ Fresh r start ∧ r.stats.events = 1 ∧
      Run start [.update ⟨"B", .delete⟩] mid ∧ Run mid [.update ⟨"B", .upsert⟩] l ∧
      mid.replica.registry? = some registry ∧ l.replica.Standing ∧
      l.replica.lastIssued.toNat = mid.replica.lastIssued.toNat + 1 ∧
      l.replica.registry? = some later ∧ registry.Grows later := by
  let world := World.prompt (Table.empty.insert "B" switchedOff)
  let deserted := World.prompt .empty
  let event : Event := { msgId := "m", timestamp := ⟨0, 0⟩ }
  have hdue : 0 ≤ world.now := Nat.zero_le _
  -- One replica is told of a deletion and loads its rules.
  have told := Run.nil.happens world (.update (l := .ofReplica { number := 0 } 1) ⟨"A", .delete⟩ rfl)
  have loading := told.happens world (.event event rfl)
  have loaded := loading.happens world (.load (p := .answered (.ok _)) rfl hdue rfl)
  have hload : Act.load (.ok world.store.all) ∈
      [.update ⟨"A", .delete⟩, .other, .load (.ok world.store.all)] := by simp
  obtain ⟨registry, hregistry⟩ := (loaded.traced (fresh_ofReplica ..)).ready_of_load hload
  -- The other one finds no rules when it processes the event, and is given those.
  have seen := Run.nil.happens deserted (.event (l := .ofReplica { number := 1 } 1) event rfl)
  have bare := seen.happens deserted (.load (p := .answered (.ok [])) rfl hdue rfl)
  obtain ⟨early, records, hearly, hnone, hidle, hevents⟩ : ∃ (early : Lane) (records : List Act),
      Run (.ofReplica { number := 1 } 1) records early ∧ updatesOf records = [] ∧
        early.isIdle = true ∧ early.replica.stats.events = 1 :=
    ⟨_, _, bare.happens deserted (.send rfl rfl), rfl, rfl, rfl⟩
  have hbegins : Begins (early.replica.restore registry.snapshot).1 1 :=
    .restored (.new 1) (fresh_ofReplica ..) hearly hnone (.new 0) (fresh_ofReplica ..) loaded
      (congrArg (Option.map Registry.snapshot) hregistry)
  have hfresh := fresh_restore (fresh_ofReplica ..) hearly hnone hidle registry.snapshot
  have deleted := Run.nil.happens world (.update ⟨"B", .delete⟩ (isIdle_of_task hfresh.idle))
  have hidle' := isIdle_of_task ((task_takeUpdate _ ⟨"B", .delete⟩).trans hfresh.idle)
  have again := Run.nil.happens world (.update ⟨"B", .upsert⟩ hidle')
  obtain ⟨between, hbetween, -⟩ := deleted.grows rfl
  have hready := Replica.ready_iff.2 hbetween
  obtain ⟨hstanding, hissued, hgrows⟩ :=
    always_standing hbegins hfresh deleted again (by decide)
  obtain ⟨later, hlater, hgrows⟩ := hgrows _ hready
  exact ⟨_, _, _, _, between, later, hbegins, hfresh, hevents, deleted, again, hready, hstanding,
    hissued, hlater, hgrows⟩

end Lane
end Watchpost
