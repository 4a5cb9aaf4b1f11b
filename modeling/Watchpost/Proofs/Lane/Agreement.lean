import Watchpost.Proofs.Lane.Number

/-! Replicas that are told the same come to the same.

Each replica goes its own way: it loads when its first event comes, and its outcomes come when
they come. Still, when nothing is left to do, all registries are equal (`agreement`): what the
last update of an id made of it is known from the updates alone, and an id that no update names
is as it was loaded. -/
namespace Watchpost

namespace Lane

/-- The rule that an update leaves, if each wish for a definition is granted. -/
def ruleLeft (granted : String → Definition) (u : RuleUpdate) : Option Rule :=
  match u.action with
  | .delete => none
  | .upsert => (Rule.compile u.ruleId (granted u.ruleId)).toOption

/-- The last update of every id had its effect: if it was an upsert, a definition came that is a
rule. Earlier wishes may have failed. -/
def Settled (granted : String → Definition) (us : List RuleUpdate) (acts : List Act) : Prop :=
  ∀ k id, LastFor us k ⟨id, .upsert⟩ →
    (∃ rule, Rule.compile id (granted id) = .ok rule) ∧
      .outcome ⟨seqAt 0 k, id, .ok (some (granted id))⟩ ∈ acts

/-- No update names the id. -/
def Unnamed (us : List RuleUpdate) (id : String) : Prop := ∀ u ∈ us, u.ruleId ≠ id

/-- The definitions of an id that an answer tells. -/
def toldOf (id : String) (answer : Except Error (List (String × Definition))) :
    List (String × Definition) :=
  (Definition.told answer).filter (·.1 == id)

/-- A new replica counts from zero. -/
theorem numbers_of_new {us : List RuleUpdate} (h : us.length < 2 ^ 64) :
    (0 : UInt64).toNat + us.length < 2 ^ 64 := by
  rw [UInt64.toNat_zero, Nat.zero_add]
  exact h

theorem mem_outcomesOf {acts : List Act} {o : FetchOutcome} :
    o ∈ outcomesOf acts ↔ .outcome o ∈ acts := by
  unfold outcomesOf
  rw [List.mem_filterMap]
  constructor
  · rintro ⟨a, ha, ho⟩
    cases a with
    | outcome p =>
      cases ho
      exact ha
    | update _ | load _ | other => cases ho
  · exact fun h => ⟨.outcome o, h, rfl⟩

theorem mem_loadsOf {acts : List Act} {answer : Except Error (List (String × Definition))} :
    answer ∈ loadsOf acts ↔ .load answer ∈ acts := by
  unfold loadsOf
  rw [List.mem_filterMap]
  constructor
  · rintro ⟨a, ha, hanswer⟩
    cases a with
    | load other =>
      cases hanswer
      exact ha
    | update _ | outcome _ | other => cases hanswer
  · exact fun h => ⟨.load answer, h, rfl⟩

theorem exists_change_of_settled {granted : String → Definition} {acts : List Act}
    (h : Settled granted (updatesOf acts) acts) {k : Nat} {u : RuleUpdate}
    (hlast : LastFor (updatesOf acts) k u) :
    ∃ c ∈ changes 0 acts, c.id = u.ruleId ∧ c.seq = seqAt 0 k ∧ c.rule? = ruleLeft granted u := by
  obtain ⟨id, action⟩ := u
  cases action with
  | delete => exact ⟨.delete (seqAt 0 k) id, mem_changes.2 (.inl ⟨k, id, hlast.here, rfl⟩), rfl, rfl, rfl⟩
  | upsert =>
    obtain ⟨⟨rule, hrule⟩, hmem⟩ := h k id hlast
    refine ⟨.upsert (seqAt 0 k) rule, mem_changes.2 (.inr ⟨_, mem_outcomesOf.2 hmem, ?_⟩), ?_, rfl, ?_⟩
    · unfold FetchOutcome.change?
      dsimp only
      rw [hrule]
      rfl
    · exact Rule.id_of_compile hrule
    · unfold ruleLeft
      dsimp only
      rw [hrule]
      rfl

section
variable {n : Nat} {acts : List Act} {l : Lane} {granted : String → Definition}

/-- A new replica that has its rules loaded them once. -/
theorem Traced.exists_load (h : Traced { number := n } acts l) {registry : Registry}
    (hready : l.replica.registry? = some registry) :
    ∃ answer, .load answer ∈ acts ∧ (∀ other, .load other ∈ acts → other = answer) ∧ registry =
      (Registry.ofRules (Rule.ofDefinitions (Definition.told answer))).applyAll (changes 0 acts) := by
  have hphase := h.phase
  have honce := h.once
  cases hloads : loadsOf acts with
  | nil =>
    rw [hloads] at hphase
    rw [Replica.ready_iff, hphase] at hready
    cases hready
  | cons answer rest =>
    rw [hloads] at hphase honce
    have hrest : rest = [] := List.length_eq_zero_iff.1 (Nat.le_zero.1 (Nat.le_of_succ_le_succ honce))
    refine ⟨answer, mem_loadsOf.1 (by rw [hloads]; exact List.mem_cons_self ..), ?_, ?_⟩
    · intro other hother
      rw [← mem_loadsOf, hloads, hrest] at hother
      exact List.mem_singleton.1 hother
    · rw [Replica.ready_iff, hphase] at hready
      exact (Replica.Phase.ready.inj hready).symm

theorem Traced.ready_of_load (h : Traced { number := n } acts l)
    {answer : Except Error (List (String × Definition))} (hload : .load answer ∈ acts) :
    ∃ registry, l.replica.registry? = some registry := by
  have hphase := h.phase
  have hmem := mem_loadsOf.2 hload
  cases hloads : loadsOf acts with
  | nil =>
    rw [hloads] at hmem
    cases hmem
  | cons first rest =>
    rw [hloads] at hphase
    exact ⟨_, Replica.ready_iff.2 hphase⟩

/-- What the last update of an id left does not depend on the way that was gone. -/
theorem Traced.named (h : Traced { number := n } acts l) (hlen : (updatesOf acts).length < 2 ^ 64)
    (hsettled : Settled granted (updatesOf acts) acts) {registry : Registry}
    (hready : l.replica.registry? = some registry) {k : Nat} {u : RuleUpdate}
    (hlast : LastFor (updatesOf acts) k u) :
    registry.version? u.ruleId = some (seqAt 0 k) ∧
      registry.get? u.ruleId = ruleLeft granted u := by
  obtain ⟨answer, -, -, rfl⟩ := h.exists_load hready
  obtain ⟨c, hc, hid, hseq, hrule⟩ := exists_change_of_settled hsettled hlast
  have hnumbers := numbers_of_new hlen
  have hplace : LastFor (updatesOf acts) k ⟨c.id, u.action⟩ := by
    rw [hid]
    exact hlast
  have hbase := grounded_ofRules 0 (Rule.ofDefinitions (Definition.told answer))
  have hshows := h.shows hnumbers hbase hc hplace hseq
  rw [← hid, ← hseq, ← hrule]
  exact ⟨hshows.version, hshows.rule⟩

/-- What no update names is as it was loaded. -/
theorem Traced.unnamed (h : Traced { number := n } acts l) {registry : Registry}
    (hready : l.replica.registry? = some registry)
    {answer : Except Error (List (String × Definition))} (hload : .load answer ∈ acts)
    {id : String} (hid : Unnamed (updatesOf acts) id) :
    registry.version? id = (if Rule.ofDefinitions (toldOf id answer) = [] then none else some 0) ∧
      registry.get? id = (Rule.ofDefinitions (toldOf id answer)).getLast? := by
  obtain ⟨first, -, honly, rfl⟩ := h.exists_load hready
  rw [honly answer hload]
  have hnone : ∀ c ∈ changes 0 acts, c.id ≠ id := by
    intro c hc
    obtain ⟨k, action, hk, -⟩ := h.exists_update_of_change hc
    exact hid _ (List.mem_of_getElem? hk)
  obtain ⟨hversion, hrule⟩ := Registry.applyAll_untouched (r := Registry.ofRules
    (Rule.ofDefinitions (Definition.told first))) hnone
  rw [hversion, hrule, Registry.version?_ofRules, Registry.get?_ofRules, Rule.filter_ofDefinitions]
  exact ⟨rfl, rfl⟩

theorem Traced.lastSeq_eq (h : Traced { number := n } acts l)
    (hlen : (updatesOf acts).length < 2 ^ 64) (hsettled : Settled granted (updatesOf acts) acts)
    {registry : Registry} (hready : l.replica.registry? = some registry) :
    registry.lastSeq = UInt64.ofNat (updatesOf acts).length := by
  obtain ⟨answer, -, -, heq⟩ := h.exists_load hready
  have hnumbers := numbers_of_new hlen
  have hissued : Lane.issued 0 acts = UInt64.ofNat (updatesOf acts).length := by
    rw [issued_eq, UInt64.zero_add]
  apply UInt64.le_antisymm
  · rw [heq, ← hissued]
    refine Registry.lastSeq_applyAll_le ?_ fun c hc => h.seq_le hnumbers hc
    rw [Registry.lastSeq_ofRules]
    exact UInt64.zero_le
  · -- The very last update is the last one of its id.
    rcases List.eq_nil_or_concat' (updatesOf acts) with hnil | ⟨us, u, hus⟩
    · rw [hnil]
      exact UInt64.zero_le
    · have hlength : (updatesOf acts).length = us.length + 1 := by
        rw [hus, List.length_append, List.length_singleton]
      have hlast : LastFor (updatesOf acts) us.length u := by
        refine ⟨by rw [hus, List.getElem?_concat_length], fun j v hj _ => ?_⟩
        have hlt := (List.getElem?_eq_some_iff.1 hj).1
        omega
      have hversion := (h.named hlen hsettled hready hlast).1
      have hle : registry.Numbered := by
        rw [heq]
        exact (Registry.numbered_ofRules _).applyAll _
      have hseq : seqAt 0 us.length = UInt64.ofNat (updatesOf acts).length := by
        rw [hlength]
        exact UInt64.zero_add _
      rw [← hseq]
      exact hle u.ruleId _ hversion

end

theorem named_or_unnamed (us : List RuleUpdate) (id : String) :
    (∃ k u, LastFor us k u ∧ u.ruleId = id) ∨ Unnamed us id := by
  by_cases h : ∃ u ∈ us, u.ruleId = id
  · obtain ⟨u, hu, rfl⟩ := h
    obtain ⟨k, v, hlast, hv⟩ := exists_lastFor hu
    exact .inl ⟨k, v, hlast, hv⟩
  · exact .inr fun u hu hid => h ⟨u, hu, hid⟩

/-- The ids that a settled registry has a number for. -/
theorem Traced.known {n : Nat} {acts : List Act} {l : Lane} {granted : String → Definition}
    (h : Traced { number := n } acts l) (hlen : (updatesOf acts).length < 2 ^ 64)
    (hsettled : Settled granted (updatesOf acts) acts) {registry : Registry}
    (hready : l.replica.registry? = some registry) (id : String) :
    (∃ version, registry.version? id = some version) ↔
      (∃ u ∈ updatesOf acts, u.ruleId = id) ∨
        ∃ answer d rule, .load answer ∈ acts ∧ (id, d) ∈ Definition.told answer ∧
          Rule.compile id d = .ok rule := by
  rcases named_or_unnamed (updatesOf acts) id with ⟨k, u, hlast, rfl⟩ | hid
  · have hmem : u ∈ updatesOf acts := List.mem_of_getElem? hlast.here
    exact ⟨fun _ => .inl ⟨u, hmem, rfl⟩,
      fun _ => ⟨_, (h.named hlen hsettled hready hlast).1⟩⟩
  · obtain ⟨answer, hload, honly, -⟩ := h.exists_load hready
    rw [(h.unnamed hready hload hid).1]
    constructor
    · rintro ⟨version, hversion⟩
      by_cases hnil : Rule.ofDefinitions (toldOf id answer) = []
      · rw [if_pos hnil] at hversion
        cases hversion
      · obtain ⟨rule, hrule⟩ := List.exists_mem_of_ne_nil _ hnil
        obtain ⟨name, d, hmem, hcompile⟩ := Rule.mem_ofDefinitions.1 hrule
        obtain ⟨htold, hname⟩ := List.mem_filter.1 hmem
        cases eq_of_beq hname
        exact .inr ⟨answer, d, rule, hload, htold, hcompile⟩
    · rintro (⟨u, hu, rfl⟩ | ⟨other, d, rule, hother, htold, hcompile⟩)
      · exact absurd rfl (hid u hu)
      · rw [honly other hother] at htold
        have hmem : rule ∈ Rule.ofDefinitions (toldOf id answer) :=
          Rule.mem_ofDefinitions.2 ⟨id, d, List.mem_filter.2 ⟨htold, beq_self_eq_true id⟩, hcompile⟩
        exact ⟨0, if_neg (List.ne_nil_of_mem hmem)⟩

/-- Two replicas that were told the same updates agree. -/
theorem Traced.agree {m n : Nat} {as bs : List Act} {l l' : Lane} {granted : String → Definition}
    (ha : Traced { number := m } as l) (hb : Traced { number := n } bs l')
    (hupdates : updatesOf as = updatesOf bs) (hlen : (updatesOf as).length < 2 ^ 64)
    (hsa : Settled granted (updatesOf as) as) (hsb : Settled granted (updatesOf bs) bs)
    (hbulk : ∀ a b, .load a ∈ as → .load b ∈ bs → ∀ id, Unnamed (updatesOf as) id →
      toldOf id a = toldOf id b) {r s : Registry} (hr : l.replica.registry? = some r)
    (hs : l'.replica.registry? = some s) : r = s := by
  have hlen' : (updatesOf bs).length < 2 ^ 64 := hupdates ▸ hlen
  obtain ⟨a, hloada, -, -⟩ := ha.exists_load hr
  obtain ⟨b, hloadb, -, -⟩ := hb.exists_load hs
  have hviews : ∀ id, r.version? id = s.version? id ∧ r.get? id = s.get? id := by
    intro id
    rcases named_or_unnamed (updatesOf as) id with ⟨k, u, hlast, rfl⟩ | hid
    · obtain ⟨hrv, hrr⟩ := ha.named hlen hsa hr hlast
      obtain ⟨hsv, hsr⟩ := hb.named hlen' hsb hs (hupdates ▸ hlast)
      exact ⟨hrv.trans hsv.symm, hrr.trans hsr.symm⟩
    · obtain ⟨hrv, hrr⟩ := ha.unnamed hr hloada hid
      obtain ⟨hsv, hsr⟩ := hb.unnamed hs hloadb (hupdates ▸ hid)
      rw [hrv, hrr, hsv, hsr, hbulk a b hloada hloadb id hid]
      exact ⟨rfl, rfl⟩
  refine Registry.ext_of_views (fun id => (hviews id).2) (fun id => (hviews id).1) ?_
  rw [ha.lastSeq_eq hlen hsa hr, hb.lastSeq_eq hlen' hsb hs, hupdates]

/-- **New replicas that were handed the same updates end with equal registries**, whatever each
of them did in between. -/
theorem agreement {ι : Type} {number : ι → Nat} {start final : ι → Lane} {trace : ι → List Act}
    {us : List RuleUpdate} {granted : String → Definition}
    (hfresh : ∀ i, Fresh { number := number i } (start i))
    (hrun : ∀ i, Run (start i) (trace i) (final i))
    (hupdates : ∀ i, updatesOf (trace i) = us) (hlen : us.length < 2 ^ 64)
    (hsettled : ∀ i, Settled granted us (trace i))
    (hbulk : ∀ i j a b, .load a ∈ trace i → .load b ∈ trace j → ∀ id, Unnamed us id →
      toldOf id a = toldOf id b)
    (hready : ∀ i, ∃ registry, (final i).replica.registry? = some registry) :
    ∃ registry, ∀ i, (final i).replica.registry? = some registry ∧
      registry.lastSeq = UInt64.ofNat us.length ∧
      ∀ id, (∃ version, registry.version? id = some version) ↔
        (∃ u ∈ us, u.ruleId = id) ∨
          ∃ answer d rule, .load answer ∈ trace i ∧ (id, d) ∈ Definition.told answer ∧
            Rule.compile id d = .ok rule := by
  have htraced (i : ι) : Traced { number := number i } (trace i) (final i) :=
    (hrun i).traced (hfresh i)
  have hsettled' (i : ι) : Settled granted (updatesOf (trace i)) (trace i) := by
    rw [hupdates i]
    exact hsettled i
  have hlen' (i : ι) : (updatesOf (trace i)).length < 2 ^ 64 := by
    rw [hupdates i]
    exact hlen
  by_cases hnone : Nonempty ι
  · obtain ⟨i₀⟩ := hnone
    obtain ⟨registry, hregistry⟩ := hready i₀
    refine ⟨registry, fun i => ?_⟩
    obtain ⟨other, hother⟩ := hready i
    have heq : other = registry := by
      refine (htraced i).agree (htraced i₀) ((hupdates i).trans (hupdates i₀).symm) (hlen' i)
        (hsettled' i) (hsettled' i₀) (fun a b hload hload' id hid => ?_) hother hregistry
      exact hbulk i i₀ a b hload hload' id (hupdates i ▸ hid)
    subst heq
    refine ⟨hother, ?_, fun id => ?_⟩
    · rw [(htraced i).lastSeq_eq (hlen' i) (hsettled' i) hother, hupdates i]
    · rw [(htraced i).known (hlen' i) (hsettled' i) hother id, hupdates i]
  · exact ⟨{}, fun i => absurd ⟨i⟩ hnone⟩

/-! ### Two ways -/

/-- A rule that is switched off. -/
def switchedOff : Definition := { sql := "x = 'y'", enabled := false }

/-- One replica loads before it is told of updates, when the store is still empty, and another
one after its last outcome. -/
def twoWays : Bool → List Act
  | false => [.other, .load (.ok []), .other, .update ⟨"A", .delete⟩, .update ⟨"B", .upsert⟩,
      .other, .other, .other, .outcome ⟨2, "B", .ok (some switchedOff)⟩]
  | true => [.update ⟨"A", .delete⟩, .update ⟨"B", .upsert⟩, .other, .other, .other,
      .outcome ⟨2, "B", .ok (some switchedOff)⟩, .other, .load (.ok [("B", switchedOff)])]

theorem exists_run_twoWays (late : Bool) :
    ∃ l, Run (.ofReplica { number := late.toNat } 1) (twoWays late) l := by
  let before := World.prompt .empty
  let after := World.prompt (Table.empty.insert "B" switchedOff)
  let event : Event := { msgId := "m", timestamp := ⟨0, 0⟩ }
  have hdue : 0 ≤ before.now := Nat.zero_le _
  cases late with
  | false =>
    have loading :=
      Run.nil.happens before (.event (l := .ofReplica { number := 0 } 1) event rfl)
    have loaded := loading.happens before (.load (p := .answered (.ok [])) rfl hdue rfl)
    have idle := loaded.happens before (.send rfl rfl)
    have deleted := idle.happens before (.update ⟨"A", .delete⟩ rfl)
    have told := deleted.happens before (.update ⟨"B", .upsert⟩ rfl)
    have fetched := (told.happens before (.worker rfl)).happens after (.worker rfl)
    exact ⟨_, (fetched.happens after (.worker rfl)).happens after (.outcome rfl rfl)⟩
  | true =>
    have deleted :=
      Run.nil.happens before (.update (l := .ofReplica { number := 1 } 1) ⟨"A", .delete⟩ rfl)
    have told := deleted.happens before (.update ⟨"B", .upsert⟩ rfl)
    have fetched := (told.happens before (.worker rfl)).happens after (.worker rfl)
    have taken := (fetched.happens after (.worker rfl)).happens after (.outcome rfl rfl)
    have loading := taken.happens after (.event event rfl)
    have htask := task_takeEvent (w := after) (taken.traced (fresh_ofReplica ..)).phase event rfl
    exact ⟨_, loading.happens after (.load (w := after) (p := .answered (.ok _)) htask hdue rfl)⟩

theorem settled_twoWays (late : Bool) : Settled (fun _ => switchedOff)
    [⟨"A", .delete⟩, ⟨"B", .upsert⟩] (twoWays late) := by
  intro k id hlast
  have hplace : k = 1 ∧ id = "B" := by
    have hhere := hlast.here
    cases k with
    | zero => cases hhere
    | succ k =>
      cases k with
      | zero =>
        cases hhere
        exact ⟨rfl, rfl⟩
      | succ k => cases hhere
  obtain ⟨rfl, rfl⟩ := hplace
  have hrule : (Rule.compile "B" switchedOff).toOption.isSome = true := by decide +kernel
  constructor
  · cases hcompile : Rule.compile "B" switchedOff with
    | ok rule => exact ⟨rule, rfl⟩
    | error error =>
      rw [hcompile] at hrule
      cases hrule
  · have hseq : seqAt 0 1 = 2 := rfl
    rw [hseq]
    cases late <;> simp [twoWays]

theorem agreement_twoWays : ∃ (final : Bool → Lane) (registry : Registry),
    (∀ late, Run (.ofReplica { number := late.toNat } 1) (twoWays late) (final late)) ∧
      ∀ late, (final late).replica.registry? = some registry ∧ registry.lastSeq = 2 ∧
        ∃ version, registry.version? "A" = some version := by
  choose final hrun using exists_run_twoWays
  have hfresh (late : Bool) := fresh_ofReplica { number := late.toNat } 1
  have hload (late : Bool) : ∃ answer, .load answer ∈ twoWays late ∧
      ∀ other, .load other ∈ twoWays late → ∀ id, id ≠ "B" → toldOf id other = [] := by
    cases late with
    | false => exact ⟨.ok [], by simp [twoWays], by simp [twoWays, toldOf, Definition.told]⟩
    | true =>
      refine ⟨.ok [("B", switchedOff)], by simp [twoWays], fun other hother id hid => ?_⟩
      have hother : other = .ok [("B", switchedOff)] := by simpa [twoWays] using hother
      subst hother
      simp [toldOf, Definition.told, Ne.symm hid]
  have hupdates (late : Bool) : updatesOf (twoWays late) = [⟨"A", .delete⟩, ⟨"B", .upsert⟩] := by
    cases late <;> rfl
  obtain ⟨registry, hall⟩ := agreement hfresh hrun hupdates (by decide) settled_twoWays
    (fun i j a b ha hb id hid => by
      have hB : id ≠ "B" := fun h => hid ⟨"B", .upsert⟩ (by simp) h.symm
      obtain ⟨-, -, hi⟩ := hload i
      obtain ⟨-, -, hj⟩ := hload j
      rw [hi a ha id hB, hj b hb id hB])
    (fun late => by
      obtain ⟨answer, hmem, -⟩ := hload late
      exact ((hrun late).traced (hfresh late)).ready_of_load hmem)
  refine ⟨final, registry, hrun, fun late => ?_⟩
  obtain ⟨hregistry, hlast, hknown⟩ := hall late
  exact ⟨hregistry, hlast, (hknown "A").2 (.inl ⟨⟨"A", .delete⟩, by simp, rfl⟩)⟩

end Lane
end Watchpost
