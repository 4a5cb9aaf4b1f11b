import Watchpost.Proofs.Registry.Changes
import Watchpost.Replica.Basic

/-! What a replica makes of changes.

A replica that waits puts changes aside and one that has its rules puts them into force. Both
are said by `Phase.take`, and loading commutes with it (`phase_load`): it makes no difference
whether a change came before the rules were loaded or after. -/
namespace Watchpost

/-- What an answer tells of definitions; a failure tells of none. -/
def Definition.told : Except Error (List (String × Definition)) → List (String × Definition)
  | .ok definitions => definitions
  | .error _ => []

/-- The rules among definitions. -/
def Rule.ofDefinitions (definitions : List (String × Definition)) : List Rule :=
  definitions.filterMap fun e => (Rule.compile e.1 e.2).toOption

/-- The change that an outcome makes, if it is a rule. -/
def FetchOutcome.change? (o : FetchOutcome) : Option Change :=
  match o.answer with
  | .ok (some d) => (Rule.compile o.ruleId d).toOption.map (.upsert o.seq)
  | _ => none

namespace Rule

theorem ofDefinitions_of_ok {id : String} {d : Definition} {rule : Rule}
    (h : Rule.compile id d = .ok rule) (rest : List (String × Definition)) :
    ofDefinitions ((id, d) :: rest) = rule :: ofDefinitions rest := by
  unfold ofDefinitions
  rw [List.filterMap_cons, h]
  rfl

theorem ofDefinitions_of_error {id : String} {d : Definition} {e : Error}
    (h : Rule.compile id d = .error e) (rest : List (String × Definition)) :
    ofDefinitions ((id, d) :: rest) = ofDefinitions rest := by
  unfold ofDefinitions
  rw [List.filterMap_cons, h]
  rfl

/-- The rules under an id are those of the definitions under it. -/
theorem filter_ofDefinitions (definitions : List (String × Definition)) (id : String) :
    (ofDefinitions definitions).filter (·.id == id) =
      ofDefinitions (definitions.filter (·.1 == id)) := by
  induction definitions with
  | nil => rfl
  | cons e rest ih =>
    obtain ⟨name, d⟩ := e
    cases hc : Rule.compile name d with
    | error error =>
      rw [ofDefinitions_of_error hc, ih, List.filter_cons]
      split
      · rw [ofDefinitions_of_error hc]
      · rfl
    | ok rule =>
      have hname : rule.id = name := id_of_compile hc
      rw [ofDefinitions_of_ok hc, List.filter_cons, List.filter_cons, ih, hname]
      split
      · rw [ofDefinitions_of_ok hc]
      · rfl

/-- A rule is loaded if its definition compiles. -/
theorem mem_ofDefinitions {definitions : List (String × Definition)} {rule : Rule} :
    rule ∈ ofDefinitions definitions ↔
      ∃ id d, (id, d) ∈ definitions ∧ Rule.compile id d = .ok rule := by
  unfold ofDefinitions
  constructor
  · intro h
    obtain ⟨⟨id, d⟩, hmem, hrule⟩ := List.mem_filterMap.1 h
    refine ⟨id, d, hmem, ?_⟩
    dsimp only at hrule
    cases hc : Rule.compile id d with
    | error error =>
      rw [hc] at hrule
      cases hrule
    | ok compiled =>
      rw [hc] at hrule
      cases hrule
      rfl
  · rintro ⟨id, d, hmem, hc⟩
    refine List.mem_filterMap.2 ⟨(id, d), hmem, ?_⟩
    dsimp only
    rw [hc]
    rfl

end Rule

namespace Replica

/-! ### Phases -/

/-- Changes come, one after the other. -/
def Phase.take : Phase → List Change → Phase
  | .waiting pending, cs => .waiting (pending ++ cs)
  | .ready registry, cs => .ready (registry.applyAll cs)

@[simp] theorem Phase.take_nil (p : Phase) : p.take [] = p := by
  cases p with
  | waiting pending => rw [take, List.append_nil]
  | ready registry => rfl

theorem Phase.take_append (p : Phase) (cs ds : List Change) :
    p.take (cs ++ ds) = (p.take cs).take ds := by
  cases p with
  | waiting pending => rw [take, take, take, List.append_assoc]
  | ready registry => rw [take, take, take, Registry.applyAll_append]

theorem ready_iff {r : Replica} {registry : Registry} :
    r.registry? = some registry ↔ r.phase = .ready registry := by
  unfold registry?
  cases r.phase with
  | waiting pending => simp
  | ready other => simp

/-! ### What changes nothing -/

@[simp] theorem phase_count (r : Replica) (c : Counter) : (r.count c).phase = r.phase := rfl

@[simp] theorem lastIssued_count (r : Replica) (c : Counter) :
    (r.count c).lastIssued = r.lastIssued := rfl

theorem kept_offered (r : Replica) (taken : Bool) :
    (r.offered taken).phase = r.phase ∧ (r.offered taken).lastIssued = r.lastIssued := by
  unfold offered
  split <;> exact ⟨rfl, rfl⟩

theorem kept_sent (r : Replica) (a : Alert) (taken : Bool) :
    (r.sent a taken).phase = r.phase ∧ (r.sent a taken).lastIssued = r.lastIssued := by
  unfold sent
  split <;> exact ⟨rfl, rfl⟩

theorem kept_read (r : Replica) (n : Normalizer) (record : Record) :
    (r.read n record).1.phase = r.phase ∧ (r.read n record).1.lastIssued = r.lastIssued := by
  unfold read
  split <;> exact ⟨rfl, rfl⟩

theorem kept_evaluate (r : Replica) (now : Instant) (e : Event) :
    (r.evaluate now e).1.phase = r.phase ∧ (r.evaluate now e).1.lastIssued = r.lastIssued := by
  unfold evaluate
  split
  · exact ⟨rfl, rfl⟩
  · exact ⟨rfl, rfl⟩

/-! ### Changes -/

/-- A change is applied at once where there is a registry, and waits for one where there is none. -/
theorem phase_apply (r : Replica) (c : Change) : (r.apply c).phase = r.phase.take [c] := by
  unfold apply
  cases r.phase with
  | waiting pending => rfl
  | ready registry =>
    simp only [Phase.take, Registry.applyAll]
    rcases registry.apply c with ⟨new, verdict⟩
    cases verdict <;> rfl

theorem lastIssued_apply (r : Replica) (c : Change) : (r.apply c).lastIssued = r.lastIssued := by
  unfold apply
  cases r.phase with
  | waiting pending => rfl
  | ready registry =>
    dsimp only
    rcases registry.apply c with ⟨new, verdict⟩
    cases verdict <;> rfl

/-- An outcome is worth a change, or none if its definition was not found or does not compile. -/
theorem phase_takeOutcome (r : Replica) (o : FetchOutcome) :
    (r.takeOutcome o).phase = r.phase.take o.change?.toList := by
  obtain ⟨seq, id, answer⟩ := o
  cases answer with
  | error error => exact (Phase.take_nil r.phase).symm
  | ok definition =>
    cases definition with
    | none => exact (Phase.take_nil r.phase).symm
    | some d =>
      unfold takeOutcome FetchOutcome.change?
      dsimp only
      cases Rule.compile id d with
      | error error => exact (Phase.take_nil r.phase).symm
      | ok rule => exact phase_apply r (.upsert seq rule)

theorem lastIssued_takeOutcome (r : Replica) (o : FetchOutcome) :
    (r.takeOutcome o).lastIssued = r.lastIssued := by
  unfold takeOutcome
  split
  · split
    · exact lastIssued_apply ..
    · rfl
  · rfl
  · rfl

/-- An update has the next number. A deletion is a change at once. -/
theorem update_delete (r : Replica) (id : String) :
    (r.update ⟨id, .delete⟩).1.phase = r.phase.take [.delete (r.lastIssued + 1) id] ∧
      (r.update ⟨id, .delete⟩).2 = none :=
  ⟨phase_apply { r with lastIssued := r.lastIssued + 1 } (.delete (r.lastIssued + 1) id), rfl⟩

theorem lastIssued_update (r : Replica) (u : RuleUpdate) :
    (r.update u).1.lastIssued = r.lastIssued + 1 := by
  obtain ⟨id, action⟩ := u
  cases action with
  | upsert => rfl
  | delete => exact lastIssued_apply { r with lastIssued := r.lastIssued + 1 } _

/-! ### Loading -/

/-- What is loaded is what compiles. -/
theorem compileAll_rules (r : Replica) (definitions : List (String × Definition)) :
    (r.compileAll definitions).2 = Rule.ofDefinitions definitions ∧
      (r.compileAll definitions).1.lastIssued = r.lastIssued := by
  induction definitions generalizing r with
  | nil => exact ⟨rfl, rfl⟩
  | cons e rest ih =>
    obtain ⟨id, d⟩ := e
    unfold compileAll
    cases hc : Rule.compile id d with
    | error error =>
      rw [Rule.ofDefinitions_of_error hc]
      exact ih (r.count .compileFailures)
    | ok rule =>
      rw [Rule.ofDefinitions_of_ok hc]
      exact ⟨congrArg (rule :: ·) (ih r).1, (ih r).2⟩

/-- Changes that waited are applied in order. -/
theorem replay_eq (registry : Registry) (s : Stats) (cs : List Change) :
    (replay registry s cs).1 = registry.applyAll cs := by
  induction cs generalizing registry s with
  | nil => rfl
  | cons c rest ih => exact ih ..

/-- A registry that is there is not loaded again. -/
theorem load_of_ready {r : Replica} {registry : Registry} (h : r.phase = .ready registry)
    (answer : Except Error (List (String × Definition))) : r.load answer = r := by
  unfold load
  rw [h]

/-- The changes that came before loading come into force after it. -/
theorem phase_load {r : Replica} {pending : List Change} (h : r.phase = .waiting pending)
    (answer : Except Error (List (String × Definition))) :
    (r.load answer).phase =
      .ready ((Registry.ofRules (Rule.ofDefinitions (Definition.told answer))).applyAll pending) := by
  unfold load
  rw [h]
  cases answer with
  | error error => exact congrArg Phase.ready (replay_eq ..)
  | ok definitions =>
    have hrules := (r.compileAll_rules definitions).1
    dsimp only [Definition.told]
    rw [← hrules]
    exact congrArg Phase.ready (replay_eq ..)

theorem lastIssued_load (r : Replica) (answer : Except Error (List (String × Definition))) :
    (r.load answer).lastIssued = r.lastIssued := by
  unfold load
  split
  · rfl
  · cases answer with
    | error error => rfl
    | ok definitions => exact (r.compileAll_rules definitions).2

theorem number_compileAll (r : Replica) (definitions : List (String × Definition)) :
    (r.compileAll definitions).1.number = r.number := by
  induction definitions generalizing r with
  | nil => rfl
  | cons e rest ih =>
    obtain ⟨id, d⟩ := e
    unfold compileAll
    cases Rule.compile id d with
    | error error => exact ih (r.count .compileFailures)
    | ok rule => exact ih r

theorem number_load (r : Replica) (answer : Except Error (List (String × Definition))) :
    (r.load answer).number = r.number := by
  unfold load
  split
  · rfl
  · cases answer with
    | error error => rfl
    | ok definitions => exact r.number_compileAll definitions

/-! ### Alerts -/

/-- Every alert names a rule that made it. -/
theorem exists_rule_of_alertsOf {now : Instant} {e : Event} {factory : AlertFactory}
    {rules : List Rule} {a : Alert} (h : a ∈ (alertsOf now e factory rules).2) :
    ∃ rule ∈ rules, a.ruleId = rule.id := by
  induction rules generalizing factory with
  | nil => cases h
  | cons rule rest ih =>
    rcases List.mem_cons.1 h with rfl | h
    · exact ⟨rule, List.mem_cons_self .., rfl⟩
    · obtain ⟨other, hmem, hid⟩ := ih h
      exact ⟨other, List.mem_cons_of_mem rule hmem, hid⟩

/-- An alert is about a rule in force. -/
theorem exists_rule_of_evaluate {r : Replica} {now : Instant} {e : Event} {a : Alert}
    (h : a ∈ (r.evaluate now e).2) :
    ∃ registry id rule, r.phase = .ready registry ∧ registry.get? id = some rule ∧
      a.ruleId = rule.id := by
  unfold evaluate at h
  split at h
  · cases h
  · next registry hphase =>
    obtain ⟨rule, hmem, hid⟩ := exists_rule_of_alertsOf h
    obtain ⟨id, hget⟩ := Table.mem_values_iff.1 (List.mem_filter.1 hmem).1
    exact ⟨registry, id, rule, hphase, hget, hid⟩

end Replica
end Watchpost
