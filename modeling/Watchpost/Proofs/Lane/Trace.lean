import Mathlib.Data.List.Nodup
import Watchpost.Proofs.Lane.Run

/-! What is known of a lane after a run.

The replica is as if it had been loaded first and had taken the run's changes then
(`Traced.phase`), whenever it was loaded. Each change is the work of one update and bears its
number (`exists_update_of_change`), and no two changes bear the same (`change_unique`): an
outcome answers one wish, and a wish is answered once. -/
namespace Watchpost

/-- Loading, if it came to that. Changes that wait come into force. -/
def Replica.Phase.ground (p : Phase) :
    List (Except Error (List (String × Definition))) → Phase
  | [] => p
  | answer :: _ =>
    match p with
    | .waiting pending =>
      .ready ((Registry.ofRules (Rule.ofDefinitions (Definition.told answer))).applyAll pending)
    | .ready registry => .ready registry

/-- It makes no difference whether changes are taken before a load or behind it. -/
theorem Replica.Phase.ground_take (p : Phase)
    (loads new : List (Except Error (List (String × Definition)))) (cs : List Change) :
    ((p.ground loads).take cs).ground new = (p.ground (loads ++ new)).take cs := by
  cases new with
  | nil => rw [List.append_nil]; rfl
  | cons answer rest =>
    cases loads with
    | nil =>
      cases p with
      | waiting pending => exact congrArg Phase.ready (Registry.applyAll_append ..)
      | ready registry => rfl
    | cons first more => cases p <;> rfl

namespace Lane

/-! ### One move -/

/-- What a move makes of the replica and of the wishes under way. -/
structure Effect (l : Lane) (a : Act) (l' : Lane) : Prop where
  phase : l'.replica.phase =
    (l.replica.phase.ground a.load?.toList).take (a.changes l.replica.lastIssued)
  issued : l'.replica.lastIssued = a.next l.replica.lastIssued
  flight : (a.outcome?.toList.map request ++ l'.inFlight).Subperm
    (l.inFlight ++ a.wishes l.replica.lastIssued)

theorem Kept.effect {l l' : Lane} (h : l.Kept l') : l.Effect .other l' where
  phase := h.phase.trans (Replica.Phase.take_nil _).symm
  issued := h.issued
  flight := by
    simp only [Act.outcome?, Act.wishes, Option.toList_none, List.map_nil, List.nil_append,
      List.append_nil]
    exact h.flight

theorem effect_update (l : Lane) (u : RuleUpdate) : l.Effect (.update u) (l.takeUpdate u) := by
  obtain ⟨id, action⟩ := u
  have hissued := l.replica.lastIssued_update ⟨id, action⟩
  cases action with
  | delete =>
    obtain ⟨hphase, hnone⟩ := l.replica.update_delete id
    have htake : l.takeUpdate ⟨id, .delete⟩ =
        { l with replica := (l.replica.update ⟨id, .delete⟩).1 } := rfl
    rw [htake]
    refine ⟨hphase, hissued, ?_⟩
    simp only [Act.outcome?, Act.wishes, Option.toList_none, List.map_nil, List.nil_append,
      List.append_nil]
    exact .refl _
  | upsert =>
    have hwishes : l.inFlight ++ Act.wishes l.replica.lastIssued (.update ⟨id, .upsert⟩) =
        l.outcomes.pending.map request ++ l.worker.wishes ++
          (l.requests ++ [⟨l.replica.lastIssued + 1, id⟩]) := List.append_assoc ..
    unfold takeUpdate
    simp only [Replica.update]
    split
    · refine ⟨(Replica.Phase.take_nil _).symm, rfl, ?_⟩
      exact (List.sublist_append_left l.inFlight _).subperm
    · refine ⟨(Replica.Phase.take_nil _).symm, rfl, ?_⟩
      rw [hwishes]
      exact .refl _

theorem effect_outcome {l : Lane} {o : FetchOutcome} {outcomes : Channel FetchOutcome}
    (h : l.outcomes.next? = some (some o, outcomes)) :
    l.Effect (.outcome o) { l with outcomes, replica := l.replica.takeOutcome o } where
  phase := l.replica.phase_takeOutcome o
  issued := l.replica.lastIssued_takeOutcome o
  flight := by
    have hpending := Channel.pending_of_next? h
    simp only [Act.outcome?, Act.wishes, inFlight, hpending, Option.toList_some, List.map_cons,
      List.map_nil, List.append_nil]
    exact .refl _

/-- A load that comes back gives a registry to a replica that waits for one. -/
theorem effect_load (l : Lane) (w : World) (e : Event)
    (p : Progress (List (String × Definition))) :
    l.Effect (.ofProgress p) (l.loaded w e p) := by
  cases p with
  | waiting fetch =>
    have h : l.Kept { l with task := .loading e fetch } := ⟨rfl, rfl, .refl _⟩
    exact h.effect
  | broken => exact (kept_finish l .broken).effect
  | answered answer =>
    have h := kept_evaluate { l with replica := l.replica.load answer } w e
    refine ⟨?_, h.issued.trans (l.replica.lastIssued_load answer), ?_⟩
    · rw [loaded, h.phase]
      cases hphase : l.replica.phase with
      | waiting pending =>
        exact (l.replica.phase_load hphase answer).trans (Replica.Phase.take_nil _).symm
      | ready registry =>
        dsimp only
        rw [Replica.load_of_ready hphase, hphase]
        rfl
    · simp only [Act.ofProgress, Act.outcome?, Act.wishes, Option.toList_none, List.map_nil,
        List.nil_append, List.append_nil]
      exact h.flight

theorem Happens.effect {l l' : Lane} {w w' : World} {a : Act} (h : Happens w l a w' l') :
    l.Effect a l' := by
  cases h with
  | update u hidle => exact effect_update l u
  | outcome hidle hnext => exact effect_outcome hnext
  | @ended _ outcomes hidle hnext =>
    have hkept : l.Kept { l with outcomes } := by
      refine ⟨rfl, rfl, ?_⟩
      simp only [inFlight, Channel.pending_of_ended hnext]
      exact .refl _
    exact hkept.effect
  | record r hidle => exact (kept_takeRecord l w r).effect
  | event e hidle => exact (kept_takeEvent l w e).effect
  | load htask hdue hp => exact effect_load l w _ _
  | send htask hsend => exact (kept_sendStep hsend).effect
  | collect hcollect =>
    obtain ⟨-, rfl⟩ := collect?_eq_some hcollect
    have hkept : l.Kept { l with task := .idle } := ⟨rfl, rfl, .refl _⟩
    exact hkept.effect
  | worker hstep => exact ((ofWorker_workerStep hstep).kept (inFlight_workerStep hstep)).effect
  | aside records updates loops looking =>
    have hkept : l.Kept { l with records, updates, loops, looking } := ⟨rfl, rfl, .refl _⟩
    exact hkept.effect
  | world w' =>
    have hkept : l.Kept l := ⟨rfl, rfl, .refl _⟩
    exact hkept.effect

/-- The same of an act, in whatever world it happens. -/
theorem Acts.effect {l l' : Lane} {a : Act} (h : Acts l a l') : l.Effect a l' := by
  cases h with
  | happens h => exact h.effect
  | finish hidle => exact (kept_finish l .done).effect
  | dismiss => exact ((ofWorker_dismiss l).kept (inFlight_dismiss l)).effect

/-! ### The task at hand -/

/-- A replica that loads has no rules yet, and what it sends is about rules in force. -/
def Task.Fits (p : Replica.Phase) : Task → Prop
  | .loading _ _ => ∃ pending, p = .waiting pending
  | .sending built _ _ => ∀ a ∈ built, ∃ registry id rule,
      p = .ready registry ∧ registry.get? id = some rule ∧ a.ruleId = rule.id
  | .idle | .done | .broken => True

theorem fits_evaluate (l : Lane) (w : World) (e : Event) :
    (l.evaluate w e).task.Fits (l.evaluate w e).replica.phase := by
  intro a ha
  obtain ⟨registry, id, rule, hphase, hrule⟩ := Replica.exists_rule_of_evaluate ha
  exact ⟨registry, id, rule, (kept_evaluate l w e).phase.trans hphase, hrule⟩

theorem fits_takeEvent (l : Lane) (w : World) (e : Event) :
    (l.takeEvent w e).2.task.Fits (l.takeEvent w e).2.replica.phase := by
  unfold takeEvent
  dsimp only
  split
  · exact fits_evaluate _ _ _
  · next pending hphase =>
    unfold Fetch.start Fetch.call
    cases w.offer e |>.2.store.conduct with
    | answers delay failure => exact ⟨pending, hphase⟩
    | breaks => trivial

/-- A replica without rules asks for them when an event comes. -/
theorem task_takeEvent {l : Lane} {w : World} {pending : List Change} {delay : Nat}
    {failure : Option String} (hphase : l.replica.phase = .waiting pending) (e : Event)
    (hconduct : (w.offer e).2.store.conduct = .answers delay failure) :
    (l.takeEvent w e).2.task = .loading e ⟨(w.offer e).2.policy.attempts - 1,
      (w.offer e).2.now + (w.offer e).2.policy.span delay, .called delay failure⟩ := by
  have hsame := (l.replica.kept_offered (w.offer e).1).1.trans hphase
  unfold takeEvent
  dsimp only
  rw [hsame]
  simp only [Fetch.start, Fetch.call, hconduct]
  rfl

theorem fits_takeRecord {l : Lane} (w : World) (r : Record)
    (h : l.task.Fits l.replica.phase) :
    (l.takeRecord w r).2.task.Fits (l.takeRecord w r).2.replica.phase := by
  have hphase := (l.replica.kept_read w.normalizer r).1
  unfold takeRecord
  split
  · exact fits_takeEvent ..
  · next replica hread =>
    rw [hread] at hphase
    dsimp only
    rw [hphase]
    exact h

theorem fits_sendStep {l l' : Lane} {w w' : World} {built left : List Alert} {posted : Bool}
    (htask : l.task = .sending built left posted) (hfits : l.task.Fits l.replica.phase)
    (h : l.sendStep w built left posted = some (w', l')) : l'.task.Fits l'.replica.phase := by
  have hkept := kept_sendStep h
  rw [htask] at hfits
  rw [hkept.phase]
  cases sends_of_sendStep h with
  | done => trivial
  | waits a rest => exact hfits
  | sent a rest taken => exact hfits

theorem task_takeUpdate (l : Lane) (u : RuleUpdate) : (l.takeUpdate u).task = l.task := by
  unfold takeUpdate
  split
  · rfl
  · split <;> rfl

/-- Each move leaves a task that fits. -/
theorem Happens.fits {l l' : Lane} {w w' : World} {a : Act} (h : Happens w l a w' l')
    (hfits : l.task.Fits l.replica.phase) : l'.task.Fits l'.replica.phase := by
  cases h with
  | update u hidle =>
    rw [task_takeUpdate, task_of_isIdle hidle]
    trivial
  | outcome hidle hnext =>
    dsimp only
    rw [task_of_isIdle hidle]
    trivial
  | ended hidle hnext => exact hfits
  | record r hidle => exact fits_takeRecord w r hfits
  | event e hidle => exact fits_takeEvent ..
  | @load _ e fetch htask hdue p s hp =>
    rw [htask] at hfits
    cases p with
    | waiting next => exact hfits
    | answered answer => exact fits_evaluate _ _ _
    | broken => trivial
  | send htask hsend => exact fits_sendStep htask hfits hsend
  | collect hcollect =>
    obtain ⟨-, rfl⟩ := collect?_eq_some hcollect
    trivial
  | worker hstep =>
    obtain ⟨worker, requests, outcomes, rfl⟩ := ofWorker_workerStep hstep
    exact hfits
  | aside records updates loops looking => exact hfits
  | world w' => exact hfits

theorem Acts.fits {l l' : Lane} {a : Act} (h : Acts l a l')
    (hfits : l.task.Fits l.replica.phase) : l'.task.Fits l'.replica.phase := by
  cases h with
  | happens h => exact h.fits hfits
  | finish hidle => trivial
  | dismiss =>
    obtain ⟨worker, requests, outcomes, heq⟩ := ofWorker_dismiss l
    rw [heq]
    exact hfits

/-! ### Runs -/

/-- A lane at which nothing was done, with its replica. -/
structure Fresh (r : Replica) (l : Lane) : Prop where
  replica : l.replica = r
  idle : l.task = .idle
  flight : l.inFlight = []

theorem fresh_ofReplica (r : Replica) (capacity : Nat) : Fresh r (.ofReplica r capacity) :=
  ⟨rfl, rfl, rfl⟩

/-- A lane after a run that began with a replica. -/
structure Traced (r : Replica) (acts : List Act) (l : Lane) : Prop where
  /-- Loading has no time of its own: the changes might all have come after it. -/
  phase : l.replica.phase = (r.phase.ground (loadsOf acts)).take (changes r.lastIssued acts)
  issued : l.replica.lastIssued = issued r.lastIssued acts
  /-- Each outcome answers a wish of its own. -/
  asked : ((outcomesOf acts).map request ++ l.inFlight).Subperm (wishes r.lastIssued acts)
  fits : l.task.Fits l.replica.phase
  once : (loadsOf acts).length ≤ 1

theorem Fresh.traced {r : Replica} {l : Lane} (h : Fresh r l) : Traced r [] l where
  phase := by rw [h.replica]; exact (Replica.Phase.take_nil _).symm
  issued := by rw [h.replica]; rfl
  asked := by rw [h.flight]; exact .refl _
  fits := by rw [h.idle]; trivial
  once := Nat.zero_le 1

theorem loadsOf_snoc (acts : List Act) (a : Act) :
    loadsOf (acts ++ [a]) = loadsOf acts ++ a.load?.toList := by
  unfold loadsOf
  rw [List.filterMap_append, List.filterMap_cons, List.filterMap_nil]
  cases a.load? <;> rfl

theorem outcomesOf_snoc (acts : List Act) (a : Act) :
    outcomesOf (acts ++ [a]) = outcomesOf acts ++ a.outcome?.toList := by
  unfold outcomesOf
  rw [List.filterMap_append, List.filterMap_cons, List.filterMap_nil]
  cases a.outcome? <;> rfl

theorem updatesOf_snoc (acts : List Act) (a : Act) :
    updatesOf (acts ++ [a]) = updatesOf acts ++ a.update?.toList := by
  unfold updatesOf
  rw [List.filterMap_append, List.filterMap_cons, List.filterMap_nil]
  cases a.update? <;> rfl

/-- What is loading has not been loaded. -/
theorem Traced.loads_eq_nil {r : Replica} {acts : List Act} {l : Lane} (h : Traced r acts l)
    {pending : List Change} (hphase : l.replica.phase = .waiting pending) : loadsOf acts = [] := by
  have hground := h.phase
  rw [hphase] at hground
  cases hloads : loadsOf acts with
  | nil => rfl
  | cons answer rest =>
    rw [hloads] at hground
    cases hr : r.phase <;> rw [hr] at hground <;> cases hground

/-- What is loaded was loading. -/
theorem Acts.load_of {l l' : Lane} {a : Act} (h : Acts l a l')
    (hfits : l.task.Fits l.replica.phase) :
    a.load? = none ∨ ∃ pending, l.replica.phase = .waiting pending := by
  cases h with
  | happens h =>
    cases h with
    | load htask =>
      rw [htask] at hfits
      exact .inr hfits
    | _ => exact .inl rfl
  | finish | dismiss => exact .inl rfl

/-- A replica that loaded has a registry, so it does not load again. -/
theorem Traced.once_snoc {r : Replica} {acts : List Act} {l l' : Lane} {a : Act}
    (h : Traced r acts l) (ha : Acts l a l') : (loadsOf (acts ++ [a])).length ≤ 1 := by
  rw [loadsOf_snoc]
  rcases ha.load_of h.fits with hnone | ⟨pending, hphase⟩
  · rw [hnone, Option.toList_none, List.append_nil]
    exact h.once
  · rw [h.loads_eq_nil hphase, List.nil_append]
    exact Option.length_toList_le

/-- **One more move.** -/
theorem Traced.snoc {r : Replica} {acts : List Act} {l l' : Lane} {a : Act}
    (h : Traced r acts l) (ha : Acts l a l') : Traced r (acts ++ [a]) l' where
  phase := by
    have hchanges : changes r.lastIssued (acts ++ [a]) =
        changes r.lastIssued acts ++ a.changes l.replica.lastIssued := by
      rw [h.issued]
      exact gather_snoc ..
    rw [ha.effect.phase, h.phase, Replica.Phase.ground_take, loadsOf_snoc, hchanges,
      Replica.Phase.take_append]
  issued := by rw [ha.effect.issued, h.issued, issued_snoc]
  asked := by
    have hwishes : wishes r.lastIssued (acts ++ [a]) =
        wishes r.lastIssued acts ++ a.wishes l.replica.lastIssued := by
      rw [h.issued]
      exact gather_snoc ..
    rw [outcomesOf_snoc, List.map_append, List.append_assoc, hwishes]
    refine ((List.subperm_append_left _).2 ha.effect.flight).trans ?_
    rw [← List.append_assoc]
    exact (List.subperm_append_right _).2 h.asked
  fits := ha.fits h.fits
  once := h.once_snoc ha

/-- **What a replica knows is told by what happened at it**, in order. -/
theorem Run.traced {r : Replica} {l l' : Lane} {acts : List Act} (h : Run l acts l')
    (hl : Fresh r l) : Traced r acts l' := by
  induction h with
  | nil => exact hl.traced
  | snoc hrun ha ih => exact ih.snoc ha

end Lane
end Watchpost
