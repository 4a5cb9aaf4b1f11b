import Watchpost.Lane.Turn
import Watchpost.Proofs.Lane.Silence
import Watchpost.Proofs.Lane.Story
import Watchpost.Proofs.Replica.Processing

/-! What a lane makes of a record.

A record that tells of no event is dropped at once. Any other is an event, and the replica is at its
work on it until all alerts are sent: each step brings it nearer to its end (`nearer_of_step`), what
it has done so far is known (`Attending`), and so is what it has done in the end
(`record_processed`). -/
namespace Watchpost

/-- A store that answers does not bring anybody down. -/
theorem Fetch.resume_ne_broken {p : FetchPolicy} {target : String} {read : Store → α} {now : Nat}
    {f : Fetch} {s : Store} {delay : Nat} {failure : Option String}
    (h : s.conduct = .answers delay failure) : (f.resume p target read now s).1 ≠ .broken := by
  unfold Fetch.resume
  split
  · unfold Fetch.take
    split <;> exact nofun
  · unfold Fetch.call
    rw [h]
    exact nofun

namespace Lane

/-! ### On the way -/

/-- The alerts that are still to be sent. -/
def Task.left : Task → List Alert
  | .sending _ left _ => left
  | .idle | .loading _ _ | .done | .broken => []

/-- The verdict on an alert that was sent with a step: it is taken if there is somebody to take
it. -/
def verdicts (l : Lane) (w : World) (l' : Lane) : List Bool :=
  .replicate (l.task.left.length - l'.task.left.length) w.alerts.isOpen

/-- A replica that is about an event makes steps until its alerts can be collected, each in another
world perhaps, and others may do to its lane what does not concern it. With the verdicts on the
alerts that were sent so far. -/
inductive Attends (start : Lane) : List Bool → Lane → Prop where
  | start : Attends start [] start
  | step {verdicts : List Bool} {l l' : Lane} {w w' : World} (h : Attends start verdicts l)
      (hbusy : l.isBusy = true) (hopen : l.collect? = none)
      (hstep : l.replicaStep w = some (w', l')) :
      Attends start (verdicts ++ l.verdicts w l') l'
  | others {verdicts : List Bool} {l l' : Lane} (h : Attends start verdicts l)
      (hreplica : l'.replica = l.replica) (htask : l'.task = l.task) : Attends start verdicts l'

theorem Attends.trans {start mid l : Lane} {verdicts more : List Bool}
    (h : Attends start verdicts mid) (hmore : Attends mid more l) :
    Attends start (verdicts ++ more) l := by
  induction hmore with
  | start =>
    rw [List.append_nil]
    exact h
  | step _ hbusy hopen hstep ih =>
    rw [← List.append_assoc]
    exact ih.step hbusy hopen hstep
  | others _ hreplica htask ih => exact ih.others hreplica htask

section
variable {l l' : Lane} {w w' : World}

/-- A step of a replica that is about an event. -/
inductive Proceeds (l : Lane) (w : World) : Lane → Prop where
  | load {e : Event} {fetch : Fetch} {p : Progress (List (String × Definition))} {s : Store}
      (htask : l.task = .loading e fetch)
      (hp : fetch.resume w.policy "*" Store.all w.now w.store = (p, s)) :
      Proceeds l w (l.loaded w e p)
  | waits {built rest : List Alert} {a : Alert} (htask : l.task = .sending built (a :: rest) false) :
      Proceeds l w { l with task := .sending built (a :: rest) true }
  | sent {built rest : List Alert} {a : Alert} {posted : Bool}
      (htask : l.task = .sending built (a :: rest) posted) :
      Proceeds l w { l with
        replica := l.replica.sent a w.alerts.isOpen, task := .sending built rest false }

theorem proceeds_of_step (hbusy : l.isBusy = true) (hopen : l.collect? = none)
    (hstep : l.replicaStep w = some (w', l')) : l.Proceeds w l' := by
  unfold replicaStep at hstep
  split at hstep
  · next htask =>
    rw [isBusy, htask] at hbusy
    cases hbusy
  · next e fetch htask =>
    unfold loadStep at hstep
    split at hstep
    · generalize hp : fetch.resume w.policy "*" Store.all w.now w.store = r at hstep
      obtain ⟨p, s⟩ := r
      cases hstep
      exact .load htask hp
    · cases hstep
  · next built left posted htask =>
    cases left with
    | nil =>
      rw [collect?, htask] at hopen
      cases hopen
    | cons a rest =>
      rcases sendStep_cons hstep with ⟨rfl, rfl⟩ | rfl
      · exact .waits htask
      · exact .sent htask
  · cases hstep
  · cases hstep

end

/-! ### How far it is -/

/-- What a replica has done so far about an event, and what it is about. -/
inductive Attending (r : Replica) (e : Event) (taken : Bool) :
    List Bool → Replica → Task → Prop where
  /-- The event was offered, and the rules are on their way. -/
  | loading {pending : List Change} (hwaiting : r.phase = .waiting pending) (fetch : Fetch) :
      Attending r e taken [] (r.offered taken) (.loading e fetch)
  /-- The event was held against the rules, and some of the alerts were sent. -/
  | sending {answer : Except Error (List (String × Definition))} {now : Instant} {q : Replica}
      {sent left : List Alert} {verdicts : List Bool}
      (h : ((r.offered taken).load answer).evaluate now e = (q, sent ++ left))
      (hsettled : verdicts.length = sent.length) (posted : Bool) :
      Attending r e taken verdicts (q.sentAll sent verdicts) (.sending (sent ++ left) left posted)
  /-- The store that was asked for the rules has brought the replica down. -/
  | broken {pending : List Change} (hwaiting : r.phase = .waiting pending) (verdicts : List Bool)
      (s : Replica) : Attending r e taken verdicts s .broken

section
variable {r : Replica} {e : Event} {taken : Bool} {verdicts : List Bool} {l l' : Lane} {w : World}

/-- Once the rules are there, the event is held against them. -/
theorem attending_evaluate {answer : Except Error (List (String × Definition))}
    (hreplica : l.replica = (r.offered taken).load answer) :
    Attending r e taken [] (l.evaluate w e).replica (l.evaluate w e).task := by
  unfold evaluate
  rw [hreplica]
  have hnone : ([] : List Bool).length = ([] : List Alert).length := rfl
  exact .sending rfl hnone false

theorem attending_loaded {pending : List Change} (hwaiting : r.phase = .waiting pending)
    (hreplica : l.replica = r.offered taken) (p : Progress (List (String × Definition))) :
    Attending r e taken [] (l.loaded w e p).replica (l.loaded w e p).task := by
  cases p with
  | waiting fetch =>
    unfold loaded
    rw [hreplica]
    exact .loading hwaiting fetch
  | answered answer =>
    exact attending_evaluate (l := { l with replica := l.replica.load answer }) (by rw [hreplica])
  | broken => exact .broken hwaiting _ _

theorem attending_takeEvent (l : Lane) (w : World) (e : Event) :
    Attending l.replica e (w.offer e).1 [] (l.takeEvent w e).2.replica
      (l.takeEvent w e).2.task := by
  have hsame := (l.replica.kept_offered (w.offer e).1).1
  unfold takeEvent
  dsimp only
  split
  · next registry hready => exact attending_evaluate (Replica.load_of_ready hready (.ok [])).symm
  · next pending hwaiting => exact attending_loaded (hsame.symm.trans hwaiting) rfl _

/-- **Each step takes it further**, and sends one alert at most. -/
theorem Attending.proceeds (h : Attending r e taken verdicts l.replica l.task)
    (hstep : l.Proceeds w l') :
    Attending r e taken (verdicts ++ l.verdicts w l') l'.replica l'.task := by
  unfold Lane.verdicts
  generalize hreplica : l.replica = s at h
  generalize htask : l.task = t at h
  cases hstep with
  | @load _ fetch p s' htask' hp =>
    cases htask.symm.trans htask'
    cases h with
    | loading hwaiting =>
      rw [show (Task.loading e fetch).left.length = 0 from rfl, Nat.zero_sub]
      exact attending_loaded hwaiting hreplica p
  | @waits built rest a htask' =>
    cases htask.symm.trans htask'
    have hnone : (Task.sending built (a :: rest) false).left.length -
        (Task.sending built (a :: rest) true).left.length = 0 := Nat.sub_self _
    dsimp only
    rw [hnone, hreplica, List.replicate_zero, List.append_nil]
    cases h with
    | sending h hsettled => exact .sending h hsettled true
  | @sent built rest a posted htask' =>
    cases htask.symm.trans htask'
    have hone : (Task.sending built (a :: rest) posted).left.length -
        (Task.sending built rest false).left.length = 1 := Nat.add_sub_cancel_left ..
    dsimp only
    rw [hone, hreplica]
    cases h with
    | @sending answer now q sent left verdicts h hsettled =>
      have hbuilt : sent ++ a :: rest = (sent ++ [a]) ++ rest := List.append_cons ..
      have hlength : (verdicts ++ [w.alerts.isOpen]).length = (sent ++ [a]).length := by
        rw [List.length_append, List.length_append, hsettled]
        rfl
      rw [hbuilt] at h ⊢
      rw [← q.sentAll_snoc hsettled]
      exact .sending h hlength false

theorem Attends.attending {start : Lane} (h : Attends start verdicts l)
    (hstart : Attending r e taken [] start.replica start.task) :
    Attending r e taken verdicts l.replica l.task := by
  induction h with
  | start => exact hstart
  | step _ hbusy hopen hstep ih => exact ih.proceeds (proceeds_of_step hbusy hopen hstep)
  | others _ hreplica htask ih =>
    rw [hreplica, htask]
    exact ih

end

/-! ### The way to the end -/

/-- One task is nearer to the end of an event than another. -/
def Task.Nearer (t u : Task) : Prop :=
  Prod.Lex (· < ·) (· < ·) (t.weight, t.rank) (u.weight, u.rank)

theorem wellFounded_nearer : WellFounded Task.Nearer :=
  InvImage.wf (fun t : Task => (t.weight, t.rank)) (Prod.lex Nat.lt_wfRel Nat.lt_wfRel).wf

section
variable {l l' : Lane} {w : World}

/-- **No step is made in vain.** -/
theorem nearer_of_step (h : l.Proceeds w l') : l'.task.Nearer l.task := by
  unfold Task.Nearer
  cases h with
  | @load e fetch p s htask hp =>
    rw [htask]
    cases p with
    | waiting next => exact .right _ (Fetch.rank_of_resume hp)
    | answered answer => exact .left _ _ (Nat.lt_succ_self 2)
    | broken => exact .left _ _ (Nat.zero_lt_succ 2)
  | waits htask =>
    rw [htask]
    exact .right _ (Nat.lt_succ_self _)
  | @sent built rest a posted htask =>
    rw [htask]
    refine .right _ ?_
    simp only [Task.rank, List.length_cons, Bool.false_eq_true, if_false]
    omega

/-- One alert is sent at most. -/
theorem verdicts_eq (h : l.Proceeds w l') :
    l.verdicts w l' = [] ∨ l.verdicts w l' = [w.alerts.isOpen] := by
  unfold verdicts
  cases h with
  | load htask hp =>
    rw [htask]
    exact .inl (congrArg (List.replicate · _) (Nat.zero_sub _))
  | waits htask =>
    rw [htask]
    exact .inl (congrArg (List.replicate · _) (Nat.sub_self _))
  | sent htask =>
    rw [htask]
    exact .inr (congrArg (List.replicate · _) (Nat.add_sub_cancel_left ..))

end

/-- What a replica waits for comes in some world: the answer of the store, or room for an alert. And
there is one for each verdict on the alert that is sent. -/
theorem exists_step {l : Lane} (hbusy : l.isBusy = true) (hopen : l.collect? = none)
    (taken : Bool) : ∃ (w w' : World) (l' : Lane), w.alerts.isOpen = taken ∧
      l.replicaStep w = some (w', l') ∧ l'.isBusy = true := by
  let w (now : Nat) : World :=
    { World.prompt .empty with now, alerts := { capacity := 1, isOpen := taken } }
  have hstep (now : Nat) (hmoves : l.replicaMoves (w now) = true) :
      ∃ (v w' : World) (l' : Lane), v.alerts.isOpen = taken ∧
        l.replicaStep v = some (w', l') ∧ l'.isBusy = true := by
    rw [← isSome_replicaPass, replicaPass_of_busy (not_isIdle hbusy)] at hmoves
    obtain ⟨⟨w', l'⟩, hstep⟩ := Option.isSome_iff_exists.1 hmoves
    refine ⟨w now, w', l', rfl, hstep, ?_⟩
    cases proceeds_of_step hbusy hopen hstep with
    | @load e fetch p s htask hp =>
      cases p with
      | waiting next => rfl
      | answered answer => rfl
      | broken => exact absurd (congrArg Prod.fst hp) (Fetch.resume_ne_broken rfl)
    | waits htask => rfl
    | sent htask => rfl
  unfold isBusy at hbusy
  split at hbusy
  · next e fetch htask =>
    refine hstep fetch.due ?_
    rw [replicaMoves, htask]
    exact decide_eq_true (Nat.le_refl _)
  · next built left posted htask =>
    cases left with
    | nil =>
      rw [collect?, htask] at hopen
      cases hopen
    | cons a rest =>
      refine hstep 0 ?_
      rw [replicaMoves, htask]
      exact congrArg (!·) (Bool.and_false posted)
  all_goals cases hbusy

/-- **It comes to an end with any verdicts**, from wherever it is. -/
theorem exists_collected (l : Lane) (hbusy : l.isBusy = true) (taken : Nat → Bool) :
    ∃ verdicts l', Attends l verdicts l' ∧ l'.collect?.isSome = true ∧
      verdicts = (List.range verdicts.length).map taken := by
  generalize htask : l.task = t
  induction t using wellFounded_nearer.induction generalizing l taken with
  | _ t ih =>
    cases hopen : l.collect? with
    | some collected => exact ⟨[], l, .start, by rw [hopen]; rfl, rfl⟩
    | none =>
      obtain ⟨w, w', next, hverdict, hstep, hnext⟩ := exists_step hbusy hopen (taken 0)
      have hproceeds := proceeds_of_step hbusy hopen hstep
      have hnearer : next.task.Nearer t := htask ▸ nearer_of_step hproceeds
      have hgo (more : Nat → Bool) := ih next.task hnearer next hnext more rfl
      have hfirst : Attends l ([] ++ l.verdicts w next) next := Attends.start.step hbusy hopen hstep
      rcases verdicts_eq hproceeds with hnone | hone
      · obtain ⟨verdicts, l', hrest, hcollect, hverdicts⟩ := hgo taken
        rw [hnone] at hfirst
        exact ⟨verdicts, l', hfirst.trans hrest, hcollect, hverdicts⟩
      · obtain ⟨verdicts, l', hrest, hcollect, hverdicts⟩ := hgo fun i => taken (i + 1)
        rw [hone, hverdict] at hfirst
        refine ⟨taken 0 :: verdicts, l', hfirst.trans hrest, hcollect, ?_⟩
        rw [List.length_cons, List.range_succ_eq_map, List.map_cons, List.map_map]
        exact congrArg (taken 0 :: ·) hverdicts

/-- A step that a replica makes about an event, after whatever others did to its lane. -/
def Goes (l l' : Lane) : Prop :=
  ∃ (m : Lane) (w w' : World), m.replica = l.replica ∧ m.task = l.task ∧ m.isBusy = true ∧
    m.collect? = none ∧ m.replicaStep w = some (w', l')

/-- No event is gone on with forever. -/
theorem acc_goes (l : Lane) : Acc (fun l' l : Lane => l.Goes l') l := by
  refine Subrelation.accessible (fun {l' l} h => ?_)
    (InvImage.accessible Lane.task (wellFounded_nearer.apply l.task))
  obtain ⟨m, w, w', -, htask, hbusy, hopen, hstep⟩ := h
  have hnearer := nearer_of_step (proceeds_of_step hbusy hopen hstep)
  rw [htask] at hnearer
  exact hnearer

/-! ### The end -/

section
variable {start l : Lane} {r : Replica} {e : Event} {taken : Bool} {verdicts : List Bool}

/-- A replica that is about an event stays so, unless a store brings it down. -/
theorem Attends.isBusy_or (h : Attends start verdicts l)
    (hstart : Attending r e taken [] start.replica start.task) :
    l.isBusy = true ∨ l.isBroken = true ∧ ∃ pending, r.phase = .waiting pending := by
  have hattending := h.attending hstart
  generalize l.replica = s at hattending
  generalize htask : l.task = t at hattending
  unfold isBusy isBroken
  rw [htask]
  cases hattending with
  | loading => exact .inl rfl
  | sending => exact .inl rfl
  | broken hwaiting => exact .inr ⟨rfl, _, hwaiting⟩

theorem Attends.processed {l' : Lane} {alerts : List Alert} (h : Attends start verdicts l)
    (hstart : Attending r e taken [] start.replica start.task)
    (hcollect : l.collect? = some (alerts, l')) :
    l'.isIdle = true ∧ ∃ answer, r.Processed answer e taken verdicts alerts l'.replica := by
  obtain ⟨⟨posted, htask⟩, rfl⟩ := collect?_eq_some hcollect
  have hattending := h.attending hstart
  rw [htask] at hattending
  refine ⟨rfl, ?_⟩
  generalize l.replica = s at hattending ⊢
  generalize hbuilt : Task.sending alerts [] posted = t at hattending
  cases hattending with
  | loading => cases hbuilt
  | broken => cases hbuilt
  | @sending answer now q sent left verdicts h hsettled posted =>
    cases hbuilt
    rw [List.append_nil] at h ⊢
    exact ⟨answer, r.processed_sentAll answer now e taken h hsettled⟩

end

/-- **A record fires just the rules that it should, and changes nothing else.** One that tells of no
event is dropped, and that is counted; nothing else happens. With any other the replica comes to an
end: it cannot go on forever, and it can finish with any verdicts on its alerts from wherever it is,
unless it had to ask a store for rules and that brought it down. In the end each rule that fires has
one alert, whatever became of the others, all of them count once, and a replica that had its rules
has the same. -/
theorem record_processed (l : Lane) (w : World) (record : Record) :
    (w.normalizer.ofRecord? record = none →
      l.takeRecord w record = (w, { l with replica := l.replica.count .dropped })) ∧
    ∀ e, w.normalizer.ofRecord? record = some e →
      ∀ verdicts m, Attends (l.takeRecord w record).2 verdicts m →
        (m.isBroken = true → ∃ pending, l.replica.phase = .waiting pending) ∧
        Acc (fun l' l : Lane => l.Goes l') m ∧
        (m.isBroken = false → ∀ taken : Nat → Bool, ∃ more m', Attends m more m' ∧
          m'.collect?.isSome = true ∧ more = (List.range more.length).map taken) ∧
        ∀ alerts m', m.collect? = some (alerts, m') →
          m'.isIdle = true ∧ ∃ answer,
            l.replica.Processed answer e (w.offer e).1 verdicts alerts m'.replica := by
  refine ⟨fun hnone => ?_, fun e hsome verdicts m h => ?_⟩
  · unfold takeRecord Replica.read
    rw [hnone]
  · have htake : l.takeRecord w record = l.takeEvent w e := by
      unfold takeRecord Replica.read
      rw [hsome]
    rw [htake] at h
    have hstart := l.attending_takeEvent w e
    refine ⟨fun hbroken => ?_, m.acc_goes, fun hlive taken => ?_,
      fun alerts m' => h.processed hstart⟩
    · rcases h.isBusy_or hstart with hbusy | ⟨-, hwaiting⟩
      · rw [isBroken_of_live (isOver_of_isBusy hbusy)] at hbroken
        cases hbroken
      · exact hwaiting
    · rcases h.isBusy_or hstart with hbusy | ⟨hbroken, -⟩
      · exact exists_collected m hbusy taken
      · rw [hlive] at hbroken
        cases hbroken

/-- A replica fires its rule, and nobody is there to take the alert. -/
theorem record_processed_refused : ∃ (l : Lane) (w : World) (e : Event) (a : Alert) (m m' : Lane),
    w.normalizer.ofRecord? sampleRecord = some e ∧
      Attends (l.takeRecord w sampleRecord).2 [false] m ∧ m.collect? = some ([a], m') ∧
      a.ruleId = "A" ∧ m'.replica.delivered = (0, 1) ∧ m'.replica.counted = (1, 0) ∧
      m'.replica.phase = l.replica.phase := by
  let l := Lane.ofReplica { number := 0, phase := .ready (.ofRules [firingRule]) } 1
  let w := firingWorld
  let deserted : World := { w with alerts := { capacity := 1, isOpen := false } }
  obtain ⟨e, he, hfires⟩ := exists_event
  obtain ⟨a, halerts, hid⟩ := alerts_firing (r := l.replica) rfl w.clock hfires
  let busy : Lane :=
    { l with replica := (l.replica.evaluate w.clock e).1, task := .sending [a] [a] false }
  have hbusy : (l.takeRecord w sampleRecord).2 = busy := by
    unfold takeRecord Replica.read
    rw [he]
    unfold busy
    rw [← halerts]
    rfl
  have settled := (Attends.start : Attends busy [] busy).step (w := deserted) rfl rfl rfl
  rw [← hbusy] at settled
  obtain ⟨-, hprocessed⟩ := record_processed l w sampleRecord
  obtain ⟨-, -, -, hend⟩ := hprocessed e he _ _ settled
  obtain ⟨-, answer, h⟩ := hend [a] _ rfl
  exact ⟨l, w, e, a, _, _, he, settled, rfl, hid, h.delivered, h.counted, (h.ready _ rfl).1⟩

end Lane
end Watchpost
