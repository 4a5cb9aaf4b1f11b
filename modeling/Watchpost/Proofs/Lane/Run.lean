import Mathlib.Data.List.Perm.Subperm
import Watchpost.Lane.Work
import Watchpost.Proofs.Replica.Changes

/-! Runs of a lane.

A lane is told of updates and given records, its worker makes steps and its replica takes the
outcomes, in any order and in a world that may be another one at each step. A run is the list
of what was done (`Act`); `Traced` says what is known of the lane after it. -/
namespace Watchpost

/-- A world whose store answers at once. -/
def World.prompt (definitions : Table Definition) : World :=
  { normalizer := ⟨0, by decide⟩, policy := ⟨1, 0, 0⟩, alerts := { capacity := 1 },
    store := { definitions } }

namespace Lane

/-! ### What is done -/

/-- What is done at a lane, as far as its rules are concerned. -/
inductive Act where
  | update (u : RuleUpdate)
  | outcome (o : FetchOutcome)
  /-- The store has told all definitions, or failed to. -/
  | load (answer : Except Error (List (String × Definition)))
  | other

namespace Act

def update? : Act → Option RuleUpdate
  | update u => some u
  | _ => none

def outcome? : Act → Option FetchOutcome
  | outcome o => some o
  | _ => none

def load? : Act → Option (Except Error (List (String × Definition)))
  | load answer => some answer
  | _ => none

/-- Loading ends with an answer. -/
def ofProgress : Progress (List (String × Definition)) → Act
  | .answered answer => load answer
  | .waiting _ | .broken => other

/-- The number of the last update, after what is done. -/
def next (last : UInt64) : Act → UInt64
  | update _ => last + 1
  | _ => last

/-- The changes that come of what is done. -/
def changes (last : UInt64) : Act → List Change
  | update ⟨id, .delete⟩ => [.delete (last + 1) id]
  | outcome o => o.change?.toList
  | _ => []

/-- The wishes that come of what is done. -/
def wishes (last : UInt64) : Act → List FetchRequest
  | update ⟨id, .upsert⟩ => [⟨last + 1, id⟩]
  | _ => []

end Act

/-- The updates that a lane was told of, the oldest first. -/
def updatesOf (acts : List Act) : List RuleUpdate := acts.filterMap Act.update?

def outcomesOf (acts : List Act) : List FetchOutcome := acts.filterMap Act.outcome?

def loadsOf (acts : List Act) : List (Except Error (List (String × Definition))) :=
  acts.filterMap Act.load?

/-- The number of the last update, after a run. -/
def issued (last : UInt64) (acts : List Act) : UInt64 := acts.foldl Act.next last

/-- What comes of a run, if it is known what comes of each act. -/
def gather (of : UInt64 → Act → List β) (last : UInt64) : List Act → List β
  | [] => []
  | a :: rest => of last a ++ gather of (a.next last) rest

def changes (last : UInt64) (acts : List Act) : List Change := gather Act.changes last acts

def wishes (last : UInt64) (acts : List Act) : List FetchRequest := gather Act.wishes last acts

theorem gather_append (of : UInt64 → Act → List β) (last : UInt64) (as bs : List Act) :
    gather of last (as ++ bs) = gather of last as ++ gather of (issued last as) bs := by
  induction as generalizing last with
  | nil => rfl
  | cons a rest ih =>
    rw [List.cons_append, gather, gather, ih, List.append_assoc]
    rfl

/-- What the last act adds depends on the number that was issued before it. -/
theorem gather_snoc (of : UInt64 → Act → List β) (last : UInt64) (as : List Act) (a : Act) :
    gather of last (as ++ [a]) = gather of last as ++ of (issued last as) a := by
  rw [gather_append, gather, gather, List.append_nil]

theorem issued_snoc (last : UInt64) (as : List Act) (a : Act) :
    issued last (as ++ [a]) = a.next (issued last as) := List.foldl_append

/-! ### Moves of a lane -/

/-- What happens at a lane and in the world around it: a move of the lane, unless it is told to
end, or a change in the world alone, such as one of what the store holds. The replica takes what
comes when it is idle; its worker and those who send to it may move at any time. -/
inductive Happens : World → Lane → Act → World → Lane → Prop where
  | update {w : World} {l : Lane} (u : RuleUpdate) (h : l.isIdle = true) :
      Happens w l (.update u) w (l.takeUpdate u)
  | outcome {w : World} {l : Lane} {o : FetchOutcome} {outcomes : Channel FetchOutcome}
      (h : l.isIdle = true) (hnext : l.outcomes.next? = some (some o, outcomes)) :
      Happens w l (.outcome o) w { l with outcomes, replica := l.replica.takeOutcome o }
  | ended {w : World} {l : Lane} {outcomes : Channel FetchOutcome} (h : l.isIdle = true)
      (hnext : l.outcomes.next? = some (none, outcomes)) :
      Happens w l .other w { l with outcomes }
  | record {w : World} {l : Lane} (r : Record) (h : l.isIdle = true) :
      Happens w l .other (l.takeRecord w r).1 (l.takeRecord w r).2
  | event {w : World} {l : Lane} (e : Event) (h : l.isIdle = true) :
      Happens w l .other (l.takeEvent w e).1 (l.takeEvent w e).2
  | load {w : World} {l : Lane} {e : Event} {fetch : Fetch} (htask : l.task = .loading e fetch)
      (hdue : fetch.due ≤ w.now) {p : Progress (List (String × Definition))} {s : Store}
      (hp : fetch.resume w.policy "*" Store.all w.now w.store = (p, s)) :
      Happens w l (.ofProgress p) { w with store := s } (l.loaded w e p)
  | send {w w' : World} {l l' : Lane} {built left : List Alert} {posted : Bool}
      (htask : l.task = .sending built left posted)
      (h : l.sendStep w built left posted = some (w', l')) : Happens w l .other w' l'
  | collect {w : World} {l l' : Lane} {alerts : List Alert} (h : l.collect? = some (alerts, l')) :
      Happens w l .other w l'
  | worker {w w' : World} {l l' : Lane} (h : l.workerStep w = some (w', l')) :
      Happens w l .other w' l'
  /-- Something is put in, or looked for. -/
  | aside {w : World} {l : Lane} (records : Channel Record) (updates : Channel RuleUpdate)
      (loops : Bool) (looking : Look) :
      Happens w l .other w { l with records, updates, loops, looking }
  | world {w : World} {l : Lane} (w' : World) : Happens w l .other w' l

/-- A move of a lane, whatever the world is, or how it is told to end. -/
inductive Acts (l : Lane) : Act → Lane → Prop where
  | happens {l' : Lane} {a : Act} {w w' : World} (h : Happens w l a w' l') : Acts l a l'
  | finish (h : l.isIdle = true) : Acts l .other (l.finish .done)
  | dismiss : Acts l .other l.dismiss

/-- Moves, one after the other. -/
inductive Run : Lane → List Act → Lane → Prop where
  | nil {l : Lane} : Run l [] l
  | snoc {l m l' : Lane} {acts : List Act} {a : Act} (hrun : Run l acts m) (h : Acts m a l') :
      Run l (acts ++ [a]) l'

/-- Something happens in a world. -/
theorem Run.happens (w : World) {w' : World} {l m l' : Lane} {acts : List Act} {a : Act}
    (hrun : Run l acts m) (h : Happens w m a w' l') : Run l (acts ++ [a]) l' := hrun.snoc (.happens h)

/-- A run goes on where only the queues or the looks are changed. -/
theorem Run.aside {l m : Lane} {acts : List Act} (hrun : Run l acts m) (records : Channel Record)
    (updates : Channel RuleUpdate) (loops : Bool) (looking : Look) :
    Run l (acts ++ [.other]) { m with records, updates, loops, looking } :=
  hrun.happens (.prompt .empty) (.aside records updates loops looking)

theorem Run.trans {start mid l : Lane} {acts more : List Act} (h : Run start acts mid)
    (hmore : Run mid more l) : Run start (acts ++ more) l := by
  induction hmore with
  | nil =>
    rw [List.append_nil]
    exact h
  | snoc hrun ha ih =>
    rw [← List.append_assoc]
    exact ih.snoc ha

/-! ### Wishes under way -/

def Worker.wishes : Worker → List FetchRequest
  | .fetching request _ => [request]
  | .telling o false => [⟨o.seq, o.ruleId⟩]
  | .idle | .telling _ true | .leaving | .gone => []

/-- What an outcome answers. -/
def request (o : FetchOutcome) : FetchRequest := ⟨o.seq, o.ruleId⟩

/-- The wishes whose outcomes were not taken yet. -/
def inFlight (l : Lane) : List FetchRequest :=
  l.outcomes.pending.map request ++ l.worker.wishes ++ l.requests

/-- A worker that leaves takes its request with it, and gives out none. -/
theorem inFlight_leave (l : Lane) : l.leave.inFlight.Subperm l.inFlight := by
  have h : l.leave.inFlight = l.outcomes.queued.map request := by
    simp [inFlight, leave, Channel.endInput, Channel.withdraw, Channel.pending, Worker.wishes]
  rw [h]
  unfold inFlight Channel.pending
  rw [List.map_append, List.append_assoc, List.append_assoc]
  exact (List.sublist_append_left ..).subperm

theorem inFlight_dismiss (l : Lane) : l.dismiss.inFlight.Subperm l.inFlight := by
  unfold dismiss
  split
  · next o ho =>
    simp only [inFlight, ho, Worker.wishes]
    exact .refl _
  · exact .refl _
  · exact .refl _
  · exact inFlight_leave l

theorem inFlight_finish (l : Lane) (t : Task) : (l.finish t).inFlight.Subperm l.inFlight := by
  unfold finish inFlight
  rw [Channel.pending_close, List.map_nil, List.nil_append, List.append_assoc]
  refine .trans ?_ (List.sublist_append_right ..).subperm
  dsimp only
  split
  · exact .refl _
  · exact (List.sublist_append_right ..).subperm

theorem inFlight_fetched (l : Lane) (q : FetchRequest) (p : Progress (Option Definition)) :
    (l.fetched q p).inFlight.Subperm (l.outcomes.pending.map request ++ q :: l.requests) := by
  have hkept (f : Worker) (hf : f.wishes = [q]) :
      ({ l with worker := f } : Lane).inFlight =
        l.outcomes.pending.map request ++ q :: l.requests := by
    unfold inFlight
    rw [hf, List.append_assoc]
    rfl
  cases p with
  | waiting fetch =>
    rw [fetched, hkept (.fetching q fetch) rfl]
  | answered answer =>
    rw [fetched, hkept (.telling ⟨q.seq, q.ruleId, answer⟩ false) rfl]
  | broken =>
    have h := inFlight_leave { l with worker := .idle }
    refine .trans h ?_
    simp only [inFlight, Worker.wishes, List.append_nil]
    exact ((List.sublist_cons_self q l.requests).append_left _).subperm

/-- An outcome that is told is in flight once, on either side of the channel. -/
theorem inFlight_tellStep {l l' : Lane} {o : FetchOutcome} {posted : Bool}
    (hworker : l.worker = .telling o posted) (h : l.tellStep o posted = some l') :
    l'.inFlight.Subperm l.inFlight := by
  unfold tellStep at h
  cases posted with
  | true =>
    obtain ⟨outcomes, henter, rfl⟩ := Option.map_eq_some_iff.1 h
    have hperm := (Channel.perm_pending_enter? henter).map request
    simp only [inFlight, hworker, Worker.wishes]
    exact ((hperm.append_right []).append_right l.requests).subperm
  | false =>
    simp only [Bool.false_eq_true, if_false] at h
    split at h
    · cases h
      exact inFlight_leave l
    · cases h
      have hperm := (Channel.perm_pending_send l.outcomes o).map request
      have hwishes : (if l.outcomes.hasRoom = true then Worker.idle
          else Worker.telling o true).wishes = [] := by
        split <;> rfl
      unfold inFlight
      dsimp only
      rw [hwishes, hworker, List.append_nil]
      refine ((hperm.trans ?_).append_right l.requests).subperm
      exact (List.perm_append_singleton (request o) _).symm

/-- Whatever the worker does, no wish comes to those under way. -/
theorem inFlight_workerStep {l l' : Lane} {w w' : World} (h : l.workerStep w = some (w', l')) :
    l'.inFlight.Subperm l.inFlight := by
  unfold workerStep at h
  split at h
  · next hworker =>
    split at h
    · next q requests hrequests =>
      cases h
      refine (inFlight_fetched { l with requests } q _).trans ?_
      simp only [inFlight, hworker, Worker.wishes, hrequests, List.append_nil]
      exact .refl _
    · split at h
      · cases h
        exact inFlight_leave l
      · cases h
  · next q fetch hworker =>
    split at h
    · cases h
      refine (inFlight_fetched l q _).trans ?_
      simp only [inFlight, hworker, Worker.wishes, List.append_assoc, List.singleton_append]
      exact .refl _
    · cases h
  · next o posted hworker =>
    obtain ⟨m, hm, h⟩ := Option.map_eq_some_iff.1 h
    cases h
    exact inFlight_tellStep hworker hm
  · next hworker =>
    obtain ⟨outcomes, henter, h⟩ := Option.map_eq_some_iff.1 h
    cases h
    refine (inFlight_leave { l with outcomes }).trans ?_
    have hperm := (Channel.perm_pending_enter? henter).map request
    simp only [inFlight, hworker, Worker.wishes]
    exact ((hperm.append_right []).append_right l.requests).subperm
  · cases h

/-! ### What the replica does by itself -/

/-- What a step of sending makes of the lane. -/
inductive Sends (l : Lane) (built : List Alert) : List Alert → Lane → Prop where
  /-- All alerts were sent. -/
  | done : Sends l built [] { l with task := .idle }
  /-- The next one was handed over and waits for room. -/
  | waits (a : Alert) (rest : List Alert) :
      Sends l built (a :: rest) { l with task := .sending built (a :: rest) true }
  | sent (a : Alert) (rest : List Alert) (taken : Bool) :
      Sends l built (a :: rest)
        { l with replica := l.replica.sent a taken, task := .sending built rest false }

/-- The next alert is handed over and waits for room, or it is known what became of it. -/
theorem sendStep_cons {l l' : Lane} {w w' : World} {built rest : List Alert} {a : Alert}
    {posted : Bool} (h : l.sendStep w built (a :: rest) posted = some (w', l')) :
    (posted = false ∧ l' = { l with task := .sending built (a :: rest) true }) ∨
      l' = { l with
        replica := l.replica.sent a w.alerts.isOpen, task := .sending built rest false } := by
  rw [sendStep] at h
  dsimp only at h
  split at h
  · split at h
    · cases h
    · cases h
      exact .inr rfl
  · next hposted =>
    split at h
    · next hclosed =>
      cases h
      rw [(Bool.not_eq_true' _).mp hclosed]
      exact .inr rfl
    · next hopen =>
      split at h
      · cases h
        rw [Bool.not_eq_true', Bool.not_eq_false] at hopen
        rw [hopen]
        exact .inr rfl
      · cases h
        exact .inl ⟨Bool.eq_false_iff.2 hposted, rfl⟩

/-- Sending an alert is of the replica and of its metrics alone. -/
theorem sends_of_sendStep {l l' : Lane} {w w' : World} {built left : List Alert} {posted : Bool}
    (h : l.sendStep w built left posted = some (w', l')) : l.Sends built left l' := by
  cases left with
  | nil =>
    rw [sendStep] at h
    split at h
    · cases h
      exact .done
    · cases h
  | cons a rest =>
    rcases sendStep_cons h with ⟨-, rfl⟩ | rfl
    · exact .waits a rest
    · exact .sent a rest _

theorem collect?_eq_some {l l' : Lane} {alerts : List Alert}
    (h : l.collect? = some (alerts, l')) :
    (∃ posted, l.task = .sending alerts [] posted) ∧ l' = { l with task := .idle } := by
  unfold collect? at h
  split at h
  · next posted htask =>
    cases h
    exact ⟨⟨posted, htask⟩, rfl⟩
  · cases h

/-- The replica only touches what is its own. -/
def OfReplica (l l' : Lane) : Prop := ∃ replica task, l' = { l with replica, task }

theorem OfReplica.after {l l' : Lane} {replica : Replica}
    (h : OfReplica { l with replica } l') : l.OfReplica l' := by
  obtain ⟨replica, task, rfl⟩ := h
  exact ⟨replica, task, rfl⟩

theorem ofReplica_evaluate (l : Lane) (w : World) (e : Event) : l.OfReplica (l.evaluate w e) :=
  ⟨_, _, rfl⟩

/-- Loading touches no queue, unless the replica breaks at it. -/
theorem ofReplica_loaded (l : Lane) (w : World) (e : Event)
    (p : Progress (List (String × Definition))) (hlive : (l.loaded w e p).isOver = false) :
    l.OfReplica (l.loaded w e p) := by
  cases p with
  | waiting fetch => exact ⟨l.replica, .loading e fetch, rfl⟩
  | answered answer =>
    exact (ofReplica_evaluate { l with replica := l.replica.load answer } w e).after
  | broken => cases hlive

theorem ofReplica_takeEvent (l : Lane) (w : World) (e : Event)
    (hlive : (l.takeEvent w e).2.isOver = false) : l.OfReplica (l.takeEvent w e).2 := by
  unfold takeEvent at hlive ⊢
  dsimp only at hlive ⊢
  split
  · exact (ofReplica_evaluate { l with replica := l.replica.offered (w.offer e).1 }
      (w.offer e).2 e).after
  · next hphase =>
    rw [hphase] at hlive
    exact (ofReplica_loaded { l with replica := l.replica.offered (w.offer e).1 } _ e _ hlive).after

theorem ofReplica_takeRecord (l : Lane) (w : World) (r : Record)
    (hlive : (l.takeRecord w r).2.isOver = false) : l.OfReplica (l.takeRecord w r).2 := by
  unfold takeRecord at hlive ⊢
  cases hread : l.replica.read w.normalizer r with
  | mk replica event =>
    rw [hread] at hlive
    cases event with
    | some e => exact (ofReplica_takeEvent { l with replica } w e hlive).after
    | none => exact ⟨replica, l.task, rfl⟩

theorem Sends.ofReplica {l l' : Lane} {built left : List Alert} (h : l.Sends built left l') :
    l.OfReplica l' := by
  cases h with
  | done => exact ⟨l.replica, _, rfl⟩
  | waits a rest => exact ⟨l.replica, _, rfl⟩
  | sent a rest taken => exact ⟨_, _, rfl⟩

/-! ### What a move does -/

/-- What does not belong to rules: a lane that differs only there. -/
structure Kept (l l' : Lane) : Prop where
  phase : l'.replica.phase = l.replica.phase
  issued : l'.replica.lastIssued = l.replica.lastIssued
  flight : l'.inFlight.Subperm l.inFlight

theorem kept_finish (l : Lane) (t : Task) : l.Kept (l.finish t) :=
  ⟨rfl, rfl, inFlight_finish l t⟩

theorem kept_evaluate (l : Lane) (w : World) (e : Event) : l.Kept (l.evaluate w e) := by
  obtain ⟨hphase, hissued⟩ := l.replica.kept_evaluate w.clock e
  exact ⟨hphase, hissued, .refl _⟩

theorem kept_takeEvent (l : Lane) (w : World) (e : Event) : l.Kept (l.takeEvent w e).2 := by
  obtain ⟨hphase, hissued⟩ := l.replica.kept_offered (w.offer e).1
  unfold takeEvent
  dsimp only
  split
  · have h := kept_evaluate { l with replica := l.replica.offered (w.offer e).1 } (w.offer e).2 e
    exact ⟨h.phase.trans hphase, h.issued.trans hissued, h.flight⟩
  · unfold Fetch.start Fetch.call
    cases w.offer e |>.2.store.conduct with
    | answers delay failure => exact ⟨hphase, hissued, .refl _⟩
    | breaks =>
      have h := kept_finish { l with replica := l.replica.offered (w.offer e).1 } .broken
      exact ⟨h.phase.trans hphase, h.issued.trans hissued, h.flight⟩

theorem kept_takeRecord (l : Lane) (w : World) (r : Record) : l.Kept (l.takeRecord w r).2 := by
  obtain ⟨hphase, hissued⟩ := l.replica.kept_read w.normalizer r
  unfold takeRecord
  split
  · next replica e hread =>
    rw [hread] at hphase hissued
    have h := kept_takeEvent { l with replica } w e
    exact ⟨h.phase.trans hphase, h.issued.trans hissued, h.flight⟩
  · next replica hread =>
    rw [hread] at hphase hissued
    exact ⟨hphase, hissued, .refl _⟩

theorem kept_sendStep {l l' : Lane} {w w' : World} {built left : List Alert} {posted : Bool}
    (h : l.sendStep w built left posted = some (w', l')) : l.Kept l' := by
  cases sends_of_sendStep h with
  | done => exact ⟨rfl, rfl, .refl _⟩
  | waits a rest => exact ⟨rfl, rfl, .refl _⟩
  | sent a rest taken =>
    obtain ⟨hphase, hissued⟩ := l.replica.kept_sent a taken
    exact ⟨hphase, hissued, .refl _⟩

/-- The worker only touches what is its own. -/
def OfWorker (l l' : Lane) : Prop :=
  ∃ worker requests outcomes, l' = { l with worker, requests, outcomes }

theorem ofWorker_leave (l : Lane) : l.OfWorker l.leave := ⟨.gone, [], l.outcomes.endInput, rfl⟩

theorem ofWorker_dismiss (l : Lane) : l.OfWorker l.dismiss := by
  unfold dismiss
  split
  · exact ⟨.leaving, l.requests, l.outcomes, rfl⟩
  · exact ⟨l.worker, l.requests, l.outcomes, rfl⟩
  · exact ⟨l.worker, l.requests, l.outcomes, rfl⟩
  · exact ofWorker_leave l

theorem ofWorker_fetched (l : Lane) (requests : List FetchRequest) (q : FetchRequest)
    (p : Progress (Option Definition)) : l.OfWorker (({ l with requests } : Lane).fetched q p) := by
  cases p with
  | waiting fetch => exact ⟨.fetching q fetch, requests, l.outcomes, rfl⟩
  | answered answer => exact ⟨.telling ⟨q.seq, q.ruleId, answer⟩ false, requests, l.outcomes, rfl⟩
  | broken => exact ⟨.gone, [], l.outcomes.endInput, rfl⟩

theorem ofWorker_tellStep {l l' : Lane} {o : FetchOutcome} {posted : Bool}
    (h : l.tellStep o posted = some l') : l.OfWorker l' := by
  unfold tellStep at h
  split at h
  · obtain ⟨outcomes, -, rfl⟩ := Option.map_eq_some_iff.1 h
    exact ⟨.idle, l.requests, outcomes, rfl⟩
  · split at h
    · cases h
      exact ofWorker_leave l
    · cases h
      exact ⟨_, l.requests, l.outcomes.send o, rfl⟩

/-- **The worker has its own queues**: a step of it leaves the replica as it is. -/
theorem ofWorker_workerStep {l l' : Lane} {w w' : World} (h : l.workerStep w = some (w', l')) :
    l.OfWorker l' := by
  unfold workerStep at h
  split at h
  · split at h
    · next requests hrequests =>
      cases h
      exact ofWorker_fetched ..
    · split at h
      · cases h
        exact ofWorker_leave l
      · cases h
  · split at h
    · cases h
      exact ofWorker_fetched l l.requests ..
    · cases h
  · obtain ⟨m, hm, h⟩ := Option.map_eq_some_iff.1 h
    cases h
    exact ofWorker_tellStep hm
  · obtain ⟨outcomes, -, h⟩ := Option.map_eq_some_iff.1 h
    cases h
    exact ⟨.gone, [], outcomes.endInput, rfl⟩
  · cases h

/-- So it keeps the phase and the numbers, if it makes up no request. -/
theorem OfWorker.kept {l l' : Lane} (h : l.OfWorker l') (hflight : l'.inFlight.Subperm l.inFlight) :
    l.Kept l' := by
  obtain ⟨worker, requests, outcomes, rfl⟩ := h
  exact ⟨rfl, rfl, hflight⟩

end Lane
end Watchpost
