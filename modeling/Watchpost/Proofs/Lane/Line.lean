import Watchpost.Proofs.Channel
import Watchpost.Proofs.Lane.Serving

/-! The line from a wish to its answer.

A wish stands in the line of the worker, which fetches one definition after the other; its outcome
stands behind the earlier ones until the replica takes it. Nothing is lost on the way as long as
the replica and its worker are there (`Acts.answers`, `Acts.asking`), so outcomes are taken in the
order in which their wishes were made. -/
namespace Watchpost

namespace Lane

/-! ### What stands in line -/

/-- The outcome that the worker has at hand and did not hand over yet. -/
def Worker.answers : Worker → List FetchOutcome
  | .telling o false => [o]
  | .idle | .fetching _ _ | .telling _ true | .leaving | .gone => []

/-- The wish that the worker is about. -/
def Worker.asking : Worker → List FetchRequest
  | .fetching request _ => [request]
  | .idle | .telling _ _ | .leaving | .gone => []

/-- The outcomes that are still to be taken, the oldest first. -/
def answers (l : Lane) : List FetchOutcome := l.outcomes.pending ++ l.worker.answers

/-- The wishes without an outcome, the oldest first. -/
def asking (l : Lane) : List FetchRequest := l.worker.asking ++ l.requests

theorem inFlight_eq (l : Lane) : l.inFlight = l.answers.map request ++ l.asking := by
  have hwishes : l.worker.wishes = l.worker.answers.map request ++ l.worker.asking := by
    cases l.worker with
    | telling o posted => cases posted <;> rfl
    | idle | fetching _ _ | leaving | gone => rfl
  unfold inFlight answers asking
  rw [hwishes, List.map_append, List.append_assoc, List.append_assoc, List.append_assoc]

/-- The wishes that come of what is done. Nobody takes them when the worker is gone. -/
def asks (l : Lane) (a : Act) : List FetchRequest :=
  if l.workerGone then [] else a.wishes l.replica.lastIssued

/-- The outcome that the worker came to in its last step. -/
def answered (l l' : Lane) : List FetchOutcome :=
  match l.worker with
  | .fetching _ _ => l'.worker.answers
  | .idle | .telling _ _ | .leaving | .gone => []

/-- What waits for room among the outcomes when the worker is about something. -/
def Worker.Waits (waiting : List FetchOutcome) : Worker → Prop
  | .telling o true => waiting = [o]
  | .leaving => ∃ o, waiting = [o]
  | .idle | .fetching _ _ | .telling _ false | .gone => waiting = []

/-- Nobody but the worker tells outcomes, and the replica can take them. -/
structure Orderly (l : Lane) : Prop where
  isOpen : l.outcomes.isOpen = true
  waits : l.worker.Waits l.outcomes.waiting

/-! ### What leaves the worker alone -/

/-- The worker and its line are as before. -/
structure SameWorker (l l' : Lane) : Prop where
  worker : l'.worker = l.worker
  requests : l'.requests = l.requests
  outcomes : l'.outcomes = l.outcomes

section
variable {l l' : Lane}

theorem OfReplica.sameWorker (h : l.OfReplica l') : l.SameWorker l' := by
  obtain ⟨replica, task, rfl⟩ := h
  exact ⟨rfl, rfl, rfl⟩

theorem SameWorker.answers (h : l.SameWorker l') : l'.answers = l.answers := by
  unfold Lane.answers
  rw [h.worker, h.outcomes]

theorem SameWorker.asking (h : l.SameWorker l') : l'.asking = l.asking := by
  unfold Lane.asking
  rw [h.worker, h.requests]

theorem SameWorker.orderly (h : l.SameWorker l') (horder : l.Orderly) : l'.Orderly := by
  obtain ⟨hopen, hwaits⟩ := horder
  refine ⟨?_, ?_⟩
  · rw [h.outcomes]
    exact hopen
  · rw [h.worker, h.outcomes]
    exact hwaits

theorem worker_takeUpdate (l : Lane) (u : RuleUpdate) :
    (l.takeUpdate u).worker = l.worker ∧ (l.takeUpdate u).outcomes = l.outcomes := by
  unfold takeUpdate
  split
  · exact ⟨rfl, rfl⟩
  · split <;> exact ⟨rfl, rfl⟩

/-- A worker that goes on with what it was about came to no outcome. -/
theorem answered_of_same (h : l'.worker = l.worker) : l.answered l' = [] := by
  unfold answered
  rw [h]
  cases l.worker <;> rfl

end

/-- A lane that is over stays so. -/
theorem Happens.live {l l' : Lane} {w w' : World} {a : Act} (h : Happens w l a w' l')
    (hlive : l'.isOver = false) : l.isOver = false := by
  have hidle (h : l.isIdle = true) : l.isOver = false := (not_isBusy h).2
  cases h with
  | update u h => exact hidle h
  | outcome h hnext => exact hidle h
  | ended h hnext => exact hidle h
  | record r h => exact hidle h
  | event e h => exact hidle h
  | load htask hdue hp =>
    unfold isOver
    rw [htask]
  | send htask hsend =>
    unfold isOver
    rw [htask]
  | collect hcollect =>
    obtain ⟨⟨posted, htask⟩, -⟩ := collect?_eq_some hcollect
    unfold isOver
    rw [htask]
  | worker hstep =>
    obtain ⟨worker, requests, outcomes, rfl⟩ := ofWorker_workerStep hstep
    exact hlive
  | aside records updates loops looking => exact hlive
  | world w' => exact hlive

theorem Acts.live {l l' : Lane} {a : Act} (h : Acts l a l') (hlive : l'.isOver = false) :
    l.isOver = false := by
  cases h with
  | happens h => exact h.live hlive
  | finish hidle => exact (not_isBusy hidle).2
  | dismiss =>
    obtain ⟨worker, requests, outcomes, heq⟩ := ofWorker_dismiss l
    rw [heq] at hlive
    exact hlive

/-- What an act means for the worker and its line, as long as the lane is not over. -/
inductive Concerns (l : Lane) : Act → Lane → Prop where
  | update (u : RuleUpdate) : Concerns l (.update u) (l.takeUpdate u)
  | outcome {o : FetchOutcome} {outcomes : Channel FetchOutcome}
      (hnext : l.outcomes.next? = some (some o, outcomes)) :
      Concerns l (.outcome o) { l with outcomes, replica := l.replica.takeOutcome o }
  | ended {outcomes : Channel FetchOutcome} (hnext : l.outcomes.next? = some (none, outcomes)) :
      Concerns l .other { l with outcomes }
  | step {l' : Lane} {w w' : World} (h : l.workerStep w = some (w', l')) : Concerns l .other l'
  | dismiss : Concerns l .other l.dismiss
  | nothing {a : Act} {l' : Lane} (hupdate : a.update? = none) (houtcome : a.outcome? = none)
      (hsame : l.SameWorker l') : Concerns l a l'

theorem Happens.concerns {l l' : Lane} {w w' : World} {a : Act} (h : Happens w l a w' l')
    (hlive : l'.isOver = false) : l.Concerns a l' := by
  cases h with
  | update u hidle => exact .update u
  | outcome hidle hnext => exact .outcome hnext
  | ended hidle hnext => exact .ended hnext
  | record r hidle => exact .nothing rfl rfl (ofReplica_takeRecord l _ r hlive).sameWorker
  | event e hidle => exact .nothing rfl rfl (ofReplica_takeEvent l _ e hlive).sameWorker
  | @load _ e fetch htask hdue p s hp =>
    have hsame := (ofReplica_loaded l w e p hlive).sameWorker
    cases p <;> exact .nothing rfl rfl hsame
  | send htask hsend => exact .nothing rfl rfl (sends_of_sendStep hsend).ofReplica.sameWorker
  | collect hcollect =>
    obtain ⟨-, rfl⟩ := collect?_eq_some hcollect
    exact .nothing rfl rfl ⟨rfl, rfl, rfl⟩
  | worker hstep => exact .step hstep
  | aside records updates loops looking => exact .nothing rfl rfl ⟨rfl, rfl, rfl⟩
  | world w' => exact .nothing rfl rfl ⟨rfl, rfl, rfl⟩

theorem Acts.concerns {l l' : Lane} {a : Act} (h : Acts l a l') (hlive : l'.isOver = false) :
    l.Concerns a l' := by
  cases h with
  | happens h => exact h.concerns hlive
  | finish hidle => cases hlive
  | dismiss => exact .dismiss

/-! ### The worker's steps -/

/-- The worker went on, and nothing is lost unless it is gone. -/
structure Passes (l l' : Lane) : Prop where
  orderly : l'.Orderly
  answers : l'.answers = l.answers ++ l.answered l'
  asking : l'.workerGone = false → (l.answered l').map request ++ l'.asking = l.asking

section
variable {l l' : Lane}

/-- When nothing waits for room, a worker that goes takes no outcome with it. -/
theorem answers_leave (hwaiting : l.outcomes.waiting = []) : l.leave.answers = l.outcomes.pending := by
  simp [answers, leave, Worker.answers, Channel.pending, Channel.endInput, Channel.withdraw,
    hwaiting]

theorem orderly_leave (hopen : l.outcomes.isOpen = true) : l.leave.Orderly := ⟨hopen, rfl⟩

theorem answered_leave (l m : Lane) : l.answered m.leave = [] := by
  unfold answered
  cases l.worker <;> rfl

/-- The first call of a fetch is made, or brings the worker down. -/
theorem passes_start {q : FetchRequest} {requests : List FetchRequest} (hworker : l.worker = .idle)
    (hrequests : l.requests = q :: requests) (horder : l.Orderly) (w : World) :
    l.Passes (({ l with requests } : Lane).fetched q (Fetch.start w.policy w.now w.store).1) := by
  have hwaiting := horder.waits
  have hanswers : l.answers = l.outcomes.pending := by simp [answers, hworker, Worker.answers]
  have hanswered (m : Lane) : l.answered m = [] := by simp [answered, hworker]
  rw [hworker] at hwaiting
  unfold Fetch.start Fetch.call
  cases w.store.conduct with
  | answers delay failure =>
    refine ⟨⟨horder.isOpen, hwaiting⟩, ?_, fun _ => ?_⟩
    · rw [hanswered, hanswers]
      rfl
    · simp [hanswered, asking, hworker, hrequests, fetched, Worker.asking]
  | breaks =>
    refine ⟨orderly_leave horder.isOpen, ?_, fun h => by cases h⟩
    rw [hanswered, hanswers, List.append_nil]
    exact answers_leave (l := { l with requests }) hwaiting

/-- A fetch goes on, is answered or brings the worker down. -/
theorem passes_fetched {q : FetchRequest} {fetch : Fetch} (hworker : l.worker = .fetching q fetch)
    (horder : l.Orderly) (p : Progress (Option Definition)) : l.Passes (l.fetched q p) := by
  have hwaiting := horder.waits
  have hanswers : l.answers = l.outcomes.pending := by simp [answers, hworker, Worker.answers]
  have hanswered (m : Lane) : l.answered m = m.worker.answers := by simp [answered, hworker]
  rw [hworker] at hwaiting
  cases p with
  | waiting next =>
    refine ⟨⟨horder.isOpen, hwaiting⟩, ?_, fun _ => ?_⟩
    · rw [hanswered, hanswers]
      rfl
    · simp [hanswered, asking, hworker, fetched, Worker.asking, Worker.answers]
  | answered answer =>
    refine ⟨⟨horder.isOpen, hwaiting⟩, ?_, fun _ => ?_⟩
    · rw [hanswered, hanswers]
      rfl
    · simp [hanswered, asking, hworker, fetched, Worker.asking, Worker.answers, request]
  | broken =>
    refine ⟨orderly_leave horder.isOpen, ?_, fun h => by cases h⟩
    rw [hanswered, hanswers]
    exact (answers_leave hwaiting).trans (List.append_nil _).symm

/-- What waits for room alone is queued when there is room. -/
theorem queued_of_enter? {outcomes : Channel FetchOutcome} {o : FetchOutcome}
    (hwaiting : l.outcomes.waiting = [o]) (h : l.outcomes.enter? (fun _ => true) = some outcomes) :
    outcomes.isOpen = l.outcomes.isOpen ∧ outcomes.waiting = [] ∧
      outcomes.pending = l.outcomes.pending := by
  obtain ⟨x, hputs, hperm⟩ := Channel.puts_of_enter? h
  rw [hwaiting] at hperm
  obtain ⟨rfl, hnil⟩ := List.cons.inj (List.singleton_perm.1 hperm)
  refine ⟨hputs.isOpen, hnil.symm, ?_⟩
  simp [Channel.pending, hputs.queued, ← hnil, hwaiting]

/-- An outcome is handed over, or finds room. -/
theorem passes_tellStep {o : FetchOutcome} {posted : Bool} (hworker : l.worker = .telling o posted)
    (horder : l.Orderly) (h : l.tellStep o posted = some l') : l.Passes l' := by
  have hwaits := horder.waits
  have hanswered (m : Lane) : l.answered m = [] := by simp [answered, hworker]
  rw [hworker] at hwaits
  unfold tellStep at h
  cases posted with
  | true =>
    obtain ⟨outcomes, henter, rfl⟩ := Option.map_eq_some_iff.1 h
    obtain ⟨hopen, hwaiting, hpending⟩ := queued_of_enter? hwaits henter
    refine ⟨⟨hopen.trans horder.isOpen, hwaiting⟩, ?_, fun _ => ?_⟩
    · simp [hanswered, answers, hworker, Worker.answers, hpending]
    · simp [hanswered, asking, hworker, Worker.asking]
  | false =>
    simp only [Bool.false_eq_true, if_false, horder.isOpen, Bool.not_true, Option.some.injEq] at h
    subst h
    -- Nobody waits in front of it, so with or without room it comes last.
    have hwaiting : l.outcomes.waiting = [] := hwaits
    have hputs := (l.outcomes.puts_send o).1
    have hrest := (l.outcomes.puts_send o).2
    have hpending := l.outcomes.pending_send o (.inl hwaiting)
    rw [hwaiting] at hrest
    have hstill : (if l.outcomes.hasRoom then Worker.idle else .telling o true).answers = [] ∧
        (if l.outcomes.hasRoom then Worker.idle else .telling o true).asking = [] := by
      split <;> exact ⟨rfl, rfl⟩
    refine ⟨⟨hputs.isOpen.trans horder.isOpen, ?_⟩, ?_, fun _ => ?_⟩
    · dsimp only
      split at hrest <;> simp [*, Worker.Waits]
    · unfold answers
      dsimp only
      rw [hanswered, hpending, hstill.1, hworker]
      simp only [Worker.answers, List.append_nil]
    · unfold asking
      dsimp only
      rw [hanswered, hstill.2, hworker]
      rfl

/-- **Nothing is lost in a step of the worker**, unless it brings the worker down. -/
theorem passes_workerStep {w w' : World} (horder : l.Orderly) (hlive : l.isOver = false)
    (h : l.workerStep w = some (w', l')) : l.Passes l' := by
  unfold workerStep at h
  split at h
  · next hworker =>
    split at h
    · next q requests hrequests =>
      cases h
      exact passes_start hworker hrequests horder w
    · rw [hlive] at h
      cases h
  · next q fetch hworker =>
    split at h
    · cases h
      exact passes_fetched hworker horder _
    · cases h
  · next o posted hworker =>
    obtain ⟨m, hm, h⟩ := Option.map_eq_some_iff.1 h
    cases h
    exact passes_tellStep hworker horder hm
  · next hworker =>
    obtain ⟨outcomes, henter, h⟩ := Option.map_eq_some_iff.1 h
    cases h
    have hwaits := horder.waits
    rw [hworker] at hwaits
    obtain ⟨o, hwaiting⟩ := hwaits
    obtain ⟨hopen, hnil, hpending⟩ := queued_of_enter? hwaiting henter
    refine ⟨orderly_leave (l := { l with outcomes }) (hopen.trans horder.isOpen), ?_,
      fun h => by cases h⟩
    rw [answered_leave, answers_leave (l := { l with outcomes }) hnil, hpending]
    simp [answers, hworker, Worker.answers]
  · cases h

end

/-! ### All moves -/

section
variable {l l' : Lane} {a : Act}

/-- **Outcomes are taken in the order in which the worker came to them**, as long as it does not go
with one at hand. -/
theorem Acts.answers (h : Acts l a l') (horder : l.Orderly) (hlive : l'.isOver = false)
    (hkeeps : ∀ o, l.worker = .telling o false → l'.workerGone = false) :
    l'.Orderly ∧ a.outcome?.toList ++ l'.answers = l.answers ++ l.answered l' := by
  have hover := h.live hlive
  cases h.concerns hlive with
  | update u =>
    obtain ⟨hworker, houtcomes⟩ := worker_takeUpdate l u
    refine ⟨⟨?_, ?_⟩, ?_⟩
    · rw [houtcomes]
      exact horder.isOpen
    · rw [hworker, houtcomes]
      exact horder.waits
    · rw [answered_of_same hworker]
      simp [Lane.answers, Act.outcome?, hworker, houtcomes]
  | @outcome o outcomes hnext =>
    refine ⟨⟨(Channel.isOpen_of_next? hnext).trans horder.isOpen, ?_⟩, ?_⟩
    · rw [(Channel.queued_of_next? hnext).2]
      exact horder.waits
    · have hnone : l.answered { l with outcomes, replica := l.replica.takeOutcome o } = [] :=
        answered_of_same rfl
      rw [hnone]
      simp [Lane.answers, Act.outcome?, Channel.pending_of_next? hnext]
  | @ended outcomes hnext =>
    refine ⟨⟨(Channel.isOpen_of_next? hnext).trans horder.isOpen, ?_⟩, ?_⟩
    · rw [(Channel.queued_of_ended hnext).2.2]
      exact horder.waits
    · have hnone : l.answered { l with outcomes } = [] := answered_of_same rfl
      rw [hnone]
      simp [Lane.answers, Act.outcome?, Channel.pending_of_ended hnext]
  | step hstep =>
    have hpasses := passes_workerStep horder hover hstep
    exact ⟨hpasses.orderly, hpasses.answers⟩
  | dismiss =>
    -- What waits for room is still handed over; what is at hand would be lost.
    have hwaits := horder.waits
    unfold Lane.dismiss at hkeeps ⊢
    cases hworker : l.worker with
    | telling o posted =>
      rw [hworker] at hwaits
      cases posted with
      | true =>
        refine ⟨⟨horder.isOpen, o, hwaits⟩, ?_⟩
        simp [Lane.answers, answered, Act.outcome?, hworker, Worker.answers]
      | false =>
        rw [hworker] at hkeeps
        cases hkeeps o rfl
    | leaving | gone => exact ⟨horder, by rw [answered_of_same rfl]; simp [Act.outcome?]⟩
    | idle | fetching q fetch =>
      rw [hworker] at hwaits
      refine ⟨orderly_leave horder.isOpen, ?_⟩
      rw [answered_leave, answers_leave hwaits]
      simp [Lane.answers, Act.outcome?, hworker, Worker.answers]
  | nothing hupdate houtcome hsame =>
    refine ⟨hsame.orderly horder, ?_⟩
    rw [answered_of_same hsame.worker, houtcome, hsame.answers]
    exact (List.append_nil _).symm

/-- A worker that is gone stays so. -/
theorem Acts.gone (h : Acts l a l') (hlive : l'.isOver = false) (hgone : l.workerGone = true) :
    l'.workerGone = true := by
  have hsame (hworker : l'.worker = l.worker) : l'.workerGone = true := by
    unfold workerGone
    rw [hworker]
    exact hgone
  have hworker : l.worker = .gone := by
    unfold workerGone at hgone
    split at hgone
    · assumption
    · cases hgone
  cases h.concerns hlive with
  | update u => exact hsame (worker_takeUpdate l u).1
  | outcome hnext => exact hsame rfl
  | ended hnext => exact hsame rfl
  | step hstep =>
    unfold workerStep at hstep
    rw [hworker] at hstep
    cases hstep
  | dismiss =>
    unfold Lane.dismiss
    rw [hworker]
    exact hgone
  | nothing hupdate houtcome same => exact hsame same.worker

theorem asking_takeUpdate (l : Lane) (u : RuleUpdate) :
    (l.takeUpdate u).asking = l.asking ++ l.asks (.update u) := by
  obtain ⟨id, action⟩ := u
  cases action with
  | delete =>
    have hasks : l.asks (.update ⟨id, .delete⟩) = [] := by
      unfold asks
      split <;> rfl
    rw [hasks, List.append_nil]
    rfl
  | upsert =>
    unfold takeUpdate asks
    simp only [Replica.update]
    split
    · exact (List.append_nil _).symm
    · exact (List.append_assoc ..).symm

/-- **Wishes are fulfilled in the order in which they were made**, as long as the worker stays. -/
theorem Acts.asking (h : Acts l a l') (horder : l.Orderly) (hlive : l'.isOver = false)
    (hworker : l'.workerGone = l.workerGone) :
    (l.answered l').map request ++ l'.asking = l.asking ++ l.asks a := by
  have hover := h.live hlive
  have hstays (hnone : l.answered l' = []) (hsame : l'.asking = l.asking) (hasks : l.asks a = []) :
      (l.answered l').map request ++ l'.asking = l.asking ++ l.asks a := by
    rw [hnone, hsame, hasks, List.append_nil]
    rfl
  have hother (l : Lane) : l.asks .other = [] := by
    unfold asks
    split <;> rfl
  cases h.concerns hlive with
  | update u =>
    rw [answered_of_same (worker_takeUpdate l u).1]
    exact asking_takeUpdate l u
  | outcome hnext =>
    refine hstays (answered_of_same rfl) rfl ?_
    unfold asks
    split <;> rfl
  | ended hnext => exact hstays (answered_of_same rfl) rfl (hother l)
  | step hstep =>
    have hgone : l.workerGone = false := by
      unfold workerGone
      split
      · next hgone =>
        unfold workerStep at hstep
        rw [hgone] at hstep
        cases hstep
      · rfl
    rw [hother, List.append_nil]
    exact (passes_workerStep horder hover hstep).asking (hworker.trans hgone)
  | dismiss =>
    have hkept : l.dismiss.workerGone = l.workerGone := hworker
    have hanswered : l.answered l.dismiss = [] ∧ l.dismiss.asking = l.asking := by
      unfold Lane.dismiss at hkept ⊢
      unfold answered
      cases hw : l.worker with
      | telling o posted =>
        rw [hw] at hkept
        cases posted with
        | true => simp [Lane.asking, hw, Worker.asking]
        | false => simp [workerGone, hw, leave] at hkept
      | leaving | gone => exact ⟨rfl, rfl⟩
      | idle | fetching q fetch =>
        rw [hw] at hkept
        simp [workerGone, hw, leave] at hkept
    exact hstays hanswered.1 hanswered.2 (hother l)
  | nothing hupdate houtcome hsame =>
    refine hstays (answered_of_same hsame.worker) hsame.asking ?_
    unfold asks
    cases a with
    | update u => cases hupdate
    | outcome _ | load _ | other => split <;> rfl

/-- **What is under way keeps its order**: what is taken leaves it at the front, and wishes come in
at the end. -/
theorem Acts.flight (h : Acts l a l') (horder : l.Orderly) (hlive : l'.isOver = false)
    (hworker : l'.workerGone = l.workerGone) :
    l'.Orderly ∧
      a.outcome?.toList.map request ++ l'.inFlight = l.inFlight ++ l.asks a := by
  have hkeeps : ∀ o, l.worker = .telling o false → l'.workerGone = false := by
    intro o ho
    rw [hworker, workerGone, ho]
  obtain ⟨horder', hanswers⟩ := h.answers horder hlive hkeeps
  have hasking := h.asking horder hlive hworker
  refine ⟨horder', ?_⟩
  calc a.outcome?.toList.map request ++ l'.inFlight
      = (a.outcome?.toList ++ l'.answers).map request ++ l'.asking := by
        rw [inFlight_eq, List.map_append, List.append_assoc]
    _ = l.answers.map request ++ ((l.answered l').map request ++ l'.asking) := by
        rw [hanswers, List.map_append, List.append_assoc]
    _ = l.inFlight ++ l.asks a := by
        rw [hasking, inFlight_eq, List.append_assoc]

end

end Lane
end Watchpost
