import Watchpost.Lane.Turn
import Watchpost.Proofs.Channel
import Watchpost.Proofs.Lane.Trace

/-! Lanes that take messages by themselves.

Others put updates and records into the channels of the lane, wait for room there or give up,
while its replica and its worker go on; each step may be made in another world. Such a way is a
run. The replica looks for updates at moments of its own: when a record is at hand, every update
that was put in before the last of these moments has been taken (`Serves.exists_served`), and what
was put in since has to wait for the next one. -/
namespace Watchpost

namespace Lane

/-! ### Putting in -/

/-- What is put into a channel of a lane. -/
inductive Put where
  | update (u : RuleUpdate)
  | record (r : Record)

def Put.update? : Put → Option RuleUpdate
  | update u => some u
  | record _ => none

def Put.record? : Put → Option Record
  | record r => some r
  | update _ => none

/-- The updates that were put in, the oldest first. -/
def updatesPut (puts : List Put) : List RuleUpdate := puts.filterMap Put.update?

/-- The records that were put in, the oldest first. -/
def recordsPut (puts : List Put) : List Record := puts.filterMap Put.record?

/-- What a replica comes by in a step. An update was given a number. -/
inductive Taken where
  | update (u : RuleUpdate) (seq : UInt64)
  /-- It looked for updates and there was none. -/
  | noUpdate
  | record (r : Record)

/-- Whether the replica looks for updates in its next step. -/
def looksForUpdates (l : Lane) : Bool := l.isIdle && l.looking == .updates

def Taken.isLook : Taken → Bool
  | update _ _ | noUpdate => true
  | record _ => false

/-- What a replica comes by that looks for a message. -/
def choice? (l : Lane) : Option Taken :=
  match l.looking with
  | .updates =>
    match l.updates.next? with
    | some (some u, _) => some (.update u (l.replica.lastIssued + 1))
    | some (none, _) | none => some .noUpdate
  | .outcomes => none
  | .records =>
    match l.records.next? with
    | some (some r, _) => some (.record r)
    | some (none, _) | none => none

/-- What the replica comes by in its next step, if it comes by something. -/
def takes? (l : Lane) : Option Taken := if l.isIdle then l.choice? else none

/-- A lane that serves, and what was put into its channels so far: before its replica last looked
for updates, and since. -/
inductive Serves (r : Replica) : List Put → List Put → Lane → Prop where
  | start {l : Lane} (h : Fresh r l) (hupdates : l.updates.queued = [])
      (hrecords : l.records.queued = []) : Serves r [] [] l
  /-- The replica looks for updates, and whatever has been put in so far was put in before that. -/
  | look {early late : List Put} {l l' : Lane} {w w' : World} (h : Serves r early late l)
      (hlooks : l.looksForUpdates = true) (hstep : l.replicaStep w = some (w', l')) :
      Serves r (early ++ late) [] l'
  | replica {early late : List Put} {l l' : Lane} {w w' : World} (h : Serves r early late l)
      (hlooks : l.looksForUpdates = false) (hstep : l.replicaStep w = some (w', l')) :
      Serves r early late l'
  | worker {early late : List Put} {l l' : Lane} {w w' : World} (h : Serves r early late l)
      (hstep : l.workerStep w = some (w', l')) : Serves r early late l'
  | dismiss {early late : List Put} {l : Lane} (h : Serves r early late l) :
      Serves r early late l.dismiss
  /-- It is told to stop, and looks for that before it takes a message. -/
  | cancel {early late : List Put} {l : Lane} (h : Serves r early late l)
      (hidle : l.isIdle = true) : Serves r early late (l.finish .done)
  | update {early late : List Put} {l : Lane} (h : Serves r early late l) (u : RuleUpdate)
      {updates : Channel RuleUpdate} (hput : updates.queued = l.updates.queued ++ [u]) :
      Serves r early (late ++ [.update u]) { l with updates }
  | record {early late : List Put} {l : Lane} (h : Serves r early late l) (m : Record)
      {records : Channel Record} (hput : records.queued = l.records.queued ++ [m]) :
      Serves r early (late ++ [.record m]) { l with records }
  /-- Somebody begins to wait for room, gives up or goes. -/
  | senders {early late : List Put} {l : Lane} (h : Serves r early late l)
      {updates : Channel RuleUpdate} {records : Channel Record}
      (hupdates : updates.queued = l.updates.queued) (hrecords : records.queued = l.records.queued) :
      Serves r early late { l with updates, records }

/-! ### The replica's steps -/

/-- What the replica does in its next step, and what it comes by. -/
inductive Moves (l : Lane) : Option Taken → Lane → Prop where
  | update {u : RuleUpdate} {updates : Channel RuleUpdate} (hidle : l.isIdle = true)
      (hlooking : l.looking = .updates) (hnext : l.updates.next? = some (some u, updates)) :
      Moves l (some (.update u (l.replica.lastIssued + 1))) ({ l with updates }.takeUpdate u)
  | noUpdates {updates : Channel RuleUpdate} (hidle : l.isIdle = true)
      (hlooking : l.looking = .updates) (hnext : l.updates.next? = some (none, updates)) :
      Moves l (some .noUpdate) { l with updates }
  /-- There is no update at the moment. -/
  | noUpdate (hidle : l.isIdle = true) (hlooking : l.looking = .updates)
      (hnone : l.updates.queued = []) : Moves l (some .noUpdate) l.lookOn
  | outcome {o : FetchOutcome} {outcomes : Channel FetchOutcome} (hidle : l.isIdle = true)
      (hnext : l.outcomes.next? = some (some o, outcomes)) :
      Moves l none { l with
        outcomes, looking := .updates, replica := l.replica.takeOutcome o }
  | noOutcomes {outcomes : Channel FetchOutcome} (hidle : l.isIdle = true)
      (hnext : l.outcomes.next? = some (none, outcomes)) :
      Moves l none { l with outcomes, looking := .updates }
  /-- There is no outcome, or no record, at the moment. -/
  | lookOn (hidle : l.isIdle = true) (hlooking : l.looking ≠ .updates) : Moves l none l.lookOn
  /-- A record is only taken behind a look that found no update. -/
  | record {r : Record} {records : Channel Record} {w : World} (hidle : l.isIdle = true)
      (hlooking : l.looking = .records) (hnext : l.records.next? = some (some r, records)) :
      Moves l (some (.record r)) ({ l with records, looking := .updates }.takeRecord w r).2
  /-- After the last record the replica stops, whatever else there is. -/
  | noRecords {records : Channel Record} (hidle : l.isIdle = true) (hlooking : l.looking = .records)
      (hnext : l.records.next? = some (none, records)) : Moves l none (l.finish .done)
  | load {w : World} {e : Event} {fetch : Fetch} {p : Progress (List (String × Definition))}
      {s : Store} (htask : l.task = .loading e fetch) (hdue : fetch.due ≤ w.now)
      (hp : fetch.resume w.policy "*" Store.all w.now w.store = (p, s)) :
      Moves l none (l.loaded w e p)
  | send {l' : Lane} {w w' : World} {built left : List Alert} {posted : Bool}
      (htask : l.task = .sending built left posted)
      (h : l.sendStep w built left posted = some (w', l')) : Moves l none l'

/-- An idle replica does what it finds, and finds one thing at a time. -/
theorem moves_of_find? {l l' : Lane} {w w' : World} (hidle : l.isIdle = true)
    (h : l.find? w = some (w', l')) : l.Moves l.choice? l' := by
  unfold find? at h
  split at h
  · next hlooking =>
    split at h
    · next u updates hnext =>
      have hchoice : l.choice? = some (.update u (l.replica.lastIssued + 1)) := by
        rw [choice?, hlooking, hnext]
      cases h
      rw [hchoice]
      exact .update hidle hlooking hnext
    · next hnext =>
      have hchoice : l.choice? = some .noUpdate := by rw [choice?, hlooking, hnext]
      cases h
      rw [hchoice]
      exact .noUpdates hidle hlooking hnext
    · cases h
  · next hlooking =>
    have hchoice : l.choice? = none := by rw [choice?, hlooking]
    rw [hchoice]
    split at h
    · next hnext =>
      cases h
      exact .outcome hidle hnext
    · next hnext =>
      cases h
      exact .noOutcomes hidle hnext
    · cases h
  · next hlooking =>
    split at h
    · next r records hnext =>
      have hchoice : l.choice? = some (.record r) := by rw [choice?, hlooking, hnext]
      have hmove : l.Moves (some (.record r))
          ({ l with records, looking := .updates }.takeRecord w r).2 :=
        .record hidle hlooking hnext
      rw [Option.some.inj h] at hmove
      rw [hchoice]
      exact hmove
    · next hnext =>
      have hchoice : l.choice? = none := by rw [choice?, hlooking, hnext]
      cases h
      rw [hchoice]
      exact .noRecords hidle hlooking hnext
    · cases h

/-- Where nothing is found the replica looks on. -/
theorem moves_lookOn {l : Lane} {w : World} (hidle : l.isIdle = true) (h : l.find? w = none) :
    l.Moves l.choice? l.lookOn := by
  have hempty := isSome_find? l w
  rw [h] at hempty
  unfold choice?
  cases hlooking : l.looking with
  | updates =>
    rw [hlooking] at hempty
    have hnone : l.updates.next? = none := Channel.next?_eq_none hempty.symm
    rw [hnone]
    exact .noUpdate hidle hlooking (Channel.queued_of_next?_eq_none hnone)
  | outcomes => exact .lookOn hidle (by rw [hlooking]; decide)
  | records =>
    rw [hlooking] at hempty
    have hnone : l.records.next? = none := Channel.next?_eq_none hempty.symm
    rw [hnone]
    exact .lookOn hidle (by rw [hlooking]; decide)

/-- **Each step of a replica is one look or goes on with what it began.** -/
theorem moves_of_replicaStep {l l' : Lane} {w w' : World} (h : l.replicaStep w = some (w', l')) :
    l.Moves l.takes? l' := by
  unfold replicaStep at h
  unfold takes?
  split at h
  · next htask =>
    have hidle : l.isIdle = true := by
      unfold isIdle
      rw [htask]
    rw [hidle]
    split at h
    · unfold look at h
      cases hfind : l.find? w with
      | some found =>
        rw [hfind] at h
        cases h
        exact moves_of_find? hidle hfind
      | none =>
        rw [hfind] at h
        cases h
        exact moves_lookOn hidle hfind
    · cases h
  · next e fetch htask =>
    unfold isIdle
    rw [htask]
    unfold loadStep at h
    split at h
    · next hdue =>
      generalize hp : fetch.resume w.policy "*" Store.all w.now w.store = r at h
      obtain ⟨p, s⟩ := r
      cases h
      exact .load htask hdue hp
    · cases h
  · next htask =>
    unfold isIdle
    rw [htask]
    exact .send htask h
  · cases h
  · cases h

/-- Who looks for a record has looked for updates. -/
theorem looking_ne_updates {l : Lane} (h : l.looking = .records) : l.looking ≠ .updates := by
  rw [h]
  decide

/-- A record is taken by a replica that looks for one. -/
theorem replicaStep_record {l : Lane} {w : World} {r : Record} {records : Channel Record}
    (htask : l.task = .idle) (hloops : l.loops = true) (hlooking : l.looking = .records)
    (hrecords : l.records.next? = some (some r, records)) :
    l.replicaStep w = some ({ l with records, looking := .updates }.takeRecord w r) := by
  unfold replicaStep look find?
  rw [htask, hloops, hlooking, hrecords]
  rfl

/-! ### Queues -/

/-- Whether an event is at hand. -/
def isBusy (l : Lane) : Bool :=
  match l.task with
  | .loading _ _ | .sending _ _ _ => true
  | .idle | .done | .broken => false

theorem isBusy_of_loading {l : Lane} {e : Event} {fetch : Fetch} (h : l.task = .loading e fetch) :
    l.isBusy = true := by
  unfold isBusy
  rw [h]

theorem isBusy_of_sending {l : Lane} {built left : List Alert} {posted : Bool}
    (h : l.task = .sending built left posted) : l.isBusy = true := by
  unfold isBusy
  rw [h]

/-- The queues are as before, unless the lane is over. -/
def SameQueues (l l' : Lane) : Prop :=
  l'.isOver = false → l'.updates = l.updates ∧ l'.records = l.records

/-- An update may make a request, which is in a queue of the worker. -/
theorem sameQueues_takeUpdate (l : Lane) (u : RuleUpdate) : l.SameQueues (l.takeUpdate u) := by
  unfold takeUpdate
  split
  · exact fun _ => ⟨rfl, rfl⟩
  · split <;> exact fun _ => ⟨rfl, rfl⟩

theorem looking_takeUpdate (l : Lane) (u : RuleUpdate) : (l.takeUpdate u).looking = l.looking := by
  unfold takeUpdate
  split
  · rfl
  · split <;> rfl

theorem OfReplica.looking {l l' : Lane} (h : l.OfReplica l') : l'.looking = l.looking := by
  obtain ⟨replica, task, rfl⟩ := h
  rfl

theorem looking_loaded (l : Lane) (w : World) (e : Event)
    (p : Progress (List (String × Definition))) : (l.loaded w e p).looking = l.looking := by
  cases p <;> rfl

theorem looking_takeEvent (l : Lane) (w : World) (e : Event) :
    (l.takeEvent w e).2.looking = l.looking := by
  unfold takeEvent
  dsimp only
  split
  · rfl
  · exact looking_loaded ..

theorem looking_takeRecord (l : Lane) (w : World) (r : Record) :
    (l.takeRecord w r).2.looking = l.looking := by
  unfold takeRecord
  split
  · exact looking_takeEvent ..
  · rfl

theorem OfReplica.sameQueues {l l' : Lane} (h : l.OfReplica l') : l.SameQueues l' := by
  obtain ⟨replica, task, rfl⟩ := h
  exact fun _ => ⟨rfl, rfl⟩

theorem sameQueues_loaded (l : Lane) (w : World) (e : Event)
    (p : Progress (List (String × Definition))) : l.SameQueues (l.loaded w e p) := fun hlive =>
  (ofReplica_loaded l w e p hlive).sameQueues hlive

theorem sameQueues_takeEvent (l : Lane) (w : World) (e : Event) :
    l.SameQueues (l.takeEvent w e).2 := fun hlive =>
  (ofReplica_takeEvent l w e hlive).sameQueues hlive

theorem sameQueues_takeRecord (l : Lane) (w : World) (r : Record) :
    l.SameQueues (l.takeRecord w r).2 := fun hlive =>
  (ofReplica_takeRecord l w r hlive).sameQueues hlive

theorem sameQueues_sendStep {l l' : Lane} {w w' : World} {built left : List Alert} {posted : Bool}
    (h : l.sendStep w built left posted = some (w', l')) : l.SameQueues l' :=
  (sends_of_sendStep h).ofReplica.sameQueues

theorem not_isBusy {l : Lane} (h : l.isIdle = true) : l.isBusy = false ∧ l.isOver = false := by
  unfold isBusy isOver
  rw [task_of_isIdle h]
  exact ⟨rfl, rfl⟩

theorem isBusy_lookOn {l : Lane} (h : l.isIdle = true) : l.lookOn.isBusy = false := (not_isBusy h).1

theorem not_isIdle {l : Lane} (h : l.isBusy = true) : l.isIdle = false := by
  cases hidle : l.isIdle with
  | false => rfl
  | true =>
    rw [(not_isBusy hidle).1] at h
    cases h

theorem isOver_of_isBusy {l : Lane} (h : l.isBusy = true) : l.isOver = false := by
  unfold isBusy at h
  unfold isOver
  split at h
  · next htask => rw [htask]
  · next htask => rw [htask]
  · cases h
  · cases h
  · cases h

/-! ### What was taken -/

/-- Whether the replica is behind a look that found no update: it looks for something else, or has
an event at hand. -/
def hasLooked (l : Lane) : Prop := l.isBusy = true ∨ l.looking ≠ .updates

/-- What is known of a lane that serves, and of what was put in before the replica last looked for
updates and since. -/
structure Served (early late : List Put) (acts : List Act) (l : Lane) : Prop where
  /-- Updates are taken in the order they were put in. -/
  updates : l.isOver = false → updatesPut (early ++ late) = updatesOf acts ++ l.updates.queued
  /-- When it has an event at hand, a new pass is to come. -/
  anew : l.isBusy = true → l.looking = .updates
  /-- A look that found no update left none behind. -/
  looked : l.isOver = false → l.hasLooked → updatesPut early = updatesOf acts
  /-- Of the records that were put in since, no more than the one at hand was taken. -/
  since : l.isOver = false → l.hasLooked →
    (recordsPut late).length ≤ l.records.queued.length + l.isBusy.toNat

section
variable {early late : List Put} {acts : List Act} {l l' : Lane}

/-- A lane that goes on with the event at hand. -/
theorem Served.stay (h : Served early late acts l) (hbusy : l.isBusy = true)
    (hof : l'.isOver = false → l.OfReplica l') (hlooking : l'.looking = l.looking) :
    Served early late acts l' where
  updates hl := by
    obtain ⟨replica, task, rfl⟩ := hof hl
    exact h.updates (isOver_of_isBusy hbusy)
  anew _ := hlooking.trans (h.anew hbusy)
  looked _ _ := h.looked (isOver_of_isBusy hbusy) (.inl hbusy)
  since hl hlooked := by
    have hsince := h.since (isOver_of_isBusy hbusy) (.inl hbusy)
    have hstill : l'.isBusy = true := hlooked.resolve_right fun h' => h' (hlooking.trans (h.anew hbusy))
    obtain ⟨replica, task, rfl⟩ := hof hl
    rw [hstill]
    rw [hbusy] at hsince
    exact hsince

/-- A lane that begins a new pass. -/
theorem Served.anewPass (hidle : l'.isIdle = true) (hlooking : l'.looking = .updates)
    (h : updatesPut (early ++ late) = updatesOf acts ++ l'.updates.queued) :
    Served early late acts l' := by
  have hbusy := (not_isBusy hidle).1
  have hnot : ¬l'.hasLooked := by
    unfold hasLooked
    rw [hbusy, hlooking]
    simp
  exact ⟨fun _ => h, fun _ => hlooking, fun _ hlooked => absurd hlooked hnot,
    fun _ hlooked => absurd hlooked hnot⟩

theorem Served.sameActs {acts' : List Act} (h : Served early late acts l)
    (heq : updatesOf acts' = updatesOf acts) : Served early late acts' l :=
  ⟨fun hl => (h.updates hl).trans (congrArg (· ++ _) heq.symm), h.anew,
    fun hl hlooked => (h.looked hl hlooked).trans heq.symm, h.since⟩

/-- A lane that stopped. -/
theorem Served.over (hover : l'.isOver = true) : Served early late acts l' := by
  have hnot : l'.isOver ≠ false := by
    rw [hover]
    decide
  exact ⟨fun hl => absurd hl hnot, fun hl => absurd (isOver_of_isBusy hl) hnot,
    fun hl => absurd hl hnot, fun hl => absurd hl hnot⟩

end

theorem updatesOf_snoc_other (acts : List Act) : updatesOf (acts ++ [.other]) = updatesOf acts :=
  (updatesOf_snoc acts .other).trans (List.append_nil _)

theorem updatesOf_snoc_outcome (acts : List Act) (o : FetchOutcome) :
    updatesOf (acts ++ [.outcome o]) = updatesOf acts :=
  (updatesOf_snoc acts (.outcome o)).trans (List.append_nil _)

theorem updatesOf_snoc_ofProgress (acts : List Act) (p : Progress (List (String × Definition))) :
    updatesOf (acts ++ [.ofProgress p]) = updatesOf acts := by
  rw [updatesOf_snoc]
  cases p <;> exact List.append_nil _

theorem isIdle_of_task {l : Lane} (h : l.task = .idle) : l.isIdle = true := by
  unfold isIdle
  rw [h]

/-- **The replica takes updates in order**, and all that there are when it looks for them before it
takes a record. -/
theorem Served.moves {start l l' : Lane} {early late : List Put} {acts : List Act}
    {taken : Option Taken} (hrun : Run start acts l) (h : Served early late acts l)
    (hmove : l.Moves taken l') :
    ∃ acts', Run start acts' l' ∧
      if taken.any Taken.isLook then Served (early ++ late) [] acts' l'
      else Served early late acts' l' := by
  have hnothing (puts : List Put) : puts ++ [] = puts := List.append_nil puts
  cases hmove with
  | @update u updates hidle hlooking hnext =>
    refine ⟨_, (hrun.aside l.records updates l.loops l.looking).happens (.prompt .empty)
      (.update u hidle), ?_⟩
    have hidle' : ({ l with updates }.takeUpdate u).isIdle = true :=
      isIdle_of_task ((task_takeUpdate { l with updates } u).trans (task_of_isIdle hidle))
    obtain ⟨hqueue, -⟩ := sameQueues_takeUpdate { l with updates } u (not_isBusy hidle').2
    refine .anewPass hidle' ((looking_takeUpdate { l with updates } u).trans hlooking) ?_
    rw [hnothing, hqueue, h.updates (not_isBusy hidle).2, (Channel.queued_of_next? hnext).1,
      updatesOf_snoc, updatesOf_snoc_other, List.append_assoc]
    rfl
  | @noUpdates updates hidle hlooking hnext =>
    refine ⟨_, hrun.aside l.records updates l.loops l.looking, .anewPass hidle hlooking ?_⟩
    obtain ⟨hbefore, hafter, -⟩ := Channel.queued_of_ended hnext
    rw [hnothing, updatesOf_snoc_other, h.updates (not_isBusy hidle).2, hbefore, hafter]
  | noUpdate hidle hlooking hnone =>
    refine ⟨_, hrun.aside l.records l.updates l.loops l.looking.next, ?_⟩
    have hall := h.updates (not_isBusy hidle).2
    rw [hnone, List.append_nil] at hall
    refine ⟨fun _ => ?_, fun hbusy => ?_, fun _ _ => ?_, fun _ _ => Nat.zero_le _⟩
    · rw [hnothing, updatesOf_snoc_other, hall, lookOn, hnone, List.append_nil]
    · rw [isBusy_lookOn hidle] at hbusy
      cases hbusy
    · rw [updatesOf_snoc_other, hall]
  | @outcome o outcomes hidle hnext =>
    have hrun' := (hrun.happens (.prompt .empty) (.outcome hidle hnext)).aside l.records l.updates
      l.loops .updates
    refine ⟨_, hrun', .anewPass hidle rfl ?_⟩
    rw [updatesOf_snoc_other, updatesOf_snoc_outcome]
    exact h.updates (not_isBusy hidle).2
  | noOutcomes hidle hnext =>
    have hrun' := (hrun.happens (.prompt .empty) (.ended hidle hnext)).aside l.records l.updates
      l.loops .updates
    refine ⟨_, hrun', .anewPass hidle rfl ?_⟩
    rw [updatesOf_snoc_other, updatesOf_snoc_other]
    exact h.updates (not_isBusy hidle).2
  | lookOn hidle hlooking =>
    refine ⟨_, hrun.aside l.records l.updates l.loops l.looking.next, ?_⟩
    have hover := (not_isBusy hidle).2
    refine ⟨fun _ => ?_, fun hbusy => ?_, fun _ _ => ?_, fun _ _ => h.since hover (.inr hlooking)⟩
    · rw [updatesOf_snoc_other]
      exact h.updates hover
    · rw [isBusy_lookOn hidle] at hbusy
      cases hbusy
    · rw [updatesOf_snoc_other]
      exact h.looked hover (.inr hlooking)
  | @record r records w hidle hlooking hnext =>
    refine ⟨_, (hrun.aside records l.updates l.loops .updates).happens w (.record r hidle), ?_⟩
    have hover := (not_isBusy hidle).2
    have hother := looking_ne_updates hlooking
    have hsame := sameQueues_takeRecord { l with records, looking := .updates } w r
    have hsince := h.since hover (.inr hother)
    rw [(Channel.queued_of_next? hnext).1, (not_isBusy hidle).1] at hsince
    refine ⟨fun hl => ?_, fun _ => looking_takeRecord _ w r, fun _ _ => ?_, fun hl hlooked => ?_⟩
    · rw [updatesOf_snoc_other, updatesOf_snoc_other, (hsame hl).1]
      exact h.updates hover
    · rw [updatesOf_snoc_other, updatesOf_snoc_other]
      exact h.looked hover (.inr hother)
    · have hbusy := hlooked.resolve_right fun h' => h' (looking_takeRecord _ w r)
      rw [(hsame hl).2, hbusy]
      exact hsince
  | noRecords hidle _ _ => exact ⟨_, hrun.snoc (.finish hidle), .over rfl⟩
  | @load w e fetch p s htask hdue hp =>
    refine ⟨_, hrun.happens w (.load htask hdue hp), ?_⟩
    have hstay : Served early late acts (l.loaded w e p) :=
      h.stay (isBusy_of_loading htask) (ofReplica_loaded l w e p) (looking_loaded l w e p)
    exact hstay.sameActs (updatesOf_snoc_ofProgress acts p)
  | @send l' w w' built left posted htask hsend =>
    refine ⟨_, hrun.happens w (.send htask hsend), ?_⟩
    have hof := (sends_of_sendStep hsend).ofReplica
    have hstay : Served early late acts l' :=
      h.stay (isBusy_of_sending htask) (fun _ => hof) hof.looking
    exact hstay.sameActs (updatesOf_snoc_other acts)

/-! ### Ways of a lane that serves -/

/-- The worker neither takes nor puts in anything of the replica's. -/
theorem Served.ofWorker {early late : List Put} {acts : List Act} {l l' : Lane}
    (h : Served early late acts l) (hworker : l.OfWorker l') :
    Served early late (acts ++ [.other]) l' := by
  obtain ⟨worker, requests, outcomes, rfl⟩ := hworker
  exact Served.sameActs ⟨h.updates, h.anew, h.looked, h.since⟩ (updatesOf_snoc_other acts)

end Lane
end Watchpost
