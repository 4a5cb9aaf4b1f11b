import Watchpost.Proofs.Lane.Story
import Watchpost.Proofs.Replica.Counts

/-! The messages of a lane, accounted for.

Whatever the schedule is, what was put into the channels of a lane was taken or is still queued, in
the same order. A lane that came to its end has taken all records, and all updates that were put in
before it last looked for one in vain (`Story.accounted`). Who waits for room is not touched by the
lane (`KeepsWaiting`). -/
namespace Watchpost

namespace Lane

/-! ### Nothing is lost -/

/-- The replica took just the updates that were put in before it last looked for one in vain. -/
def UpToLook (es : List Entry) : Prop :=
  ∃ early late, es = early ++ .took .noUpdate :: late ∧ .took .noUpdate ∉ late ∧
    (handled es).map (·.1) = told early

theorem UpToLook.append {es more : List Entry} (h : UpToLook es)
    (hnone : more.filterMap Entry.taken? = []) : UpToLook (es ++ more) := by
  obtain ⟨early, late, rfl, hlast, htaken⟩ := h
  refine ⟨early, late ++ more, List.append_assoc .., fun hmem => ?_, ?_⟩
  · rcases List.mem_append.1 hmem with hmem | hmem
    · exact hlast hmem
    · have htook : Taken.noUpdate ∈ more.filterMap Entry.taken? :=
        List.mem_filterMap.2 ⟨_, hmem, rfl⟩
      rw [hnone] at htook
      cases htook
  · rw [handled_of_none hnone]
    exact htaken

/-- What was put in was taken or is queued, and a lane that came to its end has taken all that it
knew of. -/
structure Accounted (es : List Entry) (l : Lane) : Prop where
  updatesOpen : l.updates.isOpen = !l.isOver
  recordsOpen : l.records.isOpen = !l.isOver
  updates : l.isOver = false → told es = (handled es).map (·.1) ++ l.updates.queued
  records : l.isOver = false → given es = processed es ++ l.records.queued
  /-- Behind a look that found no update, and so at its end, it has taken all from before. -/
  looked : l.isBroken = false → l.isOver = true ∨ l.looking ≠ .updates → UpToLook es
  processedAll : l.isOver = true → l.isBroken = false → processed es = given es
  inOrder : (handled es).map (·.1) <+: told es ∧ processed es <+: given es
  /-- Until it learns that there are no more messages, only a failure ends a lane. -/
  serving : .ended ∉ es → l.records.ending = false ∧ (l.isOver = true → l.isBroken = true)

section
variable {es : List Entry} {l l' : Lane}

/-- Before its end a replica has everything it was told and given: done, or still in the queues. -/
theorem Accounted.of_live (hover : l.isOver = false) (hupdatesOpen : l.updates.isOpen = true)
    (hrecordsOpen : l.records.isOpen = true)
    (hupdates : told es = (handled es).map (·.1) ++ l.updates.queued)
    (hrecords : given es = processed es ++ l.records.queued)
    (hlooked : l.looking ≠ .updates → UpToLook es)
    (hending : .ended ∉ es → l.records.ending = false) : Accounted es l where
  updatesOpen := by rw [hupdatesOpen, hover]; rfl
  recordsOpen := by rw [hrecordsOpen, hover]; rfl
  updates _ := hupdates
  records _ := hrecords
  looked _ h := hlooked (h.resolve_left (by rw [hover]; exact Bool.false_ne_true))
  processedAll h := by rw [hover] at h; cases h
  inOrder := ⟨hupdates ▸ List.prefix_append .., hrecords ▸ List.prefix_append ..⟩
  serving h := ⟨hending h, fun hl => by rw [hover] at hl; cases hl⟩

theorem Accounted.isOpen (h : Accounted es l) (hover : l.isOver = false) :
    l.updates.isOpen = true ∧ l.records.isOpen = true := by
  rw [h.updatesOpen, h.recordsOpen, hover]
  exact ⟨rfl, rfl⟩

theorem Accounted.broken (h : Accounted es l) : Accounted es (l'.finish .broken) where
  updatesOpen := rfl
  recordsOpen := rfl
  updates hl := by cases hl
  records hl := by cases hl
  looked hl := by cases hl
  processedAll _ hl := by cases hl
  inOrder := h.inOrder
  serving _ := ⟨rfl, fun _ => rfl⟩

/-- A lane that goes on without a new message, unless it fails. -/
structure GoesOn (l l' : Lane) : Prop where
  queues : l.SameQueues l'
  fails : l'.isOver = true → ∃ m : Lane, l' = m.finish .broken

/-- A move that touches no queue leaves the account as it is. -/
theorem Accounted.goesOn (h : Accounted es l) (hover : l.isOver = false) (hgoes : l.GoesOn l')
    (hlooking : l'.looking ≠ .updates → l.looking ≠ .updates) : Accounted es l' := by
  cases hover' : l'.isOver with
  | true =>
    obtain ⟨m, rfl⟩ := hgoes.fails hover'
    exact h.broken
  | false =>
    obtain ⟨hupdates, hrecords⟩ := hgoes.queues hover'
    obtain ⟨hupdatesOpen, hrecordsOpen⟩ := h.isOpen hover
    refine .of_live hover' ?_ ?_ ?_ ?_ (fun hl => ?_) fun hended => ?_
    · rw [hupdates, hupdatesOpen]
    · rw [hrecords, hrecordsOpen]
    · rw [hupdates, h.updates hover]
    · rw [hrecords, h.records hover]
    · exact h.looked (isBroken_of_live hover) (.inr (hlooking hl))
    · rw [hrecords]
      exact (h.serving hended).1

theorem goesOn_loaded (l : Lane) (w : World) (e : Event)
    (p : Progress (List (String × Definition))) : l.GoesOn (l.loaded w e p) where
  queues := sameQueues_loaded l w e p
  fails h := by
    cases p with
    | waiting fetch => cases h
    | answered answer => cases h
    | broken => exact ⟨l, rfl⟩

theorem goesOn_takeEvent (l : Lane) (w : World) (e : Event) : l.GoesOn (l.takeEvent w e).2 where
  queues := sameQueues_takeEvent l w e
  fails := by
    unfold takeEvent
    dsimp only
    split
    · exact fun h => by cases h
    · exact (goesOn_loaded { l with replica := l.replica.offered (w.offer e).1 } ..).fails

theorem goesOn_takeRecord {l : Lane} (hover : l.isOver = false) (w : World) (r : Record) :
    l.GoesOn (l.takeRecord w r).2 where
  queues := sameQueues_takeRecord l w r
  fails := by
    unfold takeRecord
    split
    · next replica e _ => exact (goesOn_takeEvent { l with replica } w e).fails
    · intro h
      have hl : l.isOver = true := h
      rw [hover] at hl
      cases hl

theorem isOver_sendStep {w w' : World} {built left : List Alert} {posted : Bool}
    (h : l.sendStep w built left posted = some (w', l')) :
    l'.isOver = false := by
  cases sends_of_sendStep h with
  | done => rfl
  | waits a rest => rfl
  | sent a rest taken => rfl

theorem goesOn_of_live (hqueues : l.SameQueues l') (hover : l'.isOver = false) : l.GoesOn l' :=
  ⟨hqueues, fun h => by rw [hover] at h; cases h⟩

theorem handled_took_update (u : RuleUpdate) (seq : UInt64) :
    handled (es ++ [.took (.update u seq)]) = handled es ++ [(u, seq)] := handled_append ..

theorem told_took (t : Taken) : told (es ++ [.took t]) = told es :=
  (told_append ..).trans (List.append_nil _)

theorem given_took (t : Taken) : given (es ++ [.took t]) = given es :=
  (given_append ..).trans (List.append_nil _)

theorem processed_took_update (u : RuleUpdate) (seq : UInt64) :
    processed (es ++ [.took (.update u seq)]) = processed es :=
  (processed_append ..).trans (List.append_nil _)

theorem processed_took_record (r : Record) :
    processed (es ++ [.took (.record r)]) = processed es ++ [r] := processed_append ..

theorem handled_took_noUpdate : handled (es ++ [.took .noUpdate]) = handled es :=
  (handled_append ..).trans (List.append_nil _)

theorem processed_took_noUpdate : processed (es ++ [.took .noUpdate]) = processed es :=
  (processed_append ..).trans (List.append_nil _)

theorem handled_took_record (r : Record) : handled (es ++ [.took (.record r)]) = handled es :=
  (handled_append ..).trans (List.append_nil _)

theorem ended_not_mem_of_append {more : List Entry} (h : .ended ∉ es ++ more) : .ended ∉ es :=
  fun hmem => h (List.mem_append_left more hmem)

/-- **The replica takes what is queued, in order**, and ends only when no record is left. -/
theorem Accounted.moves (h : Accounted es l) {taken : Option Taken} (hmove : l.Moves taken l') :
    Accounted (es ++ taken.toList.map .took) l' := by
  have hnothing : es ++ (none : Option Taken).toList.map .took = es := List.append_nil es
  cases hmove with
  | @update u updates hidle hlooking hnext =>
    have hover := (not_isBusy hidle).2
    obtain ⟨hupdatesOpen, hrecordsOpen⟩ := h.isOpen hover
    have htook : Accounted (es ++ [.took (.update u (l.replica.lastIssued + 1))])
        { l with updates } := by
      refine .of_live hover ((Channel.isOpen_of_next? hnext).trans hupdatesOpen) hrecordsOpen ?_ ?_
        (fun hl => absurd hlooking hl)
        fun hended => (h.serving (ended_not_mem_of_append hended)).1
      · rw [told_took, handled_took_update, h.updates hover, (Channel.queued_of_next? hnext).1,
          List.map_append, List.append_assoc]
        rfl
      · rw [given_took, processed_took_update, h.records hover]
    have hidle' : ({ l with updates }.takeUpdate u).isIdle = true :=
      isIdle_of_task ((task_takeUpdate { l with updates } u).trans (task_of_isIdle hidle))
    refine htook.goesOn hover
      (goesOn_of_live (sameQueues_takeUpdate { l with updates } u) (not_isBusy hidle').2) ?_
    rw [looking_takeUpdate]
    exact fun hl => hl
  | @noUpdates updates hidle hlooking hnext =>
    have hover := (not_isBusy hidle).2
    obtain ⟨hupdatesOpen, hrecordsOpen⟩ := h.isOpen hover
    obtain ⟨hbefore, hafter, -⟩ := Channel.queued_of_ended hnext
    show Accounted (es ++ [.took .noUpdate]) { l with updates }
    refine .of_live hover ((Channel.isOpen_of_next? hnext).trans hupdatesOpen) hrecordsOpen ?_ ?_
      (fun hl => absurd hlooking hl) fun hended => (h.serving (ended_not_mem_of_append hended)).1
    · rw [told_took, handled_took_noUpdate, h.updates hover, hbefore, hafter]
    · rw [given_took, processed_took_noUpdate, h.records hover]
  | noUpdate hidle hlooking hnone =>
    have hover := (not_isBusy hidle).2
    obtain ⟨hupdatesOpen, hrecordsOpen⟩ := h.isOpen hover
    show Accounted (es ++ [.took .noUpdate]) l.lookOn
    refine .of_live hover hupdatesOpen hrecordsOpen ?_ ?_ (fun _ => ?_)
      fun hended => (h.serving (ended_not_mem_of_append hended)).1
    · rw [told_took, handled_took_noUpdate]
      exact h.updates hover
    · rw [given_took, processed_took_noUpdate]
      exact h.records hover
    · have hall := h.updates hover
      rw [hnone, List.append_nil] at hall
      refine ⟨es, [], rfl, List.not_mem_nil, ?_⟩
      rw [handled_took_noUpdate]
      exact hall.symm
  | outcome hidle hnext =>
    have hover := (not_isBusy hidle).2
    rw [hnothing]
    exact h.goesOn hover (goesOn_of_live (fun _ => ⟨rfl, rfl⟩) hover) fun hl => absurd rfl hl
  | noOutcomes hidle hnext =>
    have hover := (not_isBusy hidle).2
    rw [hnothing]
    exact h.goesOn hover (goesOn_of_live (fun _ => ⟨rfl, rfl⟩) hover) fun hl => absurd rfl hl
  | lookOn hidle hlooking =>
    have hover := (not_isBusy hidle).2
    rw [hnothing]
    exact h.goesOn hover (goesOn_of_live (fun _ => ⟨rfl, rfl⟩) hover) fun _ => hlooking
  | @record r records w hidle hlooking hnext =>
    have hover := (not_isBusy hidle).2
    obtain ⟨hupdatesOpen, hrecordsOpen⟩ := h.isOpen hover
    have htook : Accounted (es ++ [.took (.record r)]) { l with records, looking := .updates } := by
      refine .of_live hover hupdatesOpen ((Channel.isOpen_of_next? hnext).trans hrecordsOpen) ?_ ?_
        (fun hl => absurd rfl hl) fun hended => ?_
      · rw [told_took, handled_took_record, h.updates hover]
      · rw [given_took, processed_took_record, h.records hover, (Channel.queued_of_next? hnext).1,
          List.append_assoc]
        rfl
      · rw [Channel.ending_of_next? hnext]
        exact (h.serving (ended_not_mem_of_append hended)).1
    refine htook.goesOn hover
      (goesOn_takeRecord (l := { l with records, looking := .updates }) hover w r) ?_
    rw [looking_takeRecord]
    exact fun hl => hl
  | noRecords hidle hlooking hnext =>
    -- The records have just come to their end, and there was no update when it last looked.
    have hover := (not_isBusy hidle).2
    have hother := looking_ne_updates hlooking
    have hrecords := h.records hover
    rw [(Channel.queued_of_ended hnext).1, List.append_nil] at hrecords
    rw [hnothing]
    refine ⟨rfl, rfl, fun hl => (by cases hl), fun hl => (by cases hl),
      fun _ _ => h.looked (isBroken_of_live hover) (.inr hother), fun _ _ => hrecords.symm, h.inOrder,
      fun hended => ?_⟩
    have hending := (h.serving hended).1
    rw [Channel.ending_of_ended hnext] at hending
    cases hending
  | @load w e fetch p s htask hdue hp =>
    have hover : l.isOver = false := by
      unfold isOver
      rw [htask]
    rw [hnothing]
    refine h.goesOn hover (goesOn_loaded l w e p) ?_
    rw [looking_loaded]
    exact fun hl => hl
  | send htask hsend =>
    have hover : l.isOver = false := by
      unfold isOver
      rw [htask]
    rw [hnothing]
    refine h.goesOn hover (goesOn_of_live (sameQueues_sendStep hsend) (isOver_sendStep hsend)) ?_
    rw [(sends_of_sendStep hsend).ofReplica.looking]
    exact fun hl => hl

/-- The worker has nothing to do with either queue. -/
theorem Accounted.ofWorker (h : Accounted es l) (hworker : l.OfWorker l') : Accounted es l' := by
  obtain ⟨worker, requests, outcomes, rfl⟩ := hworker
  exact ⟨h.updatesOpen, h.recordsOpen, h.updates, h.records, h.looked, h.processedAll, h.inOrder,
    h.serving⟩

/-- Only a lane that is not over has an open channel. -/
theorem Accounted.live (h : Accounted es l)
    (hopen : l.updates.isOpen = true ∨ l.records.isOpen = true) : l.isOver = false := by
  rw [h.updatesOpen, h.recordsOpen, or_self] at hopen
  simpa using hopen

/-- **Each move keeps the account.** -/
theorem Accounted.does (h : Accounted es l) {more : List Entry} (hdoes : l.Does more l') :
    Accounted (es ++ more) l' := by
  cases hdoes with
  | nothing => exact (List.append_nil es).symm ▸ h
  | replica hstep => exact h.moves (moves_of_replicaStep hstep)
  | worker hstep => exact (List.append_nil es).symm ▸ h.ofWorker (ofWorker_workerStep hstep)
  | @tell us updates hopen hput =>
    have hover := h.live (.inl hopen)
    refine .of_live hover (hput.isOpen.trans hopen) (h.isOpen hover).2 ?_ ?_
      (fun hl => (h.looked (isBroken_of_live hover) (.inr hl)).append (taken_tells us))
      fun hended => (h.serving (ended_not_mem_of_append hended)).1
    · rw [told_append, told_tells, handled_of_none (taken_tells us), h.updates hover, hput.queued, List.append_assoc]
    · rw [given_append, given_tells, List.append_nil, processed_of_none (taken_tells us), h.records hover]
  | @give rs records hopen hput =>
    have hover := h.live (.inr hopen)
    refine .of_live hover (h.isOpen hover).1 (hput.isOpen.trans hopen) ?_ ?_
      (fun hl => (h.looked (isBroken_of_live hover) (.inr hl)).append (taken_gives rs)) fun hended => ?_
    · rw [told_append, told_gives, List.append_nil, handled_of_none (taken_gives rs), h.updates hover]
    · rw [given_append, given_gives, processed_of_none (taken_gives rs), h.records hover, hput.queued,
        List.append_assoc]
    · rw [hput.ending]
      exact (h.serving (ended_not_mem_of_append hended)).1
  | endInput =>
    have htold : told (es ++ [.ended]) = told es := (told_append ..).trans (List.append_nil _)
    have hgiven : given (es ++ [.ended]) = given es := (given_append ..).trans (List.append_nil _)
    have hhandled : handled (es ++ [.ended]) = handled es :=
      (handled_append ..).trans (List.append_nil _)
    have hprocessed : processed (es ++ [.ended]) = processed es :=
      (processed_append ..).trans (List.append_nil _)
    refine ⟨h.updatesOpen, h.recordsOpen, ?_, ?_, ?_, ?_, ?_, fun hended => ?_⟩
    · rw [htold, hhandled]
      exact h.updates
    · rw [hgiven, hprocessed]
      exact h.records
    · exact fun hl hlooked => (h.looked hl hlooked).append rfl
    · rw [hgiven, hprocessed]
      exact h.processedAll
    · rw [htold, hhandled, hgiven, hprocessed]
      exact h.inOrder
    · exact absurd (List.mem_append_right es (List.mem_cons_self ..)) hended

end

/-! ### Who waits -/

/-- Who waits for room in an open channel still does. -/
structure KeepsWaiting (l l' : Lane) : Prop where
  updates : l'.updates.isOpen = true →
    l.updates.isOpen = true ∧ l'.updates.waiting = l.updates.waiting
  records : l'.records.isOpen = true →
    l.records.isOpen = true ∧ l'.records.waiting = l.records.waiting

section
variable {l m l' : Lane}

theorem KeepsWaiting.trans (h : l.KeepsWaiting m) (h' : m.KeepsWaiting l') : l.KeepsWaiting l' where
  updates hopen := by
    obtain ⟨hm, heq⟩ := h'.updates hopen
    obtain ⟨hl, heq'⟩ := h.updates hm
    exact ⟨hl, heq.trans heq'⟩
  records hopen := by
    obtain ⟨hm, heq⟩ := h'.records hopen
    obtain ⟨hl, heq'⟩ := h.records hm
    exact ⟨hl, heq.trans heq'⟩

theorem keepsWaiting_of_same (hupdates : l'.updates = l.updates) (hrecords : l'.records = l.records) :
    l.KeepsWaiting l' where
  updates hopen := ⟨hupdates ▸ hopen, congrArg Channel.waiting hupdates⟩
  records hopen := ⟨hrecords ▸ hopen, congrArg Channel.waiting hrecords⟩

theorem keepsWaiting_finish (l : Lane) (t : Task) : l.KeepsWaiting (l.finish t) where
  updates hopen := by cases hopen
  records hopen := by cases hopen

theorem GoesOn.keepsWaiting (h : l.GoesOn l') : l.KeepsWaiting l' := by
  cases hover : l'.isOver with
  | true =>
    obtain ⟨m, rfl⟩ := h.fails hover
    exact ⟨fun hopen => (by cases hopen), fun hopen => (by cases hopen)⟩
  | false =>
    obtain ⟨hupdates, hrecords⟩ := h.queues hover
    exact keepsWaiting_of_same hupdates hrecords

theorem keepsWaiting_updates {updates : Channel RuleUpdate} {x : Option RuleUpdate}
    (hnext : l.updates.next? = some (x, updates)) : l.KeepsWaiting { l with updates } where
  updates hopen := by
    refine ⟨(Channel.isOpen_of_next? hnext).symm.trans hopen, ?_⟩
    cases x with
    | none => exact (Channel.queued_of_ended hnext).2.2
    | some u => exact (Channel.queued_of_next? hnext).2
  records hopen := ⟨hopen, rfl⟩

/-- Taking what is queued lets nobody in by itself. -/
theorem keepsWaiting_of_moves {taken : Option Taken} (hmove : l.Moves taken l') :
    l.KeepsWaiting l' := by
  cases hmove with
  | @update u updates hidle hlooking hnext =>
    have hidle' : ({ l with updates }.takeUpdate u).isIdle = true :=
      isIdle_of_task ((task_takeUpdate { l with updates } u).trans (task_of_isIdle hidle))
    exact (keepsWaiting_updates hnext).trans
      (goesOn_of_live (sameQueues_takeUpdate { l with updates } u) (not_isBusy hidle').2).keepsWaiting
  | noUpdates hidle hlooking hnext => exact keepsWaiting_updates hnext
  | noUpdate | lookOn | outcome | noOutcomes => exact keepsWaiting_of_same rfl rfl
  | @record r records w hidle hlooking hnext =>
    have hqueue : l.KeepsWaiting { l with records, looking := .updates } :=
      ⟨fun hopen => ⟨hopen, rfl⟩, fun hopen =>
        ⟨(Channel.isOpen_of_next? hnext).symm.trans hopen, (Channel.queued_of_next? hnext).2⟩⟩
    exact hqueue.trans
      (goesOn_takeRecord (l := { l with records, looking := .updates }) (not_isBusy hidle).2 w
        r).keepsWaiting
  | noRecords => exact keepsWaiting_finish l .done
  | load => exact (goesOn_loaded l _ _ _).keepsWaiting
  | send htask hsend =>
    exact (goesOn_of_live (sameQueues_sendStep hsend) (isOver_sendStep hsend)).keepsWaiting

end

/-- A lane with empty channels, at which everything is still to come. -/
structure Blank (l : Lane) : Prop where
  idle : l.task = .idle
  looking : l.looking = .updates
  updates : l.updates.queued = [] ∧ l.updates.isOpen = true
  records : l.records.queued = [] ∧ l.records.isOpen = true ∧ l.records.ending = false
  counted : l.replica.counted = (0, 0)

section
variable {start : Lane} {es : List Entry} {l : Lane}

theorem Blank.isOver (h : Blank l) : l.isOver = false := (not_isBusy (isIdle_of_task h.idle)).2

/-- **Nothing is lost at a lane**, whatever the schedule is. -/
theorem Story.accounted (h : Story start es l) (hstart : Blank start) : Accounted es l := by
  induction h with
  | nil =>
    refine .of_live hstart.isOver hstart.updates.2 hstart.records.2.1 ?_ ?_
      (fun hl => absurd hstart.looking hl) fun _ => hstart.records.2.2
    · rw [hstart.updates.1]
      rfl
    · rw [hstart.records.1]
      rfl
  | snoc _ hdoes ih => exact ih.does hdoes

end

end Lane
end Watchpost
