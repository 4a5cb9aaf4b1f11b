import Watchpost.Proofs.Lane.Account
import Watchpost.Proofs.Lane.Agreement
import Watchpost.Proofs.Lane.Line

/-! When definitions were read.

A lane moves in a world that moves on, and at each moment its store holds something else. What a
fetch answers was held when it answered, and that was after its wish was made (`Recorded.read`). So
the rule of an id is never older than the last upsert of it, whatever was loaded or read before
(`never_older`). -/
namespace Watchpost

/-! ### Reading -/

/-- What a fetch answers is what is read when it answers. -/
theorem Fetch.eq_read_of_resume {p : FetchPolicy} {target : String} {read : Store → α} {now : Nat}
    {f : Fetch} {s : Store} {value : α}
    (h : (f.resume p target read now s).1 = .answered (.ok value)) : read s = value := by
  have hcall (left : Nat) : call p now left s ≠ .answered (.ok value) := by
    unfold call
    split <;> exact fun h => by cases h
  unfold resume at h
  split at h
  · next delay failure _ =>
    have hjudge : p.judge target delay (answerOf target failure (read s)) = .ok value := by
      cases hanswer : p.judge target delay (answerOf target failure (read s)) with
      | ok other =>
        rw [hanswer] at h
        cases h
        rfl
      | error e =>
        rw [hanswer] at h
        unfold take at h
        split at h <;> cases h
    unfold FetchPolicy.judge answerOf at hjudge
    split at hjudge
    · split at hjudge
      · cases hjudge
      · cases hjudge
        rfl
    · cases hjudge
  · exact absurd h (hcall _)

namespace Lane

/-! ### Moments -/

/-- What was done at a moment, what the store held then, and the outcome that the worker came to. -/
structure Moment where
  act : Act
  store : Store
  returned : List FetchOutcome

def actsOf (ms : List Moment) : List Act := ms.map Moment.act

/-- The outcomes that the worker came to, the oldest first. -/
def returnedOf (ms : List Moment) : List FetchOutcome := ms.flatMap Moment.returned

/-- What happened, one moment after the other. -/
inductive History (start : Lane) : List Moment → World → Lane → Prop where
  | nil (w : World) : History start [] w start
  | snoc {ms : List Moment} {w w' : World} {l l' : Lane} {a : Act} (h : History start ms w l)
      (hnow : Happens w l a w' l') :
      History start (ms ++ [⟨a, w.store, l.answered l'⟩]) w' l'

/-! ### One moment -/

section
variable {w w' : World} {l l' : Lane} {a : Act}

/-- Only its own steps concern the worker. -/
theorem Happens.worker_or_same (h : Happens w l a w' l') (hlive : l'.isOver = false) :
    l.workerStep w = some (w', l') ∨ l'.worker = l.worker := by
  cases h with
  | update u hidle => exact .inr (worker_takeUpdate l u).1
  | outcome hidle hnext => exact .inr rfl
  | ended hidle hnext => exact .inr rfl
  | record r hidle => exact .inr (ofReplica_takeRecord l w r hlive).sameWorker.worker
  | event e hidle => exact .inr (ofReplica_takeEvent l w e hlive).sameWorker.worker
  | load htask hdue hp => exact .inr (ofReplica_loaded l w _ _ hlive).sameWorker.worker
  | send htask hsend => exact .inr (sends_of_sendStep hsend).ofReplica.sameWorker.worker
  | collect hcollect =>
    obtain ⟨-, rfl⟩ := collect?_eq_some hcollect
    exact .inr rfl
  | worker hstep => exact .inl hstep
  | aside records updates loops looking => exact .inr rfl
  | world w' => exact .inr rfl

/-- A worker that is not sent away hands over what it has at hand. -/
theorem Happens.keeps (h : Happens w l a w' l') (horder : l.Orderly) (hlive : l'.isOver = false)
    {o : FetchOutcome} (ho : l.worker = .telling o false) : l'.workerGone = false := by
  rcases h.worker_or_same hlive with hstep | hsame
  · unfold workerStep at hstep
    rw [ho] at hstep
    obtain ⟨m, hm, hstep⟩ := Option.map_eq_some_iff.1 hstep
    cases hstep
    simp only [tellStep, horder.isOpen, Bool.false_eq_true, if_false, Bool.not_true,
      Option.some.injEq] at hm
    subst hm
    unfold workerGone
    dsimp only
    split
    · next hgone => split at hgone <;> cases hgone
    · rfl
  · unfold workerGone
    rw [hsame, ho]

/-- A definition that the worker comes to is what the store holds. -/
theorem Happens.read (h : Happens w l a w' l') (hlive : l'.isOver = false) {o : FetchOutcome}
    (ho : o ∈ l.answered l') {d : Definition} (hd : o.answer = .ok (some d)) :
    request o ∈ l.inFlight ∧ w.store.fetch o.ruleId = some d := by
  rcases h.worker_or_same hlive with hstep | hsame
  · unfold answered at ho
    cases hworker : l.worker with
    | fetching q fetch =>
      rw [hworker] at ho
      unfold workerStep at hstep
      rw [hworker] at hstep
      dsimp only at hstep
      split at hstep
      · cases hp : (fetch.resume w.policy q.ruleId (Store.fetch · q.ruleId) w.now w.store).1 with
        | waiting next =>
          rw [hp] at hstep
          cases hstep
          cases ho
        | answered answer =>
          rw [hp] at hstep
          cases hstep
          cases List.mem_singleton.1 ho
          cases hd
          refine ⟨?_, Fetch.eq_read_of_resume hp⟩
          simp [inFlight, hworker, Worker.wishes, request]
        | broken =>
          rw [hp] at hstep
          cases hstep
          cases ho
      · cases hstep
    | idle | telling _ _ | leaving | gone =>
      rw [hworker] at ho
      cases ho
  · rw [answered_of_same hsame] at ho
    cases ho

/-- A replica is only brought down while it loads. -/
theorem over_takeEvent (e : Event) (hover : (l.takeEvent w e).2.isOver = true) :
    ∃ pending, (l.takeEvent w e).2.replica.phase = .waiting pending := by
  unfold takeEvent at hover ⊢
  dsimp only at hover ⊢
  split
  · next hphase =>
    rw [hphase] at hover
    cases hover
  · next pending hphase =>
    rw [hphase] at hover
    cases hp : (Fetch.start (α := List (String × Definition)) (w.offer e).2.policy (w.offer e).2.now
        (w.offer e).2.store).1 with
    | waiting fetch =>
      rw [hp] at hover
      cases hover
    | answered answer =>
      rw [hp] at hover
      cases hover
    | broken => exact ⟨pending, hphase⟩

theorem Happens.over (h : Happens w l a w' l') (hfits : l.task.Fits l.replica.phase)
    (hl : l.isOver = true → ∃ pending, l.replica.phase = .waiting pending)
    (hover : l'.isOver = true) : ∃ pending, l'.replica.phase = .waiting pending := by
  -- A replica that was idle and has the same task as before is not over.
  have hidle {m : Lane} (h : l.isIdle = true) (htask : m.task = l.task)
      (hover : m.isOver = true) : False := by
    unfold isOver at hover
    rw [htask, task_of_isIdle h] at hover
    cases hover
  cases h with
  | update u h => exact (hidle h (task_takeUpdate l u) hover).elim
  | outcome h hnext => exact (hidle h rfl hover).elim
  | ended h hnext => exact (hidle h rfl hover).elim
  | record r h =>
    unfold takeRecord at hover ⊢
    split
    · next replica e hread =>
      rw [hread] at hover
      exact over_takeEvent e hover
    · next replica hread =>
      rw [hread] at hover
      exact (hidle (m := { l with replica }) h rfl hover).elim
  | event e h => exact over_takeEvent e hover
  | @load _ e fetch htask hdue p s hp =>
    rw [htask] at hfits
    cases p with
    | waiting next => cases hover
    | answered answer => cases hover
    | broken => exact hfits
  | send htask hsend =>
    rw [isOver_sendStep hsend] at hover
    cases hover
  | collect hcollect =>
    obtain ⟨-, rfl⟩ := collect?_eq_some hcollect
    cases hover
  | worker hstep =>
    obtain ⟨worker, requests, outcomes, rfl⟩ := ofWorker_workerStep hstep
    exact hl hover
  | aside records updates loops looking => exact hl hover
  | world w' => exact hl hover

end

/-! ### Histories -/

theorem actsOf_snoc (ms : List Moment) (m : Moment) : actsOf (ms ++ [m]) = actsOf ms ++ [m.act] :=
  List.map_append

theorem returnedOf_snoc (ms : List Moment) (m : Moment) :
    returnedOf (ms ++ [m]) = returnedOf ms ++ m.returned := by
  simp [returnedOf]

section
variable {start l : Lane} {w : World} {ms : List Moment}

theorem History.run (h : History start ms w l) : Run start (actsOf ms) l := by
  induction h with
  | nil => exact .nil
  | snoc h hnow ih =>
    rw [actsOf_snoc]
    exact ih.snoc (.happens hnow)

theorem History.over (h : History start ms w l) (hfresh : Fresh start.replica start)
    (hover : l.isOver = true) : ∃ pending, l.replica.phase = .waiting pending := by
  induction h with
  | nil =>
    rw [(not_isBusy (isIdle_of_task hfresh.idle)).2] at hover
    cases hover
  | snoc h hnow ih => exact hnow.over (h.run.traced hfresh).fits ih hover

/-- A lane after all that happened, as long as it is not over. -/
structure Recorded (last : UInt64) (ms : List Moment) (l : Lane) : Prop where
  orderly : l.Orderly
  /-- What the worker came to was taken or is still to be taken. -/
  returned : returnedOf ms = outcomesOf (actsOf ms) ++ l.answers
  /-- A definition was held by the store after it was wished for. -/
  read : ∀ o ∈ returnedOf ms, ∀ d, o.answer = .ok (some d) → ∃ before m after,
    ms = before ++ m :: after ∧ request o ∈ wishes last (actsOf before) ∧
      m.store.fetch o.ruleId = some d

theorem History.recorded (h : History start ms w l) (hfresh : Fresh start.replica start)
    (horder : start.Orderly) (hlive : l.isOver = false) :
    Recorded start.replica.lastIssued ms l := by
  induction h with
  | nil w =>
    refine ⟨horder, ?_, fun o ho => by cases ho⟩
    have hnone := (inFlight_eq start).symm.trans hfresh.flight
    rw [List.append_eq_nil_iff, List.map_eq_nil_iff] at hnone
    exact hnone.1.symm
  | @snoc ms w w' l l' a h hnow ih =>
    have hover := hnow.live hlive
    obtain ⟨horder, hreturned, hread⟩ := ih hover
    obtain ⟨horder', hanswers⟩ := (Acts.happens hnow).answers horder hlive fun o ho =>
      hnow.keeps horder hlive ho
    refine ⟨horder', ?_, fun o ho d hd => ?_⟩
    · rw [returnedOf_snoc, hreturned, actsOf_snoc, outcomesOf_snoc, List.append_assoc,
        List.append_assoc]
      exact congrArg _ hanswers.symm
    · rw [returnedOf_snoc] at ho
      rcases List.mem_append.1 ho with ho | ho
      · obtain ⟨before, m, after, rfl, hwish, hheld⟩ := hread o ho d hd
        refine ⟨before, m, after ++ [⟨a, w.store, l.answered l'⟩], ?_, hwish, hheld⟩
        rw [List.append_assoc, List.cons_append]
      · obtain ⟨hflight, hheld⟩ := hnow.read hlive ho hd
        refine ⟨ms, _, [], rfl, ?_, hheld⟩
        exact (h.run.traced hfresh).asked.subset (List.mem_append_right _ hflight)

end

/-! ### Rules and their last upserts -/

/-- The rule that came of the last upsert of an id is the one in force, whatever was loaded. -/
theorem Traced.shows_upsert {number : Nat} {acts : List Act} {l : Lane}
    (h : Traced { number } acts l) (hlen : (updatesOf acts).length < 2 ^ 64) {registry : Registry}
    (hready : l.replica.registry? = some registry) {k : Nat} {id : String}
    (hlast : LastFor (updatesOf acts) k ⟨id, .upsert⟩) {d : Definition} {rule : Rule}
    (hcompile : Rule.compile id d = .ok rule)
    (htaken : ⟨seqAt 0 k, id, .ok (some d)⟩ ∈ outcomesOf acts) :
    registry.get? id = some rule ∧ registry.version? id = some (seqAt 0 k) := by
  have hid := Rule.id_of_compile hcompile
  have hchange : .upsert (seqAt 0 k) rule ∈ changes 0 acts := by
    refine mem_changes.2 (.inr ⟨_, htaken, ?_⟩)
    unfold FetchOutcome.change?
    dsimp only
    rw [hcompile]
    rfl
  have hplace : LastFor (updatesOf acts) k ⟨rule.id, .upsert⟩ := by
    rw [hid]
    exact hlast
  -- What was loaded has number zero, and the upsert a later one.
  obtain ⟨answer, -, -, rfl⟩ := h.exists_load hready
  have hbase := grounded_ofRules 0 (Rule.ofDefinitions (Definition.told answer))
  have hshows := h.shows (numbers_of_new hlen) hbase hchange hplace rfl
  rw [← hid]
  exact ⟨hshows.rule, hshows.version⟩

/-- A wish with the number of an update was made for that update. -/
theorem update_of_wish {last : UInt64} {acts : List Act} {k n : Nat} {id : String}
    (hn : last.toNat + n < 2 ^ 64) (hk : k < n) (hlen : (updatesOf acts).length ≤ n)
    (h : ⟨seqAt last k, id⟩ ∈ wishes last acts) :
    (updatesOf acts)[k]? = some ⟨id, .upsert⟩ := by
  obtain ⟨j, hj, hseq⟩ := mem_wishes.1 h
  have hjlt := (List.getElem?_eq_some_iff.1 hj).1
  have hkj : k = j := seqAt_inj hn hk (Nat.lt_of_lt_of_le hjlt hlen) hseq
  rw [hkj]
  exact hj

/-- **The rule of an id is never older than its last upsert.** When a new replica has its rules and
nothing is under way any more, the rule of an id whose last update was an upsert is the one that
came of that upsert, under its number, if the worker came to a rule for it; and the store held its
definition at a moment after the upsert was taken. -/
theorem never_older {number capacity : Nat} {ms : List Moment} {w : World} {l : Lane}
    (h : History (.ofReplica { number } capacity) ms w l)
    (hlen : (updatesOf (actsOf ms)).length < 2 ^ 64) {registry : Registry}
    (hready : l.replica.registry? = some registry) (hnone : l.inFlight = []) {k : Nat}
    {id : String} (hlast : LastFor (updatesOf (actsOf ms)) k ⟨id, .upsert⟩) {d : Definition}
    (hreturned : ⟨seqAt 0 k, id, .ok (some d)⟩ ∈ returnedOf ms) {rule : Rule}
    (hcompile : Rule.compile id d = .ok rule) :
    registry.get? id = some rule ∧ registry.version? id = some (seqAt 0 k) ∧
      ∃ before m after, ms = before ++ m :: after ∧
        (updatesOf (actsOf before))[k]? = some ⟨id, .upsert⟩ ∧ m.store.fetch id = some d := by
  have hfresh := fresh_ofReplica { number } capacity
  have hlive : l.isOver = false := by
    cases hover : l.isOver with
    | false => rfl
    | true =>
      obtain ⟨pending, hphase⟩ := h.over hfresh hover
      rw [Replica.ready_iff, hphase] at hready
      cases hready
  obtain ⟨-, hanswers, hread⟩ := h.recorded hfresh ⟨rfl, rfl⟩ hlive
  have htaken : ⟨seqAt 0 k, id, .ok (some d)⟩ ∈ outcomesOf (actsOf ms) := by
    rw [inFlight_eq, List.append_eq_nil_iff, List.map_eq_nil_iff] at hnone
    rw [hanswers, hnone.1, List.append_nil] at hreturned
    exact hreturned
  obtain ⟨hrule, hversion⟩ :=
    (h.run.traced hfresh).shows_upsert hlen hready hlast hcompile htaken
  obtain ⟨before, m, after, rfl, hwish, hheld⟩ := hread _ hreturned d rfl
  refine ⟨hrule, hversion, before, m, after, rfl, ?_, hheld⟩
  refine update_of_wish (numbers_of_new hlen) (List.getElem?_eq_some_iff.1 hlast.here).1 ?_ hwish
  unfold updatesOf actsOf
  rw [List.map_append, List.filterMap_append, List.length_append]
  exact Nat.le_add_right ..

/-! ### A definition that is written over -/

theorem isOver_answered (l : Lane) (w : World) (e : Event)
    (answer : Except Error (List (String × Definition))) :
    (l.loaded w e (.answered answer)).isOver = false := rfl

/-- What a definition is written over with. -/
def writtenOver : Definition := { sql := "x = 'z'", enabled := false }

/-- What the worker comes to before that. -/
def readBefore : FetchOutcome := ⟨1, "A", .ok (some switchedOff)⟩

/-- A definition is read for an upsert, and written over before the rules are loaded. -/
theorem exists_history_writtenOver : ∃ ms w l, History (.ofReplica { number := 0 } 1) ms w l ∧
    updatesOf (actsOf ms) = [⟨"A", .upsert⟩] ∧ .load (.ok [("A", writtenOver)]) ∈ actsOf ms ∧
      returnedOf ms = [readBefore] ∧ l.inFlight = [] := by
  let before := World.prompt (Table.empty.insert "A" switchedOff)
  let after := World.prompt (Table.empty.insert "A" writtenOver)
  let event : Event := { msgId := "m", timestamp := ⟨0, 0⟩ }
  let asked : Lane := .ofReplica { number := 0, lastIssued := 1 } 1
  let taken : Lane := { asked with replica := asked.replica.takeOutcome readBefore }
  let loading : Lane := (taken.takeEvent after event).2
  let other : Moment := ⟨.other, before.store, []⟩
  let ms : List Moment := [⟨.update ⟨"A", .upsert⟩, before.store, []⟩, other,
    ⟨.other, before.store, [readBefore]⟩, other, ⟨.outcome readBefore, before.store, []⟩, other]
  -- The worker fetches the definition and hands it over.
  have told : History (.ofReplica { number := 0 } 1) (ms.take 1) before
      { asked with requests := [⟨1, "A"⟩] } :=
    (History.nil before).snoc (.update ⟨"A", .upsert⟩ rfl)
  have called : History (.ofReplica { number := 0 } 1) (ms.take 2) before
      { asked with worker := .fetching ⟨1, "A"⟩ ⟨0, 0, .called 0 none⟩ } := told.snoc (.worker rfl)
  have read : History (.ofReplica { number := 0 } 1) (ms.take 3) before
      { asked with worker := .telling readBefore false } := called.snoc (.worker rfl)
  have handed : History (.ofReplica { number := 0 } 1) (ms.take 4) before
      { asked with outcomes := { capacity := 1, queued := [readBefore] } } :=
    read.snoc (.worker rfl)
  have outside : History (.ofReplica { number := 0 } 1) ms after taken :=
    (handed.snoc (.outcome rfl rfl)).snoc (.world after)
  -- Another one is loaded.
  obtain ⟨pending, hphase⟩ : ∃ pending, taken.replica.phase = .waiting pending :=
    ⟨_, asked.replica.phase_takeOutcome readBefore⟩
  have htask := task_takeEvent (w := after) hphase event rfl
  have hlive : loading.isOver = false := by
    unfold isOver
    rw [htask]
  have hevent := (ofReplica_takeEvent taken after event hlive).sameWorker
  have hload := (ofReplica_loaded loading after event (.answered (.ok [("A", writtenOver)]))
    (isOver_answered ..)).sameWorker
  have offered := (outside.snoc (.event event rfl)).snoc (.world after)
  have loaded := offered.snoc (.load (w := after) (p := .answered (.ok [("A", writtenOver)])) htask
    (Nat.le_refl 0) rfl)
  refine ⟨_, _, _, loaded, rfl, by simp [actsOf, Act.ofProgress], ?_, ?_⟩
  · rw [returnedOf_snoc, returnedOf_snoc, returnedOf_snoc]
    dsimp only
    rw [answered_of_same hevent.worker, answered_of_same rfl, answered_of_same hload.worker]
    rfl
  · rw [inFlight_eq, hload.answers, hload.asking, hevent.answers, hevent.asking]
    rfl

theorem never_older_writtenOver : ∃ (ms : List Moment) (w : World) (l : Lane) (registry : Registry)
    (rule : Rule), History (.ofReplica { number := 0 } 1) ms w l ∧
      .load (.ok [("A", writtenOver)]) ∈ actsOf ms ∧ Rule.compile "A" switchedOff = .ok rule ∧
      l.replica.registry? = some registry ∧ registry.get? "A" = some rule ∧
      registry.version? "A" = some 1 := by
  obtain ⟨ms, w, l, h, hupdates, hload, hreturned, hnone⟩ := exists_history_writtenOver
  obtain ⟨registry, hregistry⟩ := (h.run.traced (fresh_ofReplica ..)).ready_of_load hload
  have hcompiles : (Rule.compile "A" switchedOff).toOption.isSome = true := by decide +kernel
  have hlast : LastFor (updatesOf (actsOf ms)) 0 ⟨"A", .upsert⟩ := by
    rw [hupdates]
    exact ⟨rfl, fun j v hj _ => Nat.le_of_lt_succ (List.getElem?_eq_some_iff.1 hj).1⟩
  have hmem : readBefore ∈ returnedOf ms := by
    rw [hreturned]
    exact List.mem_singleton.2 rfl
  cases hcompile : Rule.compile "A" switchedOff with
  | error error =>
    rw [hcompile] at hcompiles
    cases hcompiles
  | ok rule =>
    obtain ⟨hrule, hversion, -⟩ :=
      never_older h (by rw [hupdates]; decide) hregistry hnone hlast hmem hcompile
    exact ⟨ms, w, l, registry, rule, h, hload, rfl, hregistry, hrule, hversion⟩

end Lane
end Watchpost
