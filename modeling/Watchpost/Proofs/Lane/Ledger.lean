import Watchpost.Proofs.Lane.Line
import Watchpost.Proofs.Lane.Number
import Watchpost.Proofs.Replica.Fates

/-! Where updates are.

The number of an update is with its wish as long as that is under way, then with its change as
long as that is put aside, and its way ends once (`nothing_lost`). What ends with each act is known
from what was done (`endings`), and it is what the replica counts (`Acts.fates`). -/
namespace Watchpost

namespace Replica.Phase

/-- The changes that are put aside. -/
def pending : Phase → List Change
  | .waiting pending => pending
  | .ready _ => []

/-- A change that comes is put aside or comes to its end. -/
theorem places_take (p : Phase) (cs : List Change) :
    (p.take cs).pending.map Change.seq ++ (p.settle cs).map Ending.seq =
      p.pending.map Change.seq ++ cs.map Change.seq := by
  cases p with
  | waiting pending => simp [take, Phase.pending, settle]
  | ready registry => exact registry.map_seq_settle cs

end Replica.Phase

namespace Lane

/-! ### What ends -/

namespace Act

/-- The phase of a replica after what is done. -/
def phase (p : Replica.Phase) (last : UInt64) (a : Act) : Replica.Phase :=
  (p.ground a.load?.toList).take (a.changes last)

/-- The numbers that updates get. -/
def numbers (last : UInt64) : Act → List UInt64
  | update _ => [last + 1]
  | _ => []

/-- The ways that end with what is done. Without a worker no definition comes. -/
def endings (gone : Bool) (p : Replica.Phase) (last : UInt64) : Act → List Ending
  | update ⟨id, .delete⟩ => p.settle [.delete (last + 1) id]
  | update ⟨_, .upsert⟩ => if gone then [⟨last + 1, .unfetched⟩] else []
  | outcome o => o.endings p
  | load answer => (Registry.ofRules (Rule.ofDefinitions (Definition.told answer))).settle p.pending
  | other => []

/-- The failures that loading counts for itself. -/
def failures (f : Fate) : Act → Nat
  | load answer => Definition.failures f answer
  | _ => 0

/-- **What is done moves numbers from one place to another.** -/
theorem places (gone : Bool) (p : Replica.Phase) (last : UInt64) (a : Act) :
    (a.phase p last).pending.map Change.seq ++ (a.endings gone p last).map Ending.seq ++
        (if gone then [] else a.wishes last).map FetchRequest.seq =
      p.pending.map Change.seq ++ a.numbers last ++ a.outcome?.toList.map FetchOutcome.seq := by
  cases a with
  | update u =>
    obtain ⟨id, action⟩ := u
    cases action with
    | delete =>
      have htake := p.places_take [.delete (last + 1) id]
      cases gone <;> simpa [phase, endings, wishes, numbers, load?, outcome?, changes,
        Replica.Phase.ground, Change.seq] using htake
    | upsert =>
      cases gone <;>
        simp [phase, endings, wishes, numbers, load?, outcome?, changes, Replica.Phase.ground]
  | outcome o =>
    have hphase : (outcome o).phase p last = p.take o.change?.toList := rfl
    have hwishes : (if gone then [] else (outcome o).wishes last) = [] := by split <;> rfl
    rw [hphase, hwishes]
    cases hchange : o.change? with
    | none => simp [endings, FetchOutcome.endings, numbers, outcome?, hchange]
    | some c =>
      obtain ⟨rule, rfl, -⟩ := change?_eq_some hchange
      simpa [endings, FetchOutcome.endings, numbers, outcome?, hchange, Change.seq] using
        p.places_take [.upsert o.seq rule]
  | load answer =>
    have hpending : ((load answer).phase p last).pending = [] := by cases p <;> rfl
    have hwishes : (if gone then [] else (load answer).wishes last) = [] := by split <;> rfl
    rw [hpending, hwishes]
    simp [endings, numbers, outcome?, Registry.map_seq_settle]
  | other =>
    have hwishes : (if gone then [] else other.wishes last) = [] := by split <;> rfl
    rw [hwishes]
    simp [phase, endings, numbers, load?, outcome?, changes, Replica.Phase.ground]

end Act

/-- The phase of a replica after a run. -/
def phaseAfter (p : Replica.Phase) (last : UInt64) (acts : List Act) : Replica.Phase :=
  (p.ground (loadsOf acts)).take (changes last acts)

/-- The ways that end in a run. -/
def endings (gone : Bool) (p : Replica.Phase) (last : UInt64) : List Act → List Ending
  | [] => []
  | a :: rest => a.endings gone p last ++ endings gone (a.phase p last) (a.next last) rest

/-- The failures that loading counted for itself in a run. -/
def failures (f : Fate) : List Act → Nat
  | [] => 0
  | a :: rest => a.failures f + failures f rest

theorem phaseAfter_cons (p : Replica.Phase) (last : UInt64) (a : Act) (rest : List Act) :
    phaseAfter (a.phase p last) (a.next last) rest = phaseAfter p last (a :: rest) := by
  have hloads : loadsOf (a :: rest) = a.load?.toList ++ loadsOf rest := by cases a <;> rfl
  have hchanges : changes last (a :: rest) = a.changes last ++ changes (a.next last) rest := rfl
  unfold phaseAfter Act.phase
  rw [Replica.Phase.ground_take, ← hloads, hchanges, Replica.Phase.take_append]

theorem phaseAfter_snoc (p : Replica.Phase) (last : UInt64) (acts : List Act) (a : Act) :
    phaseAfter p last (acts ++ [a]) = a.phase (phaseAfter p last acts) (issued last acts) := by
  have hchanges : changes last (acts ++ [a]) =
      changes last acts ++ a.changes (issued last acts) := gather_snoc ..
  unfold phaseAfter Act.phase
  rw [Replica.Phase.ground_take, ← loadsOf_snoc, hchanges, Replica.Phase.take_append]

theorem endings_snoc (gone : Bool) (p : Replica.Phase) (last : UInt64) (acts : List Act) (a : Act) :
    endings gone p last (acts ++ [a]) = endings gone p last acts ++
      a.endings gone (phaseAfter p last acts) (issued last acts) := by
  induction acts generalizing p last with
  | nil =>
    have hphase : phaseAfter p last [] = p := Replica.Phase.take_nil p
    rw [hphase]
    exact List.append_nil _
  | cons b rest ih =>
    rw [List.cons_append, endings, endings, ih, phaseAfter_cons, List.append_assoc]
    rfl

theorem failures_snoc (f : Fate) (acts : List Act) (a : Act) :
    failures f (acts ++ [a]) = failures f acts + a.failures f := by
  induction acts with
  | nil => exact Nat.add_comm ..
  | cons b rest ih => rw [List.cons_append, failures, failures, ih, Nat.add_assoc]

/-- Updates are numbered as they come. -/
theorem numbers_eq (last : UInt64) (acts : List Act) :
    gather Act.numbers last acts = (List.range (updatesOf acts).length).map (seqAt last) := by
  induction acts using List.reverseRecOn with
  | nil => rfl
  | append_singleton acts a ih =>
    rw [gather_snoc, ih, updatesOf_snoc]
    cases a with
    | update u =>
      have hnumber : issued last acts + 1 = seqAt last (updatesOf acts).length := by
        unfold seqAt
        rw [issued_eq, UInt64.ofNat_add, UInt64.add_assoc]
        rfl
      simp [Act.numbers, Act.update?, List.range_succ, hnumber]
    | outcome _ | load _ | other => simp [Act.numbers, Act.update?]

theorem map_seq_request (os : List FetchOutcome) :
    (os.map request).map FetchRequest.seq = os.map FetchOutcome.seq := List.map_map

/-- As long as the numbers do not run out, no two updates have the same. -/
theorem nodup_seqAt {last : UInt64} {n : Nat} (h : last.toNat + n < 2 ^ 64) :
    ((List.range n).map (seqAt last)).Nodup :=
  (List.nodup_map_iff_inj_on List.nodup_range).2 fun _ hj _ hk heq =>
    seqAt_inj h (List.mem_range.1 hj) (List.mem_range.1 hk) heq

/-- The numbers of a run are where they were, or moved on. -/
theorem places_run (gone : Bool) (p : Replica.Phase) (last : UInt64) (acts : List Act) :
    ((phaseAfter p last acts).pending.map Change.seq ++ (endings gone p last acts).map Ending.seq ++
        (if gone then [] else wishes last acts).map FetchRequest.seq).Perm
      (p.pending.map Change.seq ++ (List.range (updatesOf acts).length).map (seqAt last) ++
        (outcomesOf acts).map FetchOutcome.seq) := by
  rw [← numbers_eq]
  induction acts using List.reverseRecOn with
  | nil =>
    have hphase : phaseAfter p last [] = p := Replica.Phase.take_nil p
    rw [hphase]
    cases gone <;> exact .refl _
  | append_singleton acts a ih =>
    have hwishes : wishes last (acts ++ [a]) =
        wishes last acts ++ a.wishes (issued last acts) := gather_snoc ..
    have hstep := a.places gone (phaseAfter p last acts) (issued last acts)
    -- Places are not in one order, so each number is counted by itself.
    rw [List.perm_iff_count] at ih ⊢
    intro x
    have hcount := ih x
    have hmoved := congrArg (List.count x) hstep
    rw [phaseAfter_snoc, endings_snoc, hwishes, gather_snoc, outcomesOf_snoc]
    cases gone <;>
      simp only [Bool.false_eq_true, if_false, if_true, List.map_append, List.map_nil,
        List.count_append, List.count_nil] at hcount hmoved ⊢ <;>
      omega

/-! ### What is counted -/

/-- What an act makes of the replica. -/
inductive Becomes (l : Lane) : Act → Replica → Prop where
  | update (u : RuleUpdate) : Becomes l (.update u) (l.takeUpdate u).replica
  | outcome (o : FetchOutcome) : Becomes l (.outcome o) (l.replica.takeOutcome o)
  | load {pending : List Change} {answer : Except Error (List (String × Definition))} {r : Replica}
      (hphase : l.replica.phase = .waiting pending) (h : (l.replica.load answer).Steady r) :
      Becomes l (.load answer) r
  | other {r : Replica} (h : l.replica.Steady r) : Becomes l .other r

theorem steady_takeEvent (l : Lane) (w : World) (e : Event) :
    l.replica.Steady (l.takeEvent w e).2.replica := by
  have hoffered := l.replica.steady_offered (w.offer e).1
  unfold takeEvent
  dsimp only
  split
  · exact hoffered.trans (Replica.steady_evaluate _ _ _)
  · unfold Fetch.start Fetch.call
    cases (w.offer e).2.store.conduct with
    | answers delay failure => exact hoffered
    | breaks => exact hoffered

theorem steady_takeRecord (l : Lane) (w : World) (record : Record) :
    l.replica.Steady (l.takeRecord w record).2.replica := by
  have hread := l.replica.steady_read w.normalizer record
  unfold takeRecord
  cases h : l.replica.read w.normalizer record with
  | mk replica event =>
    rw [h] at hread
    cases event with
    | some e => exact hread.trans (steady_takeEvent { l with replica } w e)
    | none => exact hread

theorem steady_sendStep {l l' : Lane} {w w' : World} {built left : List Alert} {posted : Bool}
    (h : l.sendStep w built left posted = some (w', l')) : l.replica.Steady l'.replica := by
  cases sends_of_sendStep h with
  | done => exact .refl _
  | waits a rest => exact .refl _
  | sent a rest taken => exact l.replica.steady_sent a taken

theorem Happens.becomes {l l' : Lane} {w w' : World} {a : Act} (h : Happens w l a w' l')
    (hfits : l.task.Fits l.replica.phase) : l.Becomes a l'.replica := by
  cases h with
  | update u hidle => exact .update u
  | outcome hidle hnext => exact .outcome _
  | ended hidle hnext => exact .other (.refl _)
  | record r hidle => exact .other (steady_takeRecord l _ r)
  | event e hidle => exact .other (steady_takeEvent l _ e)
  | @load _ e fetch htask hdue p s hp =>
    rw [htask] at hfits
    obtain ⟨pending, hphase⟩ := hfits
    cases p with
    | waiting next => exact .other (.refl _)
    | answered answer => exact .load hphase (Replica.steady_evaluate _ _ _)
    | broken => exact .other (.refl _)
  | send htask hsend => exact .other (steady_sendStep hsend)
  | collect hcollect =>
    obtain ⟨-, rfl⟩ := collect?_eq_some hcollect
    exact .other (.refl _)
  | worker hstep =>
    obtain ⟨worker, requests, outcomes, rfl⟩ := ofWorker_workerStep hstep
    exact .other (.refl _)
  | aside records updates loops looking => exact .other (.refl _)
  | world w' => exact .other (.refl _)

theorem Acts.becomes {l l' : Lane} {a : Act} (h : Acts l a l')
    (hfits : l.task.Fits l.replica.phase) : l.Becomes a l'.replica := by
  cases h with
  | happens h => exact h.becomes hfits
  | finish hidle => exact .other (.refl _)
  | dismiss =>
    obtain ⟨worker, requests, outcomes, heq⟩ := ofWorker_dismiss l
    rw [heq]
    exact .other (.refl _)

theorem fate_takeUpdate (l : Lane) (u : RuleUpdate) (f : Fate) :
    (l.takeUpdate u).replica.stats.fate f = l.replica.stats.fate f + UInt64.ofNat (Ending.tally f
      (Act.endings l.workerGone l.replica.phase l.replica.lastIssued (.update u))) := by
  obtain ⟨id, action⟩ := u
  cases action with
  | delete => exact l.replica.fate_update_delete id f
  | upsert =>
    unfold takeUpdate Act.endings
    simp only [Replica.update]
    split
    · refine (Replica.fate_count _ .fetchFailures f).trans ?_
      rw [Ending.tally_singleton]
      simp only [Counter.fate?, Option.some.injEq]
    · exact (UInt64.add_zero _).symm

/-- **Each way that ends counts once**, and so does each failure of loading. -/
theorem Acts.fates {l l' : Lane} {a : Act} (h : Acts l a l')
    (hfits : l.task.Fits l.replica.phase) (f : Fate) :
    l'.replica.stats.fate f = l.replica.stats.fate f + UInt64.ofNat (Ending.tally f
      (a.endings l.workerGone l.replica.phase l.replica.lastIssued) + a.failures f) := by
  have hbecomes := h.becomes hfits
  generalize l'.replica = r' at hbecomes ⊢
  cases hbecomes with
  | update u => exact fate_takeUpdate l u f
  | outcome o => exact l.replica.fate_takeOutcome o f
  | @load pending answer r' hphase hsteady =>
    rw [hsteady.fates, Replica.fate_load hphase]
    simp only [Act.endings, Act.failures, hphase, Replica.Phase.pending]
    rw [UInt64.add_assoc, ← UInt64.ofNat_add, Nat.add_comm]
  | other hsteady => exact (hsteady.fates f).trans (UInt64.add_zero _).symm

/-! ### Runs -/

/-- The ways that ended in a run of a lane at which nothing was done before. -/
def ended (start : Lane) (acts : List Act) : List Ending :=
  endings start.workerGone start.replica.phase start.replica.lastIssued acts

/-- The numbers in all places: with what is under way, with changes that are put aside, and with
ends. -/
def places (l : Lane) (ends : List Ending) : List UInt64 :=
  l.inFlight.map FetchRequest.seq ++ l.replica.phase.pending.map Change.seq ++ ends.map Ending.seq

/-- A lane after a run, in which the worker stayed or was not there. -/
structure Booked (start : Lane) (acts : List Act) (l : Lane) : Prop where
  orderly : l.Orderly
  flight : (outcomesOf acts).map request ++ l.inFlight =
    if start.workerGone then [] else wishes start.replica.lastIssued acts
  fates : ∀ f, l.replica.stats.fate f = start.replica.stats.fate f +
    UInt64.ofNat (Ending.tally f (ended start acts) + failures f acts)

section
variable {start l : Lane} {acts : List Act}

theorem Run.gone (h : Run start acts l) (hlive : l.isOver = false)
    (hgone : start.workerGone = true) : l.workerGone = true := by
  induction h with
  | nil => exact hgone
  | snoc hrun ha ih => exact ha.gone hlive (ih (ha.live hlive))

/-- If the worker is there in the end, it was so all the time. -/
theorem Acts.sameWorker {m : Lane} {a : Act} (h : Acts m a l) (hrun : Run start acts m)
    (hlive : l.isOver = false) (hworker : l.workerGone = start.workerGone) :
    m.workerGone = start.workerGone := by
  cases hm : m.workerGone with
  | true => rw [← hworker, h.gone hlive hm]
  | false =>
    cases hstart : start.workerGone with
    | true => rw [← hm, hrun.gone (h.live hlive) hstart]
    | false => rfl

theorem Run.booked (h : Run start acts l) (hfresh : Fresh start.replica start)
    (horder : start.Orderly) (hlive : l.isOver = false)
    (hworker : l.workerGone = start.workerGone) : Booked start acts l := by
  induction h with
  | nil =>
    refine ⟨horder, ?_, fun f => (UInt64.add_zero _).symm⟩
    rw [hfresh.flight]
    split <;> rfl
  | @snoc m l acts a hrun ha ih =>
    have hsame := ha.sameWorker hrun hlive hworker
    have hbooked := ih (ha.live hlive) hsame
    have htraced := hrun.traced hfresh
    obtain ⟨horder', hflight⟩ := ha.flight hbooked.orderly hlive (hworker.trans hsame.symm)
    refine ⟨horder', ?_, fun f => ?_⟩
    · have hwishes : wishes start.replica.lastIssued (acts ++ [a]) =
          wishes start.replica.lastIssued acts ++ a.wishes m.replica.lastIssued := by
        rw [htraced.issued]
        exact gather_snoc ..
      have hasks : m.asks a = if start.workerGone then [] else a.wishes m.replica.lastIssued := by
        unfold asks
        rw [hsame]
      rw [outcomesOf_snoc, List.map_append, List.append_assoc, hflight, ← List.append_assoc,
        hbooked.flight, hasks, hwishes]
      split <;> rfl
    · rw [ha.fates htraced.fits, hbooked.fates, hsame, htraced.phase, htraced.issued,
        UInt64.add_assoc, ← UInt64.ofNat_add, ended, ended, endings_snoc, Ending.tally_append,
        failures_snoc]
      refine congrArg (start.replica.stats.fate f + UInt64.ofNat ·) ?_
      unfold phaseAfter
      omega

end

/-- The first numbers. -/
theorem map_seqAt_range (n : Nat) :
    (List.range n).map (seqAt 0) = (List.range' 1 n).map UInt64.ofNat := by
  rw [List.range'_eq_map_range, List.map_map]
  refine List.map_congr_left fun k _ => ?_
  show 0 + UInt64.ofNat (k + 1) = UInt64.ofNat (1 + k)
  rw [UInt64.zero_add, Nat.add_comm]

theorem nodup_numbers {n : Nat} (h : n < 2 ^ 64) : ((List.range' 1 n).map UInt64.ofNat).Nodup := by
  rw [← map_seqAt_range]
  refine nodup_seqAt ?_
  rw [UInt64.toNat_zero, Nat.zero_add]
  exact h

/-- A new lane, whose worker may have been sent away before it was asked for anything. -/
def Begun (number capacity : Nat) (l : Lane) : Prop :=
  l = .ofReplica { number } capacity ∨ l = (Lane.ofReplica { number } capacity).dismiss

section
variable {number capacity : Nat} {start l : Lane} {acts : List Act}

theorem Begun.new (h : Begun number capacity start) :
    start.replica = { number } ∧ Fresh start.replica start ∧ start.Orderly := by
  rcases h with rfl | rfl <;> exact ⟨rfl, ⟨rfl, rfl, rfl⟩, rfl, rfl⟩

/-- **Every number is in one place.** -/
theorem Booked.places (h : Booked start acts l) (hbegun : Begun number capacity start)
    (htraced : Traced start.replica acts l) :
    (l.places (ended start acts)).Perm
      ((List.range' 1 (updatesOf acts).length).map UInt64.ofNat) := by
  have hphase := htraced.phase
  have hflight := congrArg (List.map FetchRequest.seq) h.flight
  unfold Lane.places ended
  rw [List.map_append, map_seq_request] at hflight
  rw [hbegun.new.1] at hphase hflight ⊢
  rw [← map_seqAt_range, hphase, List.perm_iff_count]
  intro x
  -- What was taken from the line stands on both sides.
  have hcount := (places_run start.workerGone (.waiting []) 0 acts).count_eq x
  rw [List.count_append, ← hflight] at hcount
  simp only [phaseAfter, Replica.Phase.pending, List.map_nil, List.count_append, List.count_nil]
    at hcount ⊢
  omega

/-- Loading brings no change into force by itself. -/
theorem failures_eq_zero {f : Fate} (hf : f = .applied ∨ f = .stale) (acts : List Act) :
    failures f acts = 0 := by
  induction acts using List.reverseRecOn with
  | nil => rfl
  | append_singleton acts a ih =>
    rw [failures_snoc, ih]
    rcases hf with rfl | rfl <;> cases a <;> rfl

/-- The counters and what is under way or put aside add up. -/
theorem Booked.sum (h : Booked start acts l) (hbegun : Begun number capacity start)
    (hplaces : (l.places (ended start acts)).Perm
      ((List.range' 1 (updatesOf acts).length).map UInt64.ofNat)) :
    l.replica.stats.applied + l.replica.stats.stale + l.replica.stats.compileFailures +
        l.replica.stats.fetchFailures + UInt64.ofNat l.replica.phase.pending.length +
        UInt64.ofNat l.inFlight.length =
      UInt64.ofNat (updatesOf acts).length +
        UInt64.ofNat (failures .uncompiled acts + failures .unfetched acts) := by
  have hlength := hplaces.length_eq
  have hfate (f : Fate) : l.replica.stats.fate f =
      UInt64.ofNat (Ending.tally f (ended start acts) + failures f acts) := by
    rw [h.fates, hbegun.new.1]
    cases f <;> exact UInt64.zero_add _
  have happlied : l.replica.stats.applied = _ := hfate .applied
  have hstale : l.replica.stats.stale = _ := hfate .stale
  have huncompiled : l.replica.stats.compileFailures = _ := hfate .uncompiled
  have hunfetched : l.replica.stats.fetchFailures = _ := hfate .unfetched
  rw [failures_eq_zero (.inl rfl)] at happlied
  rw [failures_eq_zero (.inr rfl)] at hstale
  rw [happlied, hstale, huncompiled, hunfetched]
  simp only [← UInt64.ofNat_add]
  simp only [Lane.places, List.length_append, List.length_map, List.length_range',
    Ending.length_eq (ended start acts)] at hlength
  refine congrArg UInt64.ofNat ?_
  omega

/-- **No update is lost or counted twice**, as long as the replica is there, and its worker unless
it was sent away before. Each number is with a wish or an outcome under way, with a change that was
put aside, or with the one end that its way came to; the counters tell how many ways came to which
end, and what failed in loading. Outcomes are taken in the order of the wishes, and one that is no
rule changes no rule. -/
theorem nothing_lost (hbegun : Begun number capacity start) (hrun : Run start acts l)
    (hlive : l.isOver = false) (hworker : l.workerGone = start.workerGone) :
    (l.places (ended start acts)).Perm
      ((List.range' 1 (updatesOf acts).length).map UInt64.ofNat) ∧
    ((updatesOf acts).length < 2 ^ 64 → (l.places (ended start acts)).Nodup) ∧
    (outcomesOf acts).map request ++ l.inFlight =
      (if start.workerGone then [] else wishes 0 acts) ∧
    (∀ f, l.replica.stats.fate f =
      UInt64.ofNat (Ending.tally f (ended start acts) + failures f acts)) ∧
    l.replica.stats.applied + l.replica.stats.stale + l.replica.stats.compileFailures +
        l.replica.stats.fetchFailures + UInt64.ofNat l.replica.phase.pending.length +
        UInt64.ofNat l.inFlight.length =
      UInt64.ofNat (updatesOf acts).length +
        UInt64.ofNat (failures .uncompiled acts + failures .unfetched acts) ∧
    ∀ o : FetchOutcome,
      (∀ d, o.answer = .ok (some d) → ∃ e, Rule.compile o.ruleId d = .error e) →
        (l.replica.takeOutcome o).phase = l.replica.phase := by
  obtain ⟨hreplica, hfresh, horder⟩ := hbegun.new
  have hbooked := hrun.booked hfresh horder hlive hworker
  have hplaces := hbooked.places hbegun (hrun.traced hfresh)
  have hflight := hbooked.flight
  rw [hreplica] at hflight
  refine ⟨hplaces, fun hlen => hplaces.nodup_iff.2 (nodup_numbers hlen), hflight, fun f => ?_,
    hbooked.sum hbegun hplaces, fun o hfails => ?_⟩
  · rw [hbooked.fates, hreplica]
    cases f <;> exact UInt64.zero_add _
  · have hnone : o.change? = none := by
      unfold FetchOutcome.change?
      split
      · next d hd =>
        obtain ⟨e, he⟩ := hfails d hd
        rw [he]
        rfl
      · rfl
    rw [Replica.phase_takeOutcome, hnone]
    exact Replica.Phase.take_nil _

end

/-- An update waits for its wish, one for the rules to be loaded, and one failed. -/
theorem nothing_lost_underway : ∃ (acts : List Act) (l : Lane),
    Run (.ofReplica { number := 0 } 1) acts l ∧ l.isOver = false ∧ l.workerGone = false ∧
      l.places (ended (.ofReplica { number := 0 } 1) acts) = [3, 1, 2] ∧
      (l.places (ended (.ofReplica { number := 0 } 1) acts)).Nodup ∧
      l.replica.stats.fate .unfetched = 1 := by
  let world := World.prompt .empty
  have deleted :=
    Run.nil.happens world (.update (l := .ofReplica { number := 0 } 1) ⟨"A", .delete⟩ rfl)
  have asked := deleted.happens world (.update ⟨"B", .upsert⟩ rfl)
  have told := asked.happens world (.update ⟨"C", .upsert⟩ rfl)
  have fetched := (told.happens world (.worker rfl)).happens world (.worker rfl)
  have taken := (fetched.happens world (.worker rfl)).happens world (.outcome rfl rfl)
  have hbegun : Begun 0 1 (.ofReplica { number := 0 } 1) := .inl rfl
  obtain ⟨-, hnodup, -, hfates, -, -⟩ := nothing_lost hbegun taken rfl rfl
  exact ⟨_, _, taken, rfl, rfl, rfl, hnodup (by decide), hfates .unfetched⟩

end Lane
end Watchpost
