import Mathlib.Algebra.Group.Nat.Defs
import Watchpost.Proofs.Replica.Counts
import Watchpost.Proofs.Replica.Metrics

/-! What becomes of updates, and what a replica tells of it.

The way of an update ends when its change comes into force or comes too late, or when no rule came
of it. Each end counts once (`fate_apply`, `fate_takeOutcome`, `fate_load`), and what a replica
does with records counts no end at all (`Steady`). The number of rules it shows is that of the
rules it has (`Gauged`). -/
namespace Watchpost

/-- How the way of an update ends. -/
inductive Fate where
  | applied
  /-- A later update of its id is in force. -/
  | stale
  /-- Its definition was no rule. -/
  | uncompiled
  /-- No definition came. -/
  | unfetched
  deriving DecidableEq

/-- The end of the way of an update, with its number. -/
structure Ending where
  seq : UInt64
  fate : Fate
  deriving DecidableEq

/-- How many ways ended so. -/
def Ending.tally (f : Fate) (es : List Ending) : Nat := es.countP (·.fate = f)

/-- How many ways that ended with the loading of the rules a metric should tell of and does not. -/
def Ending.hidden (m : Metric) (es : List Ending) : Nat :=
  if m = .applied then tally .applied es else 0

/-- What is counted of the ways that ended so. -/
def Stats.fate (s : Stats) : Fate → UInt64
  | .applied => s.applied
  | .stale => s.stale
  | .uncompiled => s.compileFailures
  | .unfetched => s.fetchFailures

def Fate.ofVerdict : Verdict → Fate
  | .applied => .applied
  | .stale => .stale

/-- The fate that a counter counts. -/
def Counter.fate? : Counter → Option Fate
  | applied _ => some .applied
  | compileFailures => some .uncompiled
  | fetchFailures => some .unfetched
  | events | dropped | alerts _ | sinkFailures => none

/-- What becomes of changes that come one after the other. -/
def Registry.settle (r : Registry) : List Change → List Ending
  | [] => []
  | c :: rest => ⟨c.seq, .ofVerdict (r.apply c).2⟩ :: settle (r.apply c).1 rest

/-- Changes that are put aside have not come to their ends. -/
def Replica.Phase.settle : Phase → List Change → List Ending
  | .waiting _, _ => []
  | .ready registry, cs => registry.settle cs

/-- What becomes of an update whose outcome makes no change. -/
def FetchOutcome.lapse (o : FetchOutcome) : Fate :=
  match o.answer with
  | .ok (some _) => .uncompiled
  | .ok none | .error _ => .unfetched

/-- What becomes of an update when its outcome is taken. -/
def FetchOutcome.endings (o : FetchOutcome) (p : Replica.Phase) : List Ending :=
  match o.change? with
  | some c => p.settle [c]
  | none => [⟨o.seq, o.lapse⟩]

/-- The failures that loading counts for itself. -/
def Definition.failures (f : Fate) (answer : Except Error (List (String × Definition))) : Nat :=
  match f, answer with
  | .uncompiled, .ok definitions =>
    definitions.countP fun e => (Rule.compile e.1 e.2).toOption.isNone
  | .unfetched, .error _ => 1
  | _, _ => 0

theorem Ending.tally_append (f : Fate) (es more : List Ending) :
    tally f (es ++ more) = tally f es + tally f more := List.countP_append

theorem Ending.tally_singleton (f : Fate) (e : Ending) :
    tally f [e] = if e.fate = f then 1 else 0 := by
  simp [tally, List.countP_cons]

/-- Every way that ended did so in one way. -/
theorem Ending.length_eq (es : List Ending) :
    es.length = tally .applied es + tally .stale es + tally .uncompiled es + tally .unfetched es := by
  induction es with
  | nil => rfl
  | cons e rest ih =>
    obtain ⟨seq, fate⟩ := e
    cases fate <;> simp [tally] at ih ⊢ <;> omega

theorem Registry.map_seq_settle (r : Registry) (cs : List Change) :
    (r.settle cs).map Ending.seq = cs.map Change.seq := by
  induction cs generalizing r with
  | nil => rfl
  | cons c rest ih => exact congrArg (c.seq :: ·) (ih _)

namespace Replica

/-! ### What is not about changes -/

/-- A replica that did something else. -/
structure Steady (r r' : Replica) : Prop where
  number : r'.number = r.number
  phase : r'.phase = r.phase
  fates : ∀ f, r'.stats.fate f = r.stats.fate f
  gauge : ∀ n, r'.metrics.gauge? n = r.metrics.gauge? n
  /-- What it counts it shows. -/
  unshown : ∀ c, r'.unshown c = r.unshown c

theorem Steady.refl (r : Replica) : r.Steady r :=
  ⟨rfl, rfl, fun _ => rfl, fun _ => rfl, fun _ => rfl⟩

theorem Steady.trans {r s t : Replica} (h : r.Steady s) (h' : s.Steady t) : r.Steady t where
  number := h'.number.trans h.number
  phase := h'.phase.trans h.phase
  fates f := (h'.fates f).trans (h.fates f)
  gauge n := (h'.gauge n).trans (h.gauge n)
  unshown c := (h'.unshown c).trans (h.unshown c)

theorem fate_count (r : Replica) (c : Counter) (f : Fate) :
    (r.count c).stats.fate f = r.stats.fate f + UInt64.ofNat (if c.fate? = some f then 1 else 0) := by
  cases c <;> cases f <;> first | rfl | exact (UInt64.add_zero _).symm

theorem steady_count (r : Replica) {c : Counter} (h : c.fate? = none) : r.Steady (r.count c) where
  number := rfl
  phase := rfl
  fates f := by
    rw [fate_count, h]
    exact UInt64.add_zero _
  gauge _ := rfl
  unshown := r.unshown_count c

theorem steady_offered (r : Replica) (taken : Bool) : r.Steady (r.offered taken) := by
  unfold offered
  split
  · exact .refl r
  · exact r.steady_count rfl

theorem steady_sent (r : Replica) (a : Alert) (taken : Bool) : r.Steady (r.sent a taken) := by
  unfold sent
  split
  · exact r.steady_count rfl
  · exact r.steady_count rfl

theorem steady_read (r : Replica) (n : Normalizer) (record : Record) :
    r.Steady (r.read n record).1 := by
  unfold read
  split
  · exact .refl r
  · exact r.steady_count rfl

theorem steady_evaluate (r : Replica) (now : Instant) (e : Event) :
    r.Steady (r.evaluate now e).1 := by
  unfold evaluate
  split
  · exact .refl r
  · next registry _ =>
    let fired := registry.rules.values.filter (·.fires e)
    have hbuilt : r.Steady { r with
        factory := (alertsOf now e r.factory fired).1, metrics := .evaluation :: r.metrics } :=
      ⟨rfl, rfl, fun _ => rfl, fun _ => rfl, fun c => by cases c <;> rfl⟩
    exact hbuilt.trans (steady_count _ rfl)

/-! ### Ends of ways -/

/-- A verdict is counted under its own fate. -/
theorem fate_countVerdict (s : Stats) (v : Verdict) (f : Fate) :
    (countVerdict s v).fate f =
      s.fate f + UInt64.ofNat (if Fate.ofVerdict v = f then 1 else 0) := by
  cases v <;> cases f <;> first | rfl | exact (UInt64.add_zero _).symm

/-- A change that comes into force or comes too late counts. -/
theorem fate_apply (r : Replica) (c : Change) (f : Fate) :
    (r.apply c).stats.fate f =
      r.stats.fate f + UInt64.ofNat (Ending.tally f (r.phase.settle [c])) := by
  unfold apply
  cases hphase : r.phase with
  | waiting pending => exact (UInt64.add_zero _).symm
  | ready registry =>
    have htally : Ending.tally f ((Phase.ready registry).settle [c]) =
        if Fate.ofVerdict (registry.apply c).2 = f then 1 else 0 := Ending.tally_singleton ..
    rw [htally]
    dsimp only
    rcases registry.apply c with ⟨next, verdict⟩
    cases verdict with
    | applied =>
      refine (fate_count { r with phase := .ready next } (.applied (actionOf c)) f).trans ?_
      cases f <;> rfl
    | stale => exact fate_countVerdict r.stats .stale f

/-- What comes of a wish is a change, or the end of the way of an update. -/
theorem fate_takeOutcome (r : Replica) (o : FetchOutcome) (f : Fate) :
    (r.takeOutcome o).stats.fate f =
      r.stats.fate f + UInt64.ofNat (Ending.tally f (o.endings r.phase)) := by
  obtain ⟨seq, id, answer⟩ := o
  have hlapse (c : Counter) (g : Fate) (hc : c.fate? = some g) :
      (r.count c).stats.fate f = r.stats.fate f + UInt64.ofNat (Ending.tally f [⟨seq, g⟩]) := by
    rw [fate_count, hc, Ending.tally_singleton]
    simp only [Option.some.injEq]
  unfold takeOutcome FetchOutcome.endings FetchOutcome.change?
  cases answer with
  | error error => exact hlapse .fetchFailures .unfetched rfl
  | ok definition =>
    cases definition with
    | none => exact hlapse .fetchFailures .unfetched rfl
    | some d =>
      dsimp only
      cases Rule.compile id d with
      | error error => exact hlapse .compileFailures .uncompiled rfl
      | ok rule => exact r.fate_apply (.upsert seq rule) f

/-- A deletion is a change at once. -/
theorem fate_update_delete (r : Replica) (id : String) (f : Fate) :
    (r.update ⟨id, .delete⟩).1.stats.fate f = r.stats.fate f +
      UInt64.ofNat (Ending.tally f (r.phase.settle [.delete (r.lastIssued + 1) id])) :=
  fate_apply { r with lastIssued := r.lastIssued + 1 } (.delete (r.lastIssued + 1) id) f

/-! ### Loading -/

theorem fate_compileAll (r : Replica) (definitions : List (String × Definition)) (f : Fate) :
    (r.compileAll definitions).1.stats.fate f =
      r.stats.fate f + UInt64.ofNat (Definition.failures f (.ok definitions)) := by
  induction definitions generalizing r with
  | nil => cases f <;> exact (UInt64.add_zero _).symm
  | cons e rest ih =>
    obtain ⟨id, d⟩ := e
    unfold compileAll
    cases hcompile : Rule.compile id d with
    | ok rule =>
      refine (ih r).trans (congrArg (r.stats.fate f + UInt64.ofNat ·) ?_)
      cases f <;> simp [Definition.failures, hcompile, Except.toOption]
    | error error =>
      refine (ih (r.count .compileFailures)).trans ?_
      rw [fate_count, UInt64.add_assoc, ← UInt64.ofNat_add]
      refine congrArg (r.stats.fate f + UInt64.ofNat ·) ?_
      cases f <;> simp [Definition.failures, hcompile, Except.toOption, Counter.fate?, Nat.add_comm]

/-- Changes that waited are counted as they settle. -/
theorem fate_replay (registry : Registry) (s : Stats) (cs : List Change) (f : Fate) :
    (replay registry s cs).2.fate f =
      s.fate f + UInt64.ofNat (Ending.tally f (registry.settle cs)) := by
  induction cs generalizing registry s with
  | nil => exact (UInt64.add_zero _).symm
  | cons c rest ih =>
    have hreplay : replay registry s (c :: rest) =
        replay (registry.apply c).1 (countVerdict s (registry.apply c).2) rest := rfl
    have hsettle : registry.settle (c :: rest) =
        [⟨c.seq, .ofVerdict (registry.apply c).2⟩] ++ (registry.apply c).1.settle rest := rfl
    rw [hreplay, ih, fate_countVerdict, hsettle, Ending.tally_append, Ending.tally_singleton,
      UInt64.ofNat_add, UInt64.add_assoc]

/-- When the rules are loaded, what was put aside comes to its end. -/
theorem fate_load {r : Replica} {pending : List Change} (h : r.phase = .waiting pending)
    (answer : Except Error (List (String × Definition))) (f : Fate) :
    (r.load answer).stats.fate f = r.stats.fate f + UInt64.ofNat (Definition.failures f answer) +
      UInt64.ofNat (Ending.tally f
        ((Registry.ofRules (Rule.ofDefinitions (Definition.told answer))).settle pending)) := by
  unfold load
  rw [h]
  cases answer with
  | error error =>
    refine (fate_replay (.ofRules []) r.fetchFailed.stats pending f).trans ?_
    refine congrArg (· + _) ((r.fate_count .fetchFailures f).trans ?_)
    cases f <;> rfl
  | ok definitions =>
    have hrules := (r.compileAll_rules definitions).1
    refine (fate_replay (.ofRules (r.compileAll definitions).2)
      (r.compileAll definitions).1.stats pending f).trans ?_
    rw [hrules, fate_compileAll]
    rfl

/-! ### What is not shown -/

theorem of_countVerdict (s : Stats) (v : Verdict) {c : Counter} (h : c.metric ≠ .applied) :
    (countVerdict s v).of c = s.of c := by
  cases v with
  | stale => cases c <;> rfl
  | applied =>
    cases c with
    | applied action => exact absurd rfl h
    | events | dropped | alerts | compileFailures | fetchFailures | sinkFailures => rfl

/-- A replay raises the counters of what it settles, and these do not show in the metrics. -/
theorem of_replay (registry : Registry) (s : Stats) (cs : List Change) (c : Counter) :
    (replay registry s cs).2.of c =
      s.of c + UInt64.ofNat (Ending.hidden c.metric (registry.settle cs)) := by
  unfold Ending.hidden
  split
  · next happlied =>
    cases c with
    | applied action => exact fate_replay registry s cs .applied
    | events | dropped | alerts | compileFailures | fetchFailures | sinkFailures => cases happlied
  · next hother =>
    have hsame := stats_replay (f := fun s => s.of c) (fun s v => of_countVerdict s v hother)
      registry s cs
    exact hsame.trans (UInt64.add_zero _).symm

/-- What a load hides is what the changes that waited for it came to. -/
theorem unshown_load {r : Replica} {pending : List Change} (h : r.phase = .waiting pending)
    (answer : Except Error (List (String × Definition))) (c : Counter) :
    (r.load answer).unshown c = r.unshown c + UInt64.ofNat (Ending.hidden c.metric
      ((Registry.ofRules (Rule.ofDefinitions (Definition.told answer))).settle pending)) := by
  -- The statistics of what is put into force are all that is not shown.
  have hreplay (q : Replica) (rules : List Rule) :
      ({ q with stats := (replay (.ofRules rules) q.stats pending).2 }.setReady
        (replay (.ofRules rules) q.stats pending).1).unshown c =
      q.unshown c +
        UInt64.ofNat (Ending.hidden c.metric ((Registry.ofRules rules).settle pending)) := by
    rw [unshown_setReady]
    exact unshown_of_hidden (of_replay ..) rfl
  unfold load
  rw [h]
  cases answer with
  | error error =>
    refine (hreplay r.fetchFailed []).trans (congrArg (· + _) ?_)
    exact r.unshown_count .fetchFailures c
  | ok definitions =>
    refine (hreplay (r.compileAll definitions).1 (r.compileAll definitions).2).trans ?_
    rw [unshown_compileAll, (r.compileAll_rules definitions).1]
    rfl

/-! ### What is shown -/

/-- A replica shows how many rules it has. -/
def Gauged (r : Replica) : Prop :=
  ∀ registry, r.phase = .ready registry → r.metrics.gauge? r.number = some registry.size

theorem Steady.gauged {r r' : Replica} (h : r.Steady r') (hr : r.Gauged) : r'.Gauged := by
  intro registry hready
  rw [h.phase] at hready
  rw [h.number, h.gauge]
  exact hr registry hready

theorem gauge?_showRules (r : Replica) (registry : Registry) :
    (r.showRules registry).metrics.gauge? r.number = some registry.size := by
  simp [showRules, Metrics.gauge?]

/-- A registry is shown as soon as it is there. -/
theorem gauged_setReady (r : Replica) (registry : Registry) : (r.setReady registry).Gauged := by
  intro other hready
  cases hready
  exact r.gauge?_showRules registry

/-- Without a registry there is nothing to show. -/
theorem gauged_of_waiting {r : Replica} {pending : List Change} (h : r.phase = .waiting pending) :
    r.Gauged := by
  intro registry hready
  cases h.symm.trans hready

/-- A change that is applied shows the registry it leads to. -/
theorem Gauged.apply {r : Replica} (h : r.Gauged) (c : Change) : (r.apply c).Gauged := by
  unfold Replica.apply
  cases hphase : r.phase with
  | waiting pending => exact gauged_of_waiting rfl
  | ready registry =>
    dsimp only
    cases hs : registry.isStale c with
    | true =>
      rw [show registry.apply c = (registry, .stale) from if_pos hs]
      intro other hready
      cases hready
      exact h registry hphase
    | false =>
      rw [show registry.apply c = (registry.enforce c, .applied) from
        if_neg (by rw [hs]; exact Bool.false_ne_true)]
      intro other hready
      cases hready
      exact gauge?_showRules (({ r with phase := .ready (registry.enforce c) } : Replica).count
        (.applied (actionOf c))) (registry.enforce c)

theorem Gauged.takeOutcome {r : Replica} (h : r.Gauged) (o : FetchOutcome) :
    (r.takeOutcome o).Gauged := by
  unfold Replica.takeOutcome
  split
  · split
    · exact h.apply _
    · exact h
  · exact h
  · exact h

theorem Gauged.update {r : Replica} (h : r.Gauged) (u : RuleUpdate) : (r.update u).1.Gauged := by
  obtain ⟨id, action⟩ := u
  cases action with
  | upsert => exact h
  | delete => exact Gauged.apply (r := { r with lastIssued := r.lastIssued + 1 }) h _

theorem Gauged.load {r : Replica} (h : r.Gauged)
    (answer : Except Error (List (String × Definition))) : (r.load answer).Gauged := by
  unfold Replica.load
  split
  · exact h
  · cases answer with
    | error error => exact gauged_setReady _ _
    | ok definitions => exact gauged_setReady _ _

end Replica
end Watchpost
