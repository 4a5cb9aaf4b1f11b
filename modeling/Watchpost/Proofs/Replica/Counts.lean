import Watchpost.Proofs.Replica.Changes

/-! What a replica counts of its records.

Every record counts once: as an event when that is held against the rules (`counted_evaluate`), or
as dropped when it tells of none (`counted_read`). Nothing else a replica does touches these
counts. -/
namespace Watchpost.Replica

/-- The events that were held against the rules, and the records that told of none. -/
def counted (r : Replica) : UInt64 × UInt64 := (r.stats.events, r.stats.dropped)

/-! ### What counts no record -/

theorem counted_offered (r : Replica) (taken : Bool) : (r.offered taken).counted = r.counted := by
  cases taken <;> rfl

theorem counted_sent (r : Replica) (a : Alert) (taken : Bool) :
    (r.sent a taken).counted = r.counted := by
  cases taken <;> rfl

theorem counted_apply (r : Replica) (c : Change) : (r.apply c).counted = r.counted := by
  unfold apply
  cases r.phase with
  | waiting pending => rfl
  | ready registry =>
    dsimp only
    rcases registry.apply c with ⟨new, verdict⟩
    cases verdict <;> rfl

theorem counted_update (r : Replica) (u : RuleUpdate) : (r.update u).1.counted = r.counted := by
  obtain ⟨id, action⟩ := u
  cases action with
  | upsert => rfl
  | delete => exact counted_apply { r with lastIssued := r.lastIssued + 1 } _

theorem counted_takeOutcome (r : Replica) (o : FetchOutcome) :
    (r.takeOutcome o).counted = r.counted := by
  unfold takeOutcome
  split
  · split
    · exact counted_apply ..
    · rfl
  · rfl
  · rfl

theorem counted_restore (r : Replica) (s : Snapshot) : (r.restore s).1.counted = r.counted := rfl

/-! ### Loading -/

section
variable {β : Type} {f : Stats → β}

theorem stats_compileAll (hcompile : ∀ s : Stats, f (s.bump .compileFailures) = f s) (r : Replica)
    (definitions : List (String × Definition)) :
    f (r.compileAll definitions).1.stats = f r.stats := by
  induction definitions generalizing r with
  | nil => rfl
  | cons e rest ih =>
    obtain ⟨id, d⟩ := e
    unfold compileAll
    cases Rule.compile id d with
    | ok rule => exact ih r
    | error error => exact (ih (r.count .compileFailures)).trans (hcompile r.stats)

theorem stats_replay (hverdict : ∀ s v, f (countVerdict s v) = f s) (registry : Registry)
    (s : Stats) (cs : List Change) : f (replay registry s cs).2 = f s := by
  induction cs generalizing registry s with
  | nil => rfl
  | cons c rest ih => exact (ih (registry.apply c).1 _).trans (hverdict s _)

/-- Loading leaves alone what is not about rules and their changes. -/
theorem stats_load (hcompile : ∀ s : Stats, f (s.bump .compileFailures) = f s)
    (hfetch : ∀ s : Stats, f (s.bump .fetchFailures) = f s)
    (hverdict : ∀ s v, f (countVerdict s v) = f s) (r : Replica)
    (answer : Except Error (List (String × Definition))) :
    f (r.load answer).stats = f r.stats := by
  unfold load
  split
  · rfl
  · cases answer with
    | error error => exact (stats_replay hverdict ..).trans (hfetch r.stats)
    | ok definitions =>
      exact (stats_replay hverdict ..).trans (r.stats_compileAll hcompile definitions)

end

theorem counted_load (r : Replica) (answer : Except Error (List (String × Definition))) :
    (r.load answer).counted = r.counted :=
  stats_load (f := fun s => (s.events, s.dropped)) (fun _ => rfl) (fun _ => rfl)
    (fun _ v => by cases v <;> rfl) r answer

/-! ### What counts a record -/

/-- Once a replica was told its rules, it has them. -/
theorem exists_registry_of_load (r : Replica) (answer : Except Error (List (String × Definition))) :
    ∃ registry, (r.load answer).phase = .ready registry := by
  cases hphase : r.phase with
  | waiting pending => exact ⟨_, phase_load hphase answer⟩
  | ready registry => exact ⟨registry, by rw [load_of_ready hphase, hphase]⟩

/-- An event counts once the rules are there. -/
theorem counted_evaluate {r : Replica} {registry : Registry} (h : r.phase = .ready registry)
    (now : Instant) (e : Event) :
    (r.evaluate now e).1.counted = (r.counted.1 + 1, r.counted.2) := by
  unfold evaluate
  rw [h]
  rfl

/-- A record that tells of no event is dropped. -/
theorem counted_read (r : Replica) (n : Normalizer) (record : Record) :
    (r.read n record).1.counted =
      if (r.read n record).2.isSome then r.counted else (r.counted.1, r.counted.2 + 1) := by
  unfold read
  split <;> rfl

end Watchpost.Replica
