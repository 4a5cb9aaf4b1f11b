import Watchpost.Proofs.Registry.Changes
import Watchpost.Registry.Snapshot

/-! What a registry is after it was stored and put back.

No number is beyond the last one, whatever the rules in the snapshot are (`numbered_restore`),
and each rule that compiled stands under its own id (`keyed_restore`). -/
namespace Watchpost

namespace Registry

/-! ### One entry -/

theorem lastSeq_restoreEntry (r : Registry) (id : String) (e : Snapshot.Entry) :
    (r.restoreEntry id e).1.lastSeq = r.lastSeq := by
  unfold restoreEntry
  dsimp only
  split <;> rfl

/-- An entry leaves its number, also if it does not compile. -/
theorem version?_restoreEntry (r : Registry) (id : String) (e : Snapshot.Entry) (other : String) :
    (r.restoreEntry id e).1.version? other = if other = id then some e.seq else r.version? other := by
  have hinsert := r.versions.get?_insert id e.seq other
  unfold restoreEntry
  dsimp only
  split <;> exact hinsert

theorem Keyed.restoreEntry {r : Registry} (h : r.Keyed) (id : String) (e : Snapshot.Entry) :
    (r.restoreEntry id e).1.Keyed := by
  unfold Registry.restoreEntry
  dsimp only
  split
  · next rule hrule =>
    intro name other hother
    have hget : (r.rules.insert id rule).get? name = some other := hother
    rw [r.rules.get?_insert] at hget
    split at hget
    · next hname =>
      cases hget
      rw [hname]
      exact Rule.id_of_compile hrule
    · exact h name other hget
  · exact h

/-- An entry with a number that is too great would break the order of numbers. -/
theorem Numbered.restoreEntry {r : Registry} (h : r.Numbered) {id : String} {e : Snapshot.Entry}
    (he : e.seq ≤ r.lastSeq) : (r.restoreEntry id e).1.Numbered := by
  intro name version hversion
  rw [lastSeq_restoreEntry]
  rw [version?_restoreEntry] at hversion
  split at hversion
  · cases hversion
    exact he
  · exact h name version hversion

/-! ### All entries -/

theorem lastSeq_restoreEntries (r : Registry) (es : List (String × Snapshot.Entry)) :
    (restoreEntries r es).1.lastSeq = r.lastSeq := by
  induction es generalizing r with
  | nil => rfl
  | cons e rest ih =>
    obtain ⟨id, entry⟩ := e
    exact (ih (r.restoreEntry id entry).1).trans (r.lastSeq_restoreEntry id entry)

theorem Keyed.restoreEntries {r : Registry} (h : r.Keyed) (es : List (String × Snapshot.Entry)) :
    (restoreEntries r es).1.Keyed := by
  induction es generalizing r with
  | nil => exact h
  | cons e rest ih =>
    obtain ⟨id, entry⟩ := e
    exact ih (h.restoreEntry id entry)

theorem Numbered.restoreEntries {r : Registry} (h : r.Numbered)
    {es : List (String × Snapshot.Entry)} (hes : ∀ e ∈ es, e.2.seq ≤ r.lastSeq) :
    (restoreEntries r es).1.Numbered := by
  induction es generalizing r with
  | nil => exact h
  | cons e rest ih =>
    obtain ⟨id, entry⟩ := e
    have hentry := hes (id, entry) (List.mem_cons_self ..)
    have hrest : ∀ e ∈ rest, e.2.seq ≤ (r.restoreEntry id entry).1.lastSeq := by
      rw [lastSeq_restoreEntry]
      exact fun e he => hes e (List.mem_cons_of_mem _ he)
    exact ih (h.restoreEntry hentry) hrest

/-! ### Snapshots -/

theorem lastSeq_restore (s : Snapshot) : (restore s).1.lastSeq = s.lastSeq :=
  lastSeq_restoreEntries ..

/-- Each rule is restored under its own id, whatever the snapshot holds. -/
theorem keyed_restore (s : Snapshot) : (restore s).1.Keyed :=
  Keyed.restoreEntries (fun _ _ h => by cases h) s.rules.entries

/-- No number of a stored registry is greater than its last one, nor is one of what is restored. -/
theorem numbered_restore {r : Registry} (h : r.Numbered) : (restore r.snapshot).1.Numbered := by
  refine Numbered.restoreEntries (fun id version hversion => ?_) fun e he => ?_
  · exact h id version (Table.get?_filter_eq_some_iff.1 hversion).1
  · obtain ⟨⟨id, rule⟩, -, rfl⟩ := List.mem_map.1 he
    show (r.version? id).getD 0 ≤ r.lastSeq
    cases hversion : r.version? id with
    | none => exact UInt64.zero_le
    | some version => exact h id version hversion

end Registry
end Watchpost
