import Watchpost.Channel

/-! What comes into a channel, and what is left of it.

Messages come in at the end (`Puts`), whether they find room at once or have waited for it. The
receiver changes nothing but the queue, and learns only once that there will be no more. -/
namespace Watchpost

namespace Channel

/-- A channel into which messages have come. Who waits for room does not matter. -/
structure Puts (c : Channel α) (xs : List α) (c' : Channel α) : Prop where
  queued : c'.queued = c.queued ++ xs
  isOpen : c'.isOpen = c.isOpen
  ending : c'.ending = c.ending

theorem puts_of_same {c c' : Channel α} (hqueued : c'.queued = c.queued)
    (hopen : c'.isOpen = c.isOpen) (hending : c'.ending = c.ending) : c.Puts [] c' :=
  ⟨hqueued.trans (List.append_nil _).symm, hopen, hending⟩

/-- What finds room is queued, and else waits behind the others. -/
theorem puts_send (c : Channel α) (x : α) :
    c.Puts (if c.hasRoom then [x] else []) (c.send x) ∧
      (c.send x).waiting = c.waiting ++ if c.hasRoom then [] else [x] := by
  unfold send
  split
  · exact ⟨⟨rfl, rfl, rfl⟩, (List.append_nil _).symm⟩
  · exact ⟨puts_of_same rfl rfl rfl, rfl⟩

/-- Who enters was among those that waited. -/
theorem puts_of_enter? {c c' : Channel α} {p : α → Bool} (h : c.enter? p = some c') :
    ∃ x, c.Puts [x] c' ∧ c.waiting.Perm (x :: c'.waiting) := by
  unfold enter? at h
  split at h
  · next x hx =>
    cases h
    have hfind : c.waiting.find? p = some x := by
      rw [← List.take_append_drop c.kept c.waiting, List.find?_append, hx]
      rfl
    exact ⟨x, ⟨rfl, rfl, rfl⟩, perm_eraseP hfind⟩
  · cases h

theorem isOpen_of_next? {c c' : Channel α} {x : Option α} (h : c.next? = some (x, c')) :
    c'.isOpen = c.isOpen := by
  unfold next? receive? at h
  cases hq : c.queued with
  | nil =>
    rw [hq] at h
    dsimp only at h
    split at h
    · cases h
      rfl
    · cases h
  | cons y rest =>
    rw [hq] at h
    cases h
    rfl

theorem ending_of_next? {c c' : Channel α} {x : α} (h : c.next? = some (some x, c')) :
    c'.ending = c.ending := by
  unfold next? receive? at h
  cases hq : c.queued with
  | nil =>
    rw [hq] at h
    dsimp only at h
    split at h <;> cases h
  | cons y rest =>
    rw [hq] at h
    cases h
    rfl

theorem ending_of_ended {c c' : Channel α} (h : c.next? = some (none, c')) : c.ending = true := by
  unfold next? receive? at h
  cases hq : c.queued with
  | nil =>
    rw [hq] at h
    dsimp only at h
    split at h
    · assumption
    · cases h
  | cons y rest =>
    rw [hq] at h
    cases h

theorem next?_eq_none {c : Channel α} (h : c.hasNext = false) : c.next? = none := by
  rw [← isSome_next?] at h
  exact Option.isNone_iff_eq_none.1 (Option.isSome_eq_false_iff.1 h)

end Channel

end Watchpost
