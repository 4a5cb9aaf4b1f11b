/-! Channels: queues of a bounded length between those who send and one who receives.

Who sends into a full channel waits. A place that becomes free is kept for who has
waited longest, and taken as soon as that one moves. -/
namespace Watchpost

structure Channel (α : Type u) where
  capacity : Nat
  /-- What was sent, the oldest first. -/
  queued : List α := []
  /-- What waits to be sent, the oldest first. -/
  waiting : List α := []
  /-- How many of those that wait have a place, the oldest first. -/
  kept : Nat := 0
  /-- Whether the receiver is there. -/
  isOpen : Bool := true
  /-- Whether nobody sends any more and the receiver is still to learn it. -/
  ending : Bool := false

namespace Channel

/-- The number of free places. -/
def room (c : Channel α) : Nat := c.capacity - (c.queued.length + c.kept)

/-- Whether a message can be sent at once. -/
def hasRoom (c : Channel α) : Bool := c.waiting.length ≤ c.kept && 0 < c.room

/-- Sends a message, or lets it wait. -/
def send (c : Channel α) (x : α) : Channel α :=
  if c.hasRoom then { c with queued := c.queued ++ [x] } else { c with waiting := c.waiting ++ [x] }

/-- Keeps free places for what waits. -/
def keep (c : Channel α) : Channel α :=
  { c with kept := min c.waiting.length (c.kept + c.room) }

/-- Whether such a message waits and has a place. -/
def keepsFor (c : Channel α) (p : α → Bool) : Bool := (c.waiting.take c.kept).any p

/-- Sends the first such message that waits and has a place. -/
def enter? (c : Channel α) (p : α → Bool) : Option (Channel α) :=
  match (c.waiting.take c.kept).find? p with
  | some x =>
    some { c with
      queued := c.queued ++ [x], waiting := c.waiting.eraseP p, kept := c.kept - 1 }
  | none => none

/-- Takes the oldest message. -/
def receive? (c : Channel α) : Option (α × Channel α) :=
  match c.queued with
  | [] => none
  | x :: rest => some (x, { c with queued := rest }.keep)

/-- Takes the oldest message; when there will be none, says so once. -/
def next? (c : Channel α) : Option (Option α × Channel α) :=
  match c.receive? with
  | some (x, c) => some (some x, c)
  | none => if c.ending then some (none, { c with ending := false }) else none

/-- Whether the receiver has something to take. -/
def hasNext (c : Channel α) : Bool := !c.queued.isEmpty || c.ending

/-- Takes all messages. -/
def drain (c : Channel α) : List α × Channel α := (c.queued, { c with queued := [] }.keep)

/-- Gives up what waits. -/
def withdraw (c : Channel α) : Channel α := { c with waiting := [], kept := 0 }

/-- Nobody sends any more. What waits is given up. -/
def endInput (c : Channel α) : Channel α := { c.withdraw with ending := c.isOpen }

/-- The receiver goes; what was sent is lost. -/
def close (c : Channel α) : Channel α :=
  { c with queued := [], waiting := [], kept := 0, isOpen := false, ending := false }

/-- All messages on their way, the oldest first. -/
def pending (c : Channel α) : List α := c.queued ++ c.waiting

/-! ### What is on its way -/

theorem pending_send (c : Channel α) (x : α) (h : c.waiting = [] ∨ c.hasRoom = false) :
    (c.send x).pending = c.pending ++ [x] := by
  unfold send pending
  split
  · next hr => rcases h with h | h <;> simp_all
  · simp

theorem length_pending_send (c : Channel α) (x : α) :
    (c.send x).pending.length = c.pending.length + 1 := by
  unfold send pending
  split <;> simp <;> omega

theorem isSome_enter? (c : Channel α) (p : α → Bool) : (c.enter? p).isSome = c.keepsFor p := by
  unfold enter? keepsFor
  split
  · next x hx =>
    exact (List.any_eq_true.2 ⟨x, List.mem_of_find?_eq_some hx, List.find?_some hx⟩).symm
  · next hx => simpa using List.find?_eq_none.1 hx

theorem pending_of_receive? {c c' : Channel α} {x : α} (h : c.receive? = some (x, c')) :
    c.pending = x :: c'.pending := by
  unfold receive? at h
  split at h
  · simp at h
  · next y rest hq =>
    obtain ⟨rfl, rfl⟩ := Prod.mk.inj (Option.some.inj h)
    simp [pending, keep, hq]

/-- What is taken was the oldest message. -/
theorem queued_of_next? {c c' : Channel α} {x : α} (h : c.next? = some (some x, c')) :
    c.queued = x :: c'.queued ∧ c'.waiting = c.waiting := by
  unfold next? receive? at h
  cases hq : c.queued with
  | nil =>
    rw [hq] at h
    dsimp only at h
    split at h <;> cases h
  | cons y rest =>
    rw [hq] at h
    cases h
    exact ⟨rfl, rfl⟩

/-- Only a channel without messages says that there will be none. -/
theorem queued_of_ended {c c' : Channel α} (h : c.next? = some (none, c')) :
    c.queued = [] ∧ c'.queued = [] ∧ c'.waiting = c.waiting := by
  unfold next? receive? at h
  cases hq : c.queued with
  | nil =>
    rw [hq] at h
    dsimp only at h
    split at h
    · cases h
      exact ⟨rfl, rfl, rfl⟩
    · cases h
  | cons y rest =>
    rw [hq] at h
    cases h

theorem queued_of_next?_eq_none {c : Channel α} (h : c.next? = none) : c.queued = [] := by
  unfold next? receive? at h
  cases hq : c.queued with
  | nil => rfl
  | cons y rest =>
    rw [hq] at h
    cases h

theorem pending_of_next? {c c' : Channel α} {x : α} (h : c.next? = some (some x, c')) :
    c.pending = x :: c'.pending := by
  obtain ⟨hqueued, hwaiting⟩ := queued_of_next? h
  simp [pending, hqueued, hwaiting]

theorem pending_of_ended {c c' : Channel α} (h : c.next? = some (none, c')) :
    c'.pending = c.pending := by
  obtain ⟨hqueued, hqueued', hwaiting⟩ := queued_of_ended h
  simp [pending, hqueued, hqueued', hwaiting]

theorem perm_pending_send (c : Channel α) (x : α) : (c.send x).pending.Perm (x :: c.pending) := by
  unfold send pending
  split
  · have hcomm : (c.queued ++ [x]).Perm (x :: c.queued) := List.perm_append_singleton x c.queued
    exact hcomm.append_right c.waiting
  · rw [← List.append_assoc]
    exact List.perm_append_singleton x (c.queued ++ c.waiting)

theorem perm_eraseP {p : α → Bool} {x : α} {xs : List α} (h : xs.find? p = some x) :
    xs.Perm (x :: xs.eraseP p) := by
  induction xs with
  | nil => cases h
  | cons y rest ih =>
    cases hy : p y with
    | true =>
      rw [List.find?_cons_of_pos hy] at h
      cases h
      rw [List.eraseP_cons_of_pos hy]
    | false =>
      have hn : ¬p y = true := by rw [hy]; exact Bool.false_ne_true
      rw [List.find?_cons_of_neg hn] at h
      rw [List.eraseP_cons_of_neg hn]
      exact ((ih h).cons y).trans (List.Perm.swap x y _)

theorem perm_pending_enter? {c c' : Channel α} {p : α → Bool} (h : c.enter? p = some c') :
    c'.pending.Perm c.pending := by
  unfold enter? at h
  split at h
  · next x hx =>
    cases h
    have hfind : c.waiting.find? p = some x := by
      rw [← List.take_append_drop c.kept c.waiting, List.find?_append, hx]
      rfl
    show ((c.queued ++ [x]) ++ c.waiting.eraseP p).Perm (c.queued ++ c.waiting)
    rw [List.append_assoc]
    exact ((perm_eraseP hfind).symm).append_left c.queued
  · cases h

theorem isSome_next? (c : Channel α) : c.next?.isSome = c.hasNext := by
  unfold next? receive? hasNext
  cases c.queued <;> cases c.ending <;> rfl

@[simp] theorem pending_close (c : Channel α) : c.close.pending = [] := rfl

/-- How much there is for the receiver to take: the messages, and that there will be none. -/
def load (c : Channel α) : Nat := c.pending.length + c.ending.toNat

theorem load_of_next? {c c' : Channel α} {x : Option α} (h : c.next? = some (x, c')) :
    c'.load + 1 = c.load := by
  unfold next? at h
  split at h
  · next y d hd =>
    cases h
    have he : c'.ending = c.ending := by
      unfold receive? at hd
      split at hd
      · simp at hd
      · cases hd
        rfl
    simp only [load, pending_of_receive? hd, he, List.length_cons]
    omega
  · split at h
    · next he =>
      cases h
      simp [load, pending, he]
    · simp at h

theorem load_send (c : Channel α) (x : α) : (c.send x).load = c.load + 1 := by
  have he : (c.send x).ending = c.ending := by
    unfold send
    split <;> rfl
  simp only [load, he, length_pending_send]
  omega

theorem load_of_enter? {c c' : Channel α} {p : α → Bool} (h : c.enter? p = some c') :
    c'.load = c.load := by
  unfold enter? at h
  split at h
  · next x hx =>
    cases h
    have hp := List.find?_some hx
    have hm := List.mem_of_mem_take (List.mem_of_find?_eq_some hx)
    have hl := List.length_pos_of_mem hm
    simp only [load, pending, List.length_append, List.length_cons, List.length_nil,
      List.length_eraseP_of_mem hm hp]
    omega
  · simp at h

theorem load_endInput_le (c : Channel α) : c.endInput.load ≤ c.load + 1 := by
  simp only [load, endInput, withdraw, pending, List.length_append, List.length_nil]
  have := c.isOpen.toNat_le
  omega

@[simp] theorem load_close (c : Channel α) : c.close.load = 0 := rfl

end Channel
end Watchpost
