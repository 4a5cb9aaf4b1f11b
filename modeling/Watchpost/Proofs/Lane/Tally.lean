import Watchpost.Proofs.Lane.Account
import Watchpost.Proofs.Lane.Number

/-! What a lane has in numbers.

The updates that its replica took have consecutive numbers (`Story.numbered`), and each record that
it took counts once (`Story.counts`). -/
namespace Watchpost

/-- What stands in a list that was added to is older, or is what was added. -/
theorem getElem?_of_concat {xs : List α} {x y : α} {k : Nat} (h : (xs ++ [x])[k]? = some y) :
    xs[k]? = some y ∨ k = xs.length ∧ y = x := by
  rcases Nat.lt_trichotomy k xs.length with hlt | rfl | hgt
  · exact .inl (by rwa [List.getElem?_append_left hlt] at h)
  · rw [List.getElem?_concat_length] at h
    cases h
    exact .inr ⟨rfl, rfl⟩
  · rw [List.getElem?_eq_none (by rwa [List.length_append])] at h
    cases h

namespace Lane

section
variable {start : Lane} {es : List Entry} {l : Lane}

/-! ### Numbers -/

/-- An update that is taken has the next number, and nothing else uses up one. -/
theorem lastIssued_moves {l' : Lane} {taken : Option Taken} (hmove : l.Moves taken l') :
    l'.replica.lastIssued =
        l.replica.lastIssued + UInt64.ofNat (taken.bind Taken.update?).toList.length ∧
      ∀ x ∈ taken.bind Taken.update?, x.2 = l.replica.lastIssued + 1 := by
  have hsame (h : l'.replica.lastIssued = l.replica.lastIssued) :
      l'.replica.lastIssued = l.replica.lastIssued + UInt64.ofNat 0 :=
    h.trans (UInt64.add_zero _).symm
  cases hmove with
  | @update u updates hidle hlooking hnext =>
    refine ⟨?_, fun x hx => ?_⟩
    · show ({ l with updates }.takeUpdate u).replica.lastIssued = l.replica.lastIssued + 1
      have hissued := l.replica.lastIssued_update u
      unfold takeUpdate
      split
      · next heq =>
        rw [heq] at hissued
        exact hissued
      · next heq =>
        rw [heq] at hissued
        split <;> exact hissued
    · cases hx
      rfl
  | outcome hidle hnext => exact ⟨hsame (l.replica.lastIssued_takeOutcome _), fun _ h => by cases h⟩
  | @record r records w hidle hlooking hnext =>
    exact ⟨hsame (kept_takeRecord { l with records, looking := .updates } w r).issued,
      fun _ h => by cases h⟩
  | @load w e fetch p s htask hdue hp =>
    refine ⟨hsame ?_, fun _ h => by cases h⟩
    cases p with
    | waiting fetch => rfl
    | answered answer =>
      exact (kept_evaluate { l with replica := l.replica.load answer } w e).issued.trans
        (l.replica.lastIssued_load answer)
    | broken => rfl
  | send htask hsend => exact ⟨hsame (kept_sendStep hsend).issued, fun _ h => by cases h⟩
  | noUpdates | noUpdate | noOutcomes | lookOn | noRecords => exact ⟨hsame rfl, fun _ h => by cases h⟩

/-- Updates have consecutive numbers. -/
structure Numbered (start : Lane) (es : List Entry) (l : Lane) : Prop where
  issued : l.replica.lastIssued =
    start.replica.lastIssued + UInt64.ofNat (handled es).length
  numbers : ∀ k u seq, (handled es)[k]? = some (u, seq) → seq = seqAt start.replica.lastIssued k

theorem Numbered.of_same {more : List Entry} {l' : Lane} (h : Numbered start es l)
    (hissued : l'.replica.lastIssued = l.replica.lastIssued)
    (hhandled : handled (es ++ more) = handled es) : Numbered start (es ++ more) l' where
  issued := by rw [hissued, h.issued, hhandled]
  numbers := by
    rw [hhandled]
    exact h.numbers

theorem Numbered.does {more : List Entry} {l' : Lane} (h : Numbered start es l)
    (hdoes : l.Does more l') : Numbered start (es ++ more) l' := by
  rcases hdoes.replica_or with ⟨rfl, w, w', hstep⟩ | ⟨hnone, hreplica, -⟩
  · obtain ⟨hissued, hnext⟩ := lastIssued_moves (moves_of_replicaStep hstep)
    have hhandled := handled_taking es l
    cases htakes : l.takes?.bind Taken.update? with
    | none =>
      rw [htakes] at hissued hhandled
      exact h.of_same (hissued.trans (UInt64.add_zero _)) (hhandled.trans (List.append_nil _))
    | some x =>
      obtain ⟨u, seq⟩ := x
      rw [htakes] at hissued hhandled hnext
      have hplace : seqAt start.replica.lastIssued (handled es).length = l'.replica.lastIssued := by
        rw [hissued, h.issued, seqAt, UInt64.add_assoc, UInt64.ofNat_add]
        rfl
      constructor
      · rw [← hplace, hhandled, List.length_append]
        rfl
      · rw [hhandled]
        intro k v n hk
        rcases getElem?_of_concat hk with hk | ⟨rfl, heq⟩
        · exact h.numbers k v n hk
        · cases heq
          rw [hplace, hissued]
          exact hnext _ rfl
  · exact h.of_same (by rw [hreplica]) (handled_of_none hnone)

theorem Story.numbered (h : Story start es l) : Numbered start es l := by
  induction h with
  | nil => exact ⟨(UInt64.add_zero _).symm, fun k u seq hk => by cases hk⟩
  | snoc _ hdoes ih => exact ih.does hdoes

/-! ### Counts -/

/-- Whether an event waits for the rules. -/
def isLoading (l : Lane) : Bool :=
  match l.task with
  | .loading _ _ => true
  | .idle | .sending _ _ _ | .done | .broken => false

/-- So many records counted, but for one that still waits for the rules. -/
def Counts (n : Nat) (l : Lane) : Prop :=
  ∃ events dropped, l.replica.counted = (UInt64.ofNat events, UInt64.ofNat dropped) ∧
    events + dropped + l.isLoading.toNat = n

theorem counts_of_same {n : Nat} {l' : Lane} (h : l.Counts n)
    (hcounted : l'.replica.counted = l.replica.counted) (hloading : l'.isLoading = l.isLoading) :
    l'.Counts n := by
  obtain ⟨events, dropped, heq, hsum⟩ := h
  exact ⟨events, dropped, hcounted.trans heq, hloading ▸ hsum⟩

theorem isLoading_of_isIdle (h : l.isIdle = true) : l.isLoading = false := by
  unfold isLoading
  rw [task_of_isIdle h]

/-- An event counts when it is held against the rules, or still waits for them. -/
theorem counts_loaded {events dropped : Nat}
    (h : l.replica.counted = (UInt64.ofNat events, UInt64.ofNat dropped)) (w : World) (e : Event)
    (p : Progress (List (String × Definition))) (hbroken : (l.loaded w e p).isBroken = false) :
    (l.loaded w e p).Counts (events + dropped + 1) := by
  cases p with
  | waiting fetch => exact ⟨events, dropped, h, rfl⟩
  | answered answer =>
    obtain ⟨registry, hphase⟩ := l.replica.exists_registry_of_load answer
    refine ⟨events + 1, dropped, ?_, Nat.add_right_comm events 1 dropped⟩
    refine (Replica.counted_evaluate hphase w.clock e).trans ?_
    rw [Replica.counted_load, h, UInt64.ofNat_add]
    rfl
  | broken => cases hbroken

theorem counts_takeEvent {events dropped : Nat}
    (h : l.replica.counted = (UInt64.ofNat events, UInt64.ofNat dropped)) (w : World) (e : Event)
    (hbroken : (l.takeEvent w e).2.isBroken = false) :
    (l.takeEvent w e).2.Counts (events + dropped + 1) := by
  have hoffered := (l.replica.counted_offered (w.offer e).1).trans h
  unfold takeEvent at hbroken ⊢
  dsimp only at hbroken ⊢
  split
  · next registry hphase =>
    refine ⟨events + 1, dropped, ?_, Nat.add_right_comm events 1 dropped⟩
    refine (Replica.counted_evaluate hphase (w.offer e).2.clock e).trans ?_
    rw [hoffered, UInt64.ofNat_add]
    rfl
  · next hphase =>
    rw [hphase] at hbroken
    exact counts_loaded (l := { l with replica := l.replica.offered (w.offer e).1 }) hoffered _ _ _
      hbroken

/-- A record counts, whether it tells of an event or not. -/
theorem counts_takeRecord {n : Nat} (h : l.Counts n) (hidle : l.isIdle = true) (w : World)
    (r : Record) (hbroken : (l.takeRecord w r).2.isBroken = false) :
    (l.takeRecord w r).2.Counts (n + 1) := by
  obtain ⟨events, dropped, heq, hsum⟩ := h
  rw [isLoading_of_isIdle hidle] at hsum
  have hread := l.replica.counted_read w.normalizer r
  unfold takeRecord at hbroken ⊢
  cases hresult : l.replica.read w.normalizer r with
  | mk replica event =>
    rw [hresult] at hread hbroken
    cases event with
    | some e =>
      have hcounts := counts_takeEvent (l := { l with replica }) (hread.trans heq) w e hbroken
      rw [← hsum]
      exact hcounts
    | none =>
      refine ⟨events, dropped + 1, ?_, ?_⟩
      · refine hread.trans ?_
        rw [heq, UInt64.ofNat_add]
        rfl
      · have hloading : ({ l with replica } : Lane).isLoading = false := isLoading_of_isIdle hidle
        show events + (dropped + 1) + ({ l with replica } : Lane).isLoading.toNat = n + 1
        rw [hloading, ← hsum]
        rfl

theorem isLoading_of_sending {built left : List Alert} {posted : Bool}
    (h : l.task = .sending built left posted) : l.isLoading = false := by
  unfold isLoading
  rw [h]

theorem counted_sendStep {l' : Lane} {w w' : World} {built left : List Alert} {posted : Bool}
    (h : l.sendStep w built left posted = some (w', l')) :
    l'.replica.counted = l.replica.counted ∧ l'.isLoading = false := by
  cases sends_of_sendStep h with
  | done => exact ⟨rfl, rfl⟩
  | waits a rest => exact ⟨rfl, rfl⟩
  | sent a rest taken => exact ⟨l.replica.counted_sent .., rfl⟩

theorem counted_takeUpdate (l : Lane) (u : RuleUpdate) :
    (l.takeUpdate u).replica.counted = l.replica.counted := by
  have hcounted := l.replica.counted_update u
  unfold takeUpdate
  split
  · next heq =>
    rw [heq] at hcounted
    exact hcounted
  · next heq =>
    rw [heq] at hcounted
    split <;> exact hcounted

/-- **Each record that the replica takes counts once.** -/
theorem Counts.moves {n : Nat} {l' : Lane} {taken : Option Taken} (h : l.Counts n)
    (hmove : l.Moves taken l') (hbroken : l'.isBroken = false) :
    l'.Counts (n + (taken.bind Taken.record?).toList.length) := by
  cases hmove with
  | @update u updates hidle hlooking hnext =>
    refine counts_of_same h (counted_takeUpdate { l with updates } u) ?_
    rw [isLoading_of_isIdle hidle]
    exact isLoading_of_isIdle
      (isIdle_of_task ((task_takeUpdate { l with updates } u).trans (task_of_isIdle hidle)))
  | noUpdates | noUpdate | noOutcomes | lookOn => exact counts_of_same h rfl rfl
  | outcome hidle hnext => exact counts_of_same h (l.replica.counted_takeOutcome _) rfl
  | @record r records w hidle hlooking hnext =>
    exact counts_takeRecord (l := { l with records, looking := .updates }) h hidle w r hbroken
  | noRecords hidle hlooking hnext => exact counts_of_same h rfl (isLoading_of_isIdle hidle).symm
  | @load w e fetch p s htask hdue hp =>
    -- The event is the one that was taken before and not counted yet.
    obtain ⟨events, dropped, heq, hsum⟩ := h
    have hloading : l.isLoading = true := by
      unfold isLoading
      rw [htask]
    rw [hloading] at hsum
    rw [← hsum]
    exact counts_loaded heq w e p hbroken
  | send htask hsend =>
    obtain ⟨hcounted, hloading⟩ := counted_sendStep hsend
    exact counts_of_same h hcounted (hloading.trans (isLoading_of_sending htask).symm)

/-- A replica counts each record that it took, but for one that it still has at hand. -/
theorem Story.counts (h : Story start es l) (hstart : Blank start) (hbroken : l.isBroken = false) :
    l.Counts (processed es).length := by
  induction h with
  | nil => exact ⟨0, 0, hstart.counted, by rw [isLoading_of_isIdle (isIdle_of_task hstart.idle)]; rfl⟩
  | @snoc es more l l' h hdoes ih =>
    have hcounts := ih (isBroken_of_does hdoes hbroken)
    rcases hdoes.replica_or with ⟨rfl, w, w', hstep⟩ | ⟨hnone, hreplica, htask⟩
    · rw [processed_taking, List.length_append]
      exact hcounts.moves (moves_of_replicaStep hstep) hbroken
    · rw [processed_of_none hnone]
      refine counts_of_same hcounts (by rw [hreplica]) ?_
      unfold isLoading
      rw [htask]

end

end Lane
end Watchpost
