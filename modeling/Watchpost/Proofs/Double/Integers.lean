import Watchpost.Proofs.Double.Order

/-! Integers as doubles.

Of an integer of 64 bits a double keeps the first 53 (`rounds_ofInt`). Two integers may become one
double by that, but they never change places (`lt_of_ofInt_lt`, `ofInt_le`). Up to `2 ^ 53` all bits
are kept, and doubles are in the order of the integers (`ofInt_lt_iff`, `ofInt_le_iff`). -/
namespace Watchpost.Double

/-- All but the first 53 bits of an integer are rounded off, to the nearest, and of two that are as
near to the even one. Values are counted in least doubles, of `2 ^ -1074`. -/
structure Rounds (d : Double) (i : Int) : Prop where
  finite : d.magnitude < infinite
  sign : d.negative = decide (i < 0)
  size : ∃ q, Near i.natAbs (2 ^ (i.natAbs.log2 - 52)) q ∧
    scaled d.magnitude = (q * 2 ^ (i.natAbs.log2 - 52)) <<< 1074

/-! ### Nearest numbers -/

/-- A number that divides is its own nearest. -/
theorem near_mul (m den : Nat) (h : 0 < den) : Near (m * den) den m :=
  ⟨by omega, by omega, fun htie => by omega⟩

theorem Near.eq_of_mul {m den q : Nat} (h : Near (m * den) den q) (hden : 0 < den) : q = m := by
  have hlo := h.lo
  have hhi := h.hi
  rcases Nat.lt_trichotomy q m with hlt | heq | hlt
  · have hstep := Nat.mul_le_mul_right den (Nat.succ_le_of_lt hlt)
    rw [Nat.succ_mul] at hstep
    omega
  · exact heq
  · have hstep := Nat.mul_le_mul_right den (Nat.succ_le_of_lt hlt)
    rw [Nat.succ_mul] at hstep
    omega

/-- A common factor does not matter. -/
theorem Near.of_mul {num den q c : Nat} (h : Near (num * c) (den * c) q) (hc : 0 < c) :
    Near num den q := by
  have hnum : 2 * (num * c) = 2 * num * c := (Nat.mul_assoc ..).symm
  have hden : 2 * (q * (den * c)) = 2 * (q * den) * c := by ring
  have hlo := h.lo
  have hhi := h.hi
  have htie := h.tie
  simp only [hnum, hden, ← Nat.add_mul] at hlo hhi htie
  refine ⟨Nat.le_of_mul_le_mul_right hlo hc, Nat.le_of_mul_le_mul_right hhi hc, fun heq => htie ?_⟩
  exact heq.imp (congrArg (· * c)) (congrArg (· * c))

theorem log2_mul_two_pow {n : Nat} (h : n ≠ 0) (k : Nat) : (n * 2 ^ k).log2 = n.log2 + k := by
  have hpow : 0 < 2 ^ k := Nat.two_pow_pos k
  rw [Nat.log2_eq_iff (Nat.mul_ne_zero h hpow.ne'), Nat.pow_add, Nat.add_right_comm, Nat.pow_add]
  exact ⟨Nat.mul_le_mul_right _ (Nat.log2_self_le h), Nat.mul_lt_mul_of_pos_right Nat.lt_log2_self hpow⟩

/-- Which bits of a number are rounded off does not depend on what it is counted in. -/
theorem Near.unscaled {n w d q : Nat} (hw : 52 ≤ w) (hd : d = n.log2 + w - 52)
    (h : Near (n * 2 ^ w) (2 ^ d) q) :
    ∃ p, Near n (2 ^ (n.log2 - 52)) p ∧ q * 2 ^ d = p * 2 ^ (n.log2 - 52) * 2 ^ w := by
  rcases Nat.lt_or_ge n.log2 52 with hfew | hmany
  -- What is dropped of a number with few bits are zeros that the scale has put behind it.
  · have hsplit : n * 2 ^ w = n * 2 ^ (w - d) * 2 ^ d := by
      rw [Nat.mul_assoc, ← Nat.pow_add]
      congr 2
      omega
    have hunit : n.log2 - 52 = 0 := by omega
    rw [hsplit] at h
    rw [h.eq_of_mul (Nat.two_pow_pos d), ← hsplit, hunit, Nat.pow_zero]
    have hself := near_mul n 1 Nat.one_pos
    rw [Nat.mul_one] at hself
    exact ⟨n, hself, by rw [Nat.mul_one]⟩
  · have hplaces : d = n.log2 - 52 + w := by omega
    rw [hplaces, Nat.pow_add] at h
    rw [hplaces, Nat.pow_add]
    exact ⟨q, h.of_mul (Nat.two_pow_pos w), (Nat.mul_assoc ..).symm⟩

/-! ### Sizes -/

theorem nearestMagnitude_zero : nearestMagnitude 0 1 = 0 := by decide +kernel

/-- What 64 bits can hold is far from the infinities. -/
theorem nearestMagnitude_lt_infinite {n : Nat} (h : n < 2 ^ 64) :
    nearestMagnitude n 1 < infinite := by
  -- The scale is kept as a variable, so that its power is not computed.
  obtain ⟨w, hw⟩ : ∃ w, w = 1074 := ⟨_, rfl⟩
  have hplace : scaled (binade + (12 + w) * binade) = 2 ^ 64 * 2 ^ w := by
    have hbinade : binade = 2 ^ 52 := by decide
    rw [scaled_place (by decide) (.inr (Nat.le_refl binade)), Nat.pow_add, ← Nat.mul_assoc]
    congr 1
  have hle : nearestMagnitude n 1 ≤ binade + (12 + w) * binade := by
    refine nearestMagnitude_le_of_le Nat.one_pos ?_
    rw [hplace, ← hw, Nat.mul_one, Nat.shiftLeft_eq]
    exact Nat.mul_le_mul_right _ (Nat.le_of_lt h)
  refine Nat.lt_of_le_of_lt hle ?_
  rw [hw]
  decide

/-- Bits are dropped of a number that has more than 53, and no others. -/
theorem scaled_nearestMagnitude {n : Nat} (h : n < 2 ^ 64) :
    ∃ q, Near n (2 ^ (n.log2 - 52)) q ∧
      scaled (nearestMagnitude n 1) = (q * 2 ^ (n.log2 - 52)) <<< 1074 := by
  rcases Nat.eq_zero_or_pos n with rfl | hpos
  · refine ⟨0, ?_, ?_⟩
    · have hself := near_mul 0 _ (Nat.two_pow_pos (Nat.log2 0 - 52))
      rw [Nat.zero_mul] at hself
      exact hself
    · rw [nearestMagnitude_zero, Nat.zero_mul, Nat.zero_shiftLeft]
      decide
  obtain ⟨d, q, hd, hrounded, heq⟩ := exists_rounded n Nat.one_pos
  have hfinite := nearestMagnitude_lt_infinite h
  have hvalue : scaled (nearestMagnitude n 1) = q * 2 ^ d := by
    have hmin : min infinite (q + d * binade) = q + d * binade := by omega
    rw [heq, hmin, scaled_place hrounded.top hrounded.bottom]
  have hnear := hrounded.near
  obtain ⟨w, hw⟩ : ∃ w, w = 1074 := ⟨_, rfl⟩
  rw [← hw, Nat.one_mul, Nat.shiftLeft_eq] at hnear
  rw [← hw, Nat.shiftLeft_eq, Nat.div_one, log2_mul_two_pow hpos.ne'] at hd
  rw [hvalue, ← hw]
  obtain ⟨p, hp, hscaled⟩ := hnear.unscaled (by omega) hd
  exact ⟨p, hp, hscaled.trans (Nat.shiftLeft_eq ..).symm⟩

/-- **An integer of 64 bits is rounded to 53.** -/
theorem rounds_ofInt {i : Int} (h : i.natAbs < 2 ^ 64) : (ofInt i).Rounds i where
  finite := nearestMagnitude_lt_infinite h
  sign := rfl
  size := scaled_nearestMagnitude h

/-- Up to `2 ^ 53` nothing is rounded off. -/
theorem Rounds.exact {d : Double} {i : Int} (h : d.Rounds i) (hi : i.natAbs ≤ 2 ^ 53) :
    scaled d.magnitude = i.natAbs <<< 1074 := by
  obtain ⟨q, hnear, hvalue⟩ := h.size
  have hwhole : ∃ m, i.natAbs = m * 2 ^ (i.natAbs.log2 - 52) := by
    rcases Nat.eq_or_lt_of_le hi with heq | hlt
    · refine ⟨2 ^ 52, ?_⟩
      rw [heq, Nat.log2_two_pow, ← Nat.pow_add]
    · refine ⟨i.natAbs, ?_⟩
      have hfew : i.natAbs.log2 - 52 = 0 := by
        rcases Nat.eq_zero_or_pos i.natAbs with hzero | hpos
        · rw [hzero, Nat.log2_zero]
        · have := (Nat.log2_lt hpos.ne').2 hlt
          omega
      rw [hfew, Nat.pow_zero, Nat.mul_one]
  obtain ⟨m, hm⟩ := hwhole
  have hq : q = m := by
    refine Near.eq_of_mul ?_ (Nat.two_pow_pos (i.natAbs.log2 - 52))
    rw [← hm]
    exact hnear
  rw [hvalue, hq, ← hm]

/-! ### Order -/

section
variable {i j : Int}

theorem key_ofInt (i : Int) : (ofInt i).key =
    if i < 0 then -(nearestMagnitude i.natAbs 1 : Int) else nearestMagnitude i.natAbs 1 := by
  unfold key ofInt
  simp only [decide_eq_true_eq]

/-- A larger integer is not before a smaller one. -/
theorem key_ofInt_mono (h : i ≤ j) : (ofInt i).key ≤ (ofInt j).key := by
  have hmono {m n : Nat} (hle : m ≤ n) : (nearestMagnitude m 1 : Int) ≤ nearestMagnitude n 1 :=
    Int.ofNat_le.2 (nearestMagnitude_mono Nat.one_pos hle)
  rw [key_ofInt, key_ofInt]
  by_cases hj : j < 0
  · have hi : i < 0 := by omega
    rw [if_pos hi, if_pos hj]
    exact Int.neg_le_neg (hmono (by omega))
  · rw [if_neg hj]
    by_cases hi : i < 0
    · rw [if_pos hi]
      omega
    · rw [if_neg hi]
      exact hmono (by omega)

theorem nearestMagnitude_lt {m n : Nat} (h : m < n) (hn : n ≤ 2 ^ 53) :
    nearestMagnitude m 1 < nearestMagnitude n 1 := by
  have hexact {k : Nat} (hk : k ≤ 2 ^ 53) : scaled (nearestMagnitude k 1) = k <<< 1074 := by
    have hrounds : (ofInt k).Rounds k := rounds_ofInt (by omega)
    exact hrounds.exact hk
  refine scaled_strictMono.lt_iff_lt.1 ?_
  rw [hexact (by omega), hexact hn, Nat.shiftLeft_eq, Nat.shiftLeft_eq]
  exact Nat.mul_lt_mul_of_pos_right h (Nat.two_pow_pos 1074)

/-- Two integers of no more than 53 bits are apart. -/
theorem key_ofInt_lt (h : i < j) (hi : i.natAbs ≤ 2 ^ 53) (hj : j.natAbs ≤ 2 ^ 53) :
    (ofInt i).key < (ofInt j).key := by
  have hless {m n : Nat} (hlt : m < n) (hn : n ≤ 2 ^ 53) :
      (nearestMagnitude m 1 : Int) < nearestMagnitude n 1 :=
    Int.ofNat_lt.2 (nearestMagnitude_lt hlt hn)
  rw [key_ofInt, key_ofInt]
  by_cases hj' : j < 0
  · have hi' : i < 0 := by omega
    rw [if_pos hi', if_pos hj']
    exact Int.neg_lt_neg (hless (by omega) hi)
  · rw [if_neg hj']
    by_cases hi' : i < 0
    · have hpos := hless (m := 0) (n := i.natAbs) (by omega) hi
      rw [if_pos hi']
      omega
    · rw [if_neg hi']
      exact hless (by omega) hj

theorem lt_ofInt_iff_key : (ofInt i).lt (ofInt j) = true ↔ (ofInt i).key < (ofInt j).key := by
  rw [lt, isNaN_ofInt, isNaN_ofInt, Bool.not_false, Bool.true_and, Bool.true_and, decide_eq_true_eq]

theorem le_ofInt_iff_key : (ofInt i).le (ofInt j) = true ↔ (ofInt i).key ≤ (ofInt j).key := by
  rw [le, isNaN_ofInt, isNaN_ofInt, Bool.not_false, Bool.true_and, Bool.true_and, decide_eq_true_eq]

/-- A double is less only for an integer that is less. -/
theorem lt_of_ofInt_lt (h : (ofInt i).lt (ofInt j) = true) : i < j := by
  refine Int.lt_of_not_ge fun hle => ?_
  exact absurd (lt_ofInt_iff_key.1 h) (Int.not_lt.2 (key_ofInt_mono hle))

/-- An integer that is no greater becomes a double that is no greater. -/
theorem ofInt_le (h : i ≤ j) : (ofInt i).le (ofInt j) = true := le_ofInt_iff_key.2 (key_ofInt_mono h)

theorem ofInt_lt_iff (hi : i.natAbs ≤ 2 ^ 53) (hj : j.natAbs ≤ 2 ^ 53) :
    (ofInt i).lt (ofInt j) = true ↔ i < j :=
  ⟨lt_of_ofInt_lt, fun h => lt_ofInt_iff_key.2 (key_ofInt_lt h hi hj)⟩

theorem ofInt_le_iff (hi : i.natAbs ≤ 2 ^ 53) (hj : j.natAbs ≤ 2 ^ 53) :
    (ofInt i).le (ofInt j) = true ↔ i ≤ j := by
  refine ⟨fun h => ?_, ofInt_le⟩
  refine Int.not_lt.1 fun hlt => ?_
  exact absurd (le_ofInt_iff_key.1 h) (Int.not_le.2 (key_ofInt_lt hlt hj hi))

end

end Watchpost.Double
