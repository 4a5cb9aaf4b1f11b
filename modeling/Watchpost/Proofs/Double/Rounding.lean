import Mathlib.Tactic.Ring
import Mathlib.Order.Monotone.Basic
import Watchpost.Double.Basic

/-! Rounding to a magnitude.

What lies between the midpoints of a magnitude and its neighbours is rounded to it
(`nearestMagnitude_eq`), and rounding keeps the order. Values are counted in half least doubles, so
the midpoints are natural numbers. -/
namespace Watchpost.Double

/-! ### Values of magnitudes -/

theorem binade_pos : 0 < binade := by decide

/-- Between two powers of two the magnitudes go up in equal steps. -/
theorem scaled_place {q k : Nat} (hq : q ≤ 2 * binade) (hk : k = 0 ∨ binade ≤ q) :
    scaled (q + k * binade) = q * 2 ^ k := by
  have hscaled {r j : Nat} (hr : r < binade) :
      scaled (r + (j + 1) * binade) = (binade + r) * 2 ^ j := by
    unfold scaled
    split
    · next hlt =>
      have hj : j = 0 := by
        rcases Nat.eq_zero_or_pos j with hj | hj
        · exact hj
        · have hmore : 2 * binade ≤ (j + 1) * binade := Nat.mul_le_mul_right binade (by omega)
          omega
      rw [hj]
      omega
    · rw [Nat.add_mul_mod_self_right, Nat.add_mul_div_right _ _ binade_pos, Nat.mod_eq_of_lt hr,
        Nat.div_eq_of_lt hr, Nat.shiftLeft_eq]
      congr 2
      omega
  rcases Nat.lt_or_ge q binade with hlow | hhigh
  · have hk0 : k = 0 := hk.resolve_right (Nat.not_le.2 hlow)
    subst hk0
    rw [Nat.zero_mul, Nat.add_zero, Nat.pow_zero, Nat.mul_one, scaled, if_pos (by omega)]
  · rcases Nat.lt_or_ge q (2 * binade) with hlt | hge
    · have hplace : q + k * binade = (q - binade) + (k + 1) * binade := by
        rw [Nat.add_mul]
        omega
      rw [hplace, hscaled (by omega), Nat.add_sub_cancel' hhigh]
    · have hplace : q + k * binade = 0 + (k + 1 + 1) * binade := by
        rw [Nat.add_mul, Nat.add_mul]
        omega
      have htop : q = 2 * binade := Nat.le_antisymm hq hge
      rw [hplace, hscaled binade_pos, htop, Nat.pow_succ]
      ring

theorem exists_place (m : Nat) :
    ∃ q k, m = q + k * binade ∧ q < 2 * binade ∧ (k = 0 ∨ binade ≤ q) := by
  rcases Nat.lt_or_ge m (2 * binade) with hlt | hge
  · exact ⟨m, 0, (Nat.zero_mul binade).symm ▸ rfl, hlt, .inl rfl⟩
  · have hdiv := Nat.div_add_mod m binade
    have hmod := Nat.mod_lt m binade_pos
    have htwo : 2 ≤ m / binade := (Nat.le_div_iff_mul_le binade_pos).2 hge
    refine ⟨binade + m % binade, m / binade - 1, ?_, by omega, .inr (Nat.le_add_right ..)⟩
    rw [Nat.sub_mul, Nat.mul_comm (m / binade)]
    have := Nat.mul_le_mul_left binade htwo
    omega

theorem scaled_lt_succ (m : Nat) : scaled m < scaled (m + 1) := by
  obtain ⟨q, k, rfl, hq, hk⟩ := exists_place m
  have hnext : q + k * binade + 1 = (q + 1) + k * binade := by omega
  rw [hnext, scaled_place (Nat.le_of_lt hq) hk,
    scaled_place hq (hk.imp_right fun h => Nat.le_succ_of_le h)]
  exact Nat.mul_lt_mul_of_pos_right (Nat.lt_succ_self q) (Nat.two_pow_pos k)

/-- Magnitudes are ordered as the values they stand for. -/
theorem scaled_strictMono : StrictMono scaled := strictMono_nat_of_lt_succ scaled_lt_succ

theorem scaled_mono {m n : Nat} (h : m ≤ n) : scaled m ≤ scaled n := scaled_strictMono.monotone h

/-! ### The nearest natural number -/

/-- No natural number is closer to the quotient, and of two that are as close it is the even one. -/
structure Near (num den q : Nat) : Prop where
  lo : 2 * (q * den) ≤ 2 * num + den
  hi : 2 * num ≤ 2 * (q * den) + den
  tie : 2 * (q * den) = 2 * num + den ∨ 2 * num = 2 * (q * den) + den → q % 2 = 0

theorem near_nearest (num : Nat) {den : Nat} (h : 0 < den) : Near num den (nearest num den) := by
  have hdiv := Nat.div_add_mod num den
  have hmod := Nat.mod_lt num h
  have hcomm : num / den * den = den * (num / den) := Nat.mul_comm ..
  have hsucc : (num / den + 1) * den = num / den * den + den := Nat.succ_mul ..
  have hpair (q : Nat) (hq : q = num / den ∧ 2 * (num % den) ≤ den ∨
      q = num / den + 1 ∧ den ≤ 2 * (num % den))
      (htie : 2 * (num % den) = den → q % 2 = 0) : Near num den q := by
    rcases hq with ⟨rfl, hle⟩ | ⟨rfl, hle⟩
    · exact ⟨by omega, by omega, fun _ => htie (by omega)⟩
    · exact ⟨by omega, by omega, fun _ => htie (by omega)⟩
  unfold nearest
  dsimp only
  split
  · exact hpair _ (.inl ⟨rfl, by omega⟩) (by omega)
  · split
    · exact hpair _ (.inr ⟨rfl, by omega⟩) (by omega)
    · rcases Nat.mod_two_eq_zero_or_one (num / den) with heven | hodd
      · exact hpair _ (.inl ⟨by omega, by omega⟩) (by omega)
      · exact hpair _ (.inr ⟨by omega, by omega⟩) (by omega)

/-! ### The nearest magnitude -/

/-- A quotient, counted in halves of the least double, lies between the midpoints of a magnitude
and its neighbours. The midpoints count for even magnitudes only. -/
structure Between (m num den : Nat) : Prop where
  lo : (scaled (m - 1) + scaled m) * den ≤ num
  hi : num ≤ (scaled m + scaled (m + 1)) * den
  tie : num = (scaled (m - 1) + scaled m) * den ∨ num = (scaled m + scaled (m + 1)) * den →
    m % 2 = 0

/-- A value lies between the midpoints of one magnitude only. -/
theorem Between.unique {m n num den : Nat} (hden : 0 < den) (hm : Between m num den)
    (hn : Between n num den) : m = n := by
  have hless {a b : Nat} (ha : Between a num den) (hb : Between b num den) (hab : a < b) : False := by
    have hlower : scaled a ≤ scaled (b - 1) := scaled_mono (by omega)
    have hupper : scaled (a + 1) ≤ scaled b := scaled_mono hab
    have hmiddle := Nat.mul_le_mul_right den (Nat.add_le_add hlower hupper)
    have hlo := hb.lo
    have hhi := ha.hi
    have heven := ha.tie (.inr (by omega))
    have heven' := hb.tie (.inl (by omega))
    have hsum := Nat.eq_of_mul_eq_mul_right hden (Nat.le_antisymm hmiddle (by omega))
    have hplace := scaled_strictMono.injective (show scaled a = scaled (b - 1) by omega)
    omega
  rcases Nat.lt_trichotomy m n with h | h | h
  · exact (hless hm hn h).elim
  · exact h
  · exact (hless hn hm h).elim

/-- How many bits are dropped of a value, which has no more than 53 of them then. -/
theorem dropped_bounds {least den d : Nat} (hden : 0 < den) (hd : d = (least / den).log2 - 52) :
    least < 2 * binade * (den * 2 ^ d) ∧ (d = 0 ∨ binade * (den * 2 ^ d) ≤ least) := by
  have hbinade : binade = 2 ^ 52 := by decide
  have hswap (n : Nat) : n * (den * 2 ^ d) = n * 2 ^ d * den := by ring
  rw [hswap, hswap]
  constructor
  · rw [← Nat.div_lt_iff_lt_mul hden]
    refine Nat.lt_of_lt_of_le Nat.lt_log2_self ?_
    rw [hbinade, ← Nat.pow_succ', ← Nat.pow_add]
    exact Nat.pow_le_pow_right (by decide) (by omega)
  · rcases Nat.eq_zero_or_pos d with h0 | hpos
    · exact .inl h0
    · right
      rw [← Nat.le_div_iff_mul_le hden]
      have hne : least / den ≠ 0 := by
        intro hzero
        rw [hzero, Nat.log2_zero] at hd
        omega
      refine Nat.le_trans ?_ (Nat.log2_self_le hne)
      rw [hbinade, ← Nat.pow_add]
      exact Nat.pow_le_pow_right (by decide) (by omega)

/-- A value, counted in least doubles, and what is left of it once bits were dropped and it was
rounded. -/
structure Rounded (least den d q : Nat) : Prop where
  den_pos : 0 < den
  lt : least < 2 * binade * (den * 2 ^ d)
  ge : d = 0 ∨ binade * (den * 2 ^ d) ≤ least
  near : Near least (den * 2 ^ d) q

section
variable {least den d p q : Nat}

theorem scaled_mul (hp : p ≤ 2 * binade) (hp' : d = 0 ∨ binade ≤ p) :
    scaled (p + d * binade) * den = p * (den * 2 ^ d) := by
  rw [scaled_place hp hp']
  ring

theorem even_place (h : q % 2 = 0) : (q + d * binade) % 2 = 0 := by
  have hbinade : binade = 2 * 2 ^ 51 := by decide
  rw [hbinade, Nat.mul_left_comm, Nat.add_mul_mod_self_left, h]

theorem Rounded.top (h : Rounded least den d q) : q ≤ 2 * binade := by
  refine Nat.le_of_not_lt fun hq => ?_
  have hD : 0 < den * 2 ^ d := Nat.mul_pos h.den_pos (Nat.two_pow_pos d)
  have hmul := Nat.mul_le_mul_right (den * 2 ^ d) (Nat.succ_le_of_lt hq)
  have hlo := h.near.lo
  have hlt := h.lt
  rw [Nat.succ_mul] at hmul
  omega

theorem Rounded.bottom (h : Rounded least den d q) : d = 0 ∨ binade ≤ q := by
  refine h.ge.imp_right fun hge => Nat.le_of_not_lt fun hq => ?_
  have hD : 0 < den * 2 ^ d := Nat.mul_pos h.den_pos (Nat.two_pow_pos d)
  have hmul := Nat.mul_le_mul_right (den * 2 ^ d) (Nat.succ_le_of_lt hq)
  have hhi := h.near.hi
  rw [Nat.succ_mul] at hmul
  omega

/-- Below: a step less, unless the step down is to the next power of two. -/
theorem Rounded.below (h : Rounded least den d q) :
    (scaled (q + d * binade - 1) + scaled (q + d * binade)) * den ≤ 2 * least ∧
      (2 * least = (scaled (q + d * binade - 1) + scaled (q + d * binade)) * den →
        (q + d * binade) % 2 = 0) := by
  have hD : 0 < den * 2 ^ d := Nat.mul_pos h.den_pos (Nat.two_pow_pos d)
  have hlo := h.near.lo
  have htop := h.top
  have hhere : scaled (q + d * binade) * den = q * (den * 2 ^ d) := scaled_mul htop h.bottom
  rcases Nat.eq_zero_or_pos (q + d * binade) with hzero | hpos
  · rw [hzero]
    exact ⟨by rw [scaled, if_pos (by decide)]; omega, fun _ => rfl⟩
  · by_cases hstep : 0 < q ∧ (d = 0 ∨ binade ≤ q - 1)
    · have hplace : q + d * binade - 1 = (q - 1) + d * binade := by omega
      have hprevious : scaled (q - 1 + d * binade) * den = (q - 1) * (den * 2 ^ d) :=
        scaled_mul (by omega) hstep.2
      have hsub : (q - 1) * (den * 2 ^ d) + den * 2 ^ d = q * (den * 2 ^ d) := by
        rw [← Nat.succ_mul]
        congr 1
        omega
      rw [hplace, Nat.add_mul, hprevious, hhere]
      exact ⟨by omega, fun heq => even_place (h.near.tie (.inl (by omega)))⟩
    · have hleast : q * (den * 2 ^ d) ≤ least := by
        rcases h.ge with hd | hge
        · subst hd
          omega
        · have hqb : q ≤ binade := by omega
          exact Nat.le_trans (Nat.mul_le_mul_right _ hqb) hge
      have hless : scaled (q + d * binade - 1) < scaled (q + d * binade) :=
        scaled_strictMono (by omega)
      have hless' := Nat.mul_lt_mul_of_pos_right hless h.den_pos
      rw [Nat.add_mul]
      exact ⟨by omega, fun heq => by omega⟩

/-- Above: a step more, unless the value is that of the next power of two. -/
theorem Rounded.above (h : Rounded least den d q) :
    2 * least ≤ (scaled (q + d * binade) + scaled (q + d * binade + 1)) * den ∧
      (2 * least = (scaled (q + d * binade) + scaled (q + d * binade + 1)) * den →
        (q + d * binade) % 2 = 0) := by
  have hhi := h.near.hi
  have hhere : scaled (q + d * binade) * den = q * (den * 2 ^ d) := scaled_mul h.top h.bottom
  rcases Nat.lt_or_ge q (2 * binade) with hstep | hstep
  · have hplace : q + d * binade + 1 = (q + 1) + d * binade := by omega
    have hnext : scaled (q + 1 + d * binade) * den = (q + 1) * (den * 2 ^ d) :=
      scaled_mul hstep (h.bottom.imp_right fun hq => Nat.le_succ_of_le hq)
    have hsucc : (q + 1) * (den * 2 ^ d) = q * (den * 2 ^ d) + den * 2 ^ d := Nat.succ_mul ..
    rw [hplace, Nat.add_mul, hnext, hhere, hsucc]
    exact ⟨by omega, fun heq => even_place (h.near.tie (.inr (by omega)))⟩
  · have hq' : q = 2 * binade := Nat.le_antisymm h.top hstep
    have hmore := Nat.mul_le_mul_right den (Nat.le_of_lt (scaled_lt_succ (q + d * binade)))
    have hlt := h.lt
    rw [← hq'] at hlt
    rw [Nat.add_mul]
    exact ⟨by omega, fun heq => by omega⟩

/-- What a value is rounded to has it between its midpoints. -/
theorem Rounded.between (h : Rounded least den d q) :
    Between (q + d * binade) (2 * least) den :=
  ⟨h.below.1, h.above.1, fun htie => htie.elim h.below.2 h.above.2⟩

end

/-- How a quotient is rounded: bits are dropped of it until it has 53 of them. -/
theorem exists_rounded (num : Nat) {den : Nat} (hden : 0 < den) :
    ∃ d q, d = ((num <<< 1074) / den).log2 - 52 ∧ Rounded (num <<< 1074) den d q ∧
      nearestMagnitude num den = min infinite (q + d * binade) := by
  obtain ⟨d, hd⟩ : ∃ d, d = ((num <<< 1074) / den).log2 - 52 := ⟨_, rfl⟩
  obtain ⟨hlt, hge⟩ := dropped_bounds hden hd
  have hnear := near_nearest (num <<< 1074) (Nat.mul_pos hden (Nat.two_pow_pos d))
  refine ⟨d, _, hd, ⟨hden, hlt, hge, hnear⟩, ?_⟩
  unfold nearestMagnitude
  dsimp only
  rw [← hd, Nat.shiftLeft_eq den]

/-- What a quotient is rounded to, unless it is beyond the doubles. -/
theorem exists_between (num : Nat) {den : Nat} (hden : 0 < den) :
    ∃ m, Between m (2 * (num <<< 1074)) den ∧ nearestMagnitude num den = min infinite m := by
  obtain ⟨d, q, -, hrounded, heq⟩ := exists_rounded num hden
  exact ⟨q + d * binade, hrounded.between, heq⟩

section
variable {m num den : Nat}

/-- **What lies between the midpoints of a magnitude is rounded to it.** -/
theorem nearestMagnitude_eq (hden : 0 < den) (hm : m < infinite)
    (h : Between m (2 * (num <<< 1074)) den) : nearestMagnitude num den = m := by
  obtain ⟨r, hr, heq⟩ := exists_between num hden
  rw [heq, hr.unique hden h]
  exact Nat.min_eq_right (Nat.le_of_lt hm)

/-- What is no greater than a magnitude stays so when it is rounded. -/
theorem nearestMagnitude_le_of_le (hden : 0 < den) (h : num <<< 1074 ≤ scaled m * den) :
    nearestMagnitude num den ≤ m := by
  obtain ⟨r, hr, heq⟩ := exists_between num hden
  rw [heq]
  refine Nat.le_trans (Nat.min_le_right ..) (Nat.le_of_not_lt fun hlt => ?_)
  have hbelow : scaled m ≤ scaled (r - 1) := scaled_mono (by omega)
  have hsum := Nat.mul_lt_mul_of_pos_right
    (Nat.add_lt_add_of_le_of_lt hbelow (scaled_strictMono hlt)) hden
  have hlo := hr.lo
  rw [← Nat.two_mul, Nat.mul_assoc] at hsum
  omega

/-- What is no less than a magnitude stays so when it is rounded. -/
theorem le_nearestMagnitude_of_le (hden : 0 < den) (hm : m ≤ infinite)
    (h : scaled m * den ≤ num <<< 1074) : m ≤ nearestMagnitude num den := by
  obtain ⟨r, hr, heq⟩ := exists_between num hden
  rw [heq]
  refine Nat.le_min.2 ⟨hm, Nat.le_of_not_lt fun hlt => ?_⟩
  have habove : scaled (r + 1) ≤ scaled m := scaled_mono hlt
  have hsum := Nat.mul_lt_mul_of_pos_right
    (Nat.add_lt_add_of_lt_of_le (scaled_strictMono hlt) habove) hden
  have hhi := hr.hi
  rw [← Nat.two_mul, Nat.mul_assoc] at hsum
  omega

/-- Rounding keeps the order. -/
theorem nearestMagnitude_mono {num' : Nat} (hden : 0 < den) (h : num ≤ num') :
    nearestMagnitude num den ≤ nearestMagnitude num' den := by
  obtain ⟨r, hr, heq⟩ := exists_between num hden
  obtain ⟨r', hr', heq'⟩ := exists_between num' hden
  rw [heq, heq']
  refine Nat.le_min.2 ⟨Nat.min_le_left .., Nat.le_trans (Nat.min_le_right ..) ?_⟩
  refine Nat.le_of_not_lt fun hlt => ?_
  rcases Nat.eq_or_lt_of_le h with rfl | hless
  · rw [hr.unique hden hr'] at hlt
    exact Nat.lt_irrefl _ hlt
  · have hlower : scaled r' ≤ scaled (r - 1) := scaled_mono (by omega)
    have hupper : scaled (r' + 1) ≤ scaled r := scaled_mono hlt
    have hmiddle := Nat.mul_le_mul_right den (Nat.add_le_add hlower hupper)
    have hshifted : num <<< 1074 < num' <<< 1074 := by
      rw [Nat.shiftLeft_eq, Nat.shiftLeft_eq]
      exact Nat.mul_lt_mul_of_pos_right hless (Nat.two_pow_pos 1074)
    have hlo := hr.lo
    have hhi := hr'.hi
    omega

end

end Watchpost.Double
