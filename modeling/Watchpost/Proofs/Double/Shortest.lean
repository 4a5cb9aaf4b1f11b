import Watchpost.Double.Decimal
import Watchpost.Proofs.Double.Rounding

/-! The shortest decimal reads as what it stands for.

Each decimal that `shortest` gives lies between the midpoints of its magnitude (`reads_shortest`),
and so is read as it (`toMagnitude_eq`), as is every other decimal of the same value. -/
namespace Watchpost

namespace Double

theorem scaled_pos {m : Nat} (h : 0 < m) : 0 < scaled m :=
  Nat.lt_of_le_of_lt (Nat.zero_le _) (scaled_strictMono h)

theorem scaled_top (k : Nat) : scaled (binade + k * binade) = binade <<< k := by
  rw [scaled_place (by omega) (.inr (Nat.le_refl _)), Nat.shiftLeft_eq]

/-- It is the quotient that counts. -/
theorem Between.of_mul_eq {m num den num' den' : Nat} (h : Between m num den) (hden : 0 < den)
    (hden' : 0 < den') (heq : num * den' = num' * den) : Between m num' den' := by
  have hswap (s : Nat) : s * den' * den = s * den * den' := Nat.mul_right_comm ..
  constructor
  · refine Nat.le_of_mul_le_mul_right ?_ hden
    rw [hswap, ← heq]
    exact Nat.mul_le_mul_right den' h.lo
  · refine Nat.le_of_mul_le_mul_right ?_ hden
    rw [hswap, ← heq]
    exact Nat.mul_le_mul_right den' h.hi
  · have hback {s : Nat} (hs : num' = s * den') : num = s * den := by
      refine Nat.eq_of_mul_eq_mul_right hden' ?_
      rw [heq, hs, hswap]
    exact fun hmid => h.tie (hmid.imp hback hback)

/-- A value lies between its midpoints. -/
theorem between_scaled {m den : Nat} (hm : 0 < m) (hden : 0 < den) :
    Between m (2 * (scaled m * den)) den := by
  have hbelow := Nat.mul_lt_mul_of_pos_right (scaled_strictMono (show m - 1 < m by omega)) hden
  have habove := Nat.mul_lt_mul_of_pos_right (scaled_lt_succ m) hden
  constructor
  · rw [Nat.add_mul]
    omega
  · rw [Nat.add_mul]
    omega
  · rw [Nat.add_mul, Nat.add_mul]
    omega

end Double

namespace Decimal

theorem tenTo_pos (n : Nat) : 0 < tenTo n := Nat.pow_pos (by decide)

theorem tenTo_add (m n : Nat) : tenTo (m + n) = tenTo m * tenTo n := Nat.pow_add 10 m n

theorem tenTo_mono {m n : Nat} (h : m ≤ n) : tenTo m ≤ tenTo n :=
  Nat.pow_le_pow_right (by decide) h

/-! ### Halves of the least double -/

theorem halves_congr {a b c d k : Nat} (h : a * b = c * d) :
    2 * (a <<< k) * b = 2 * (c <<< k) * d := by
  rw [Nat.shiftLeft_eq, Nat.shiftLeft_eq]
  calc 2 * (a * 2 ^ k) * b = 2 * 2 ^ k * (a * b) := by ring
    _ = 2 * 2 ^ k * (c * d) := by rw [h]
    _ = 2 * (c * 2 ^ k) * d := by ring

theorem halves_eq (a k : Nat) : 2 * (a <<< k) = a * (1 <<< (k + 1)) := by
  rw [Nat.shiftLeft_eq, Nat.shiftLeft_eq]
  ring

theorem le_of_halves_le {a b c i k : Nat} (h : 2 * (a <<< k) ≤ 2 * (b <<< (i + k)) * c) :
    a ≤ b <<< i * c := by
  refine Nat.le_of_mul_le_mul_right ?_ (Nat.two_pow_pos (k + 1))
  rw [Nat.shiftLeft_eq, Nat.shiftLeft_eq] at h
  rw [Nat.shiftLeft_eq]
  calc a * 2 ^ (k + 1) = 2 * (a * 2 ^ k) := by ring
    _ ≤ 2 * (b * 2 ^ (i + k)) * c := h
    _ = b * 2 ^ i * c * 2 ^ (k + 1) := by ring

theorem fives_shift (a k : Nat) : (a * Nat.pow 5 k * tenTo 0) <<< k = a * tenTo k := by
  have hten : tenTo k = Nat.pow 5 k * 2 ^ k := Nat.mul_pow 5 2 k
  have hone : tenTo 0 = 1 := rfl
  rw [Nat.shiftLeft_eq, hten, hone, Nat.mul_one, Nat.mul_assoc]

/-- The decimal lies between the midpoints of a magnitude. -/
def Reads (m : Nat) (d : Decimal) : Prop :=
  Double.Between m (2 * ((d.digits * tenTo d.exponent.toNat) <<< 1074)) (tenTo (-d.exponent).toNat)

/-- A decimal with more digits and a lower exponent may have the same value. -/
theorem Reads.shift {m digits : Nat} {exponent : Int} (h : Reads m ⟨digits, exponent⟩) (k : Nat) :
    Reads m ⟨digits * tenTo k, exponent - k⟩ := by
  refine Double.Between.of_mul_eq h (tenTo_pos _) (tenTo_pos _) ?_
  have hplaces : exponent.toNat + (-(exponent - k)).toNat =
      k + (exponent - k).toNat + (-exponent).toNat := by omega
  have hpowers := congrArg tenTo hplaces
  rw [tenTo_add, tenTo_add, tenTo_add] at hpowers
  refine halves_congr ?_
  dsimp only
  rw [Nat.mul_assoc, hpowers, Nat.mul_assoc digits, Nat.mul_assoc digits]

/-! ### Reading -/

theorem digits_lt (n : Nat) : n < tenTo (digitsOf n).length :=
  (Nat.length_toDigits_le_iff (by decide) Nat.length_toDigits_pos).1 (Nat.le_refl _)

theorem le_digits {n : Nat} (h : 0 < n) : tenTo ((digitsOf n).length - 1) ≤ n := by
  rcases Nat.eq_zero_or_pos ((digitsOf n).length - 1) with hzero | hpos
  · rw [hzero]
    exact h
  · refine Nat.le_of_not_lt fun hlt => ?_
    have := (Nat.length_toDigits_le_iff (by decide) hpos).2 hlt
    have hlength : (Nat.toDigits 10 n).length = (digitsOf n).length := rfl
    omega

theorem Reads.digits_pos {m : Nat} {d : Decimal} (h : Reads m d) (hm : 0 < m) : 0 < d.digits := by
  refine Nat.pos_of_ne_zero fun hzero => ?_
  have hlo := h.lo
  have hpos := Nat.mul_pos (Nat.add_pos_right (Double.scaled (m - 1)) (Double.scaled_pos hm))
    (tenTo_pos (-d.exponent).toNat)
  rw [hzero, Nat.zero_mul, Nat.zero_shiftLeft] at hlo
  omega

/-- No decimal that is read as a positive magnitude is given up as too small. -/
theorem Reads.not_small {m : Nat} {d : Decimal} (h : Reads m d) (hm : 0 < m) :
    ¬d.exponent + (digitsOf d.digits).length < -330 := by
  intro hsmall
  have hten : 1 <<< (1074 + 1) ≤ tenTo 331 := by decide +kernel
  have hlo := h.lo
  have hzero : d.exponent.toNat = 0 := by omega
  have hplaces : (digitsOf d.digits).length + 331 ≤ (-d.exponent).toNat := by omega
  have hone : tenTo 0 = 1 := rfl
  rw [hzero, hone, Nat.mul_one, halves_eq] at hlo
  have hleast : 1 ≤ Double.scaled (m - 1) + Double.scaled m :=
    Nat.le_trans (Double.scaled_pos hm) (Nat.le_add_left ..)
  have hless : d.digits * tenTo 331 < tenTo (-d.exponent).toNat := by
    refine Nat.lt_of_lt_of_le ?_ (tenTo_mono hplaces)
    rw [tenTo_add]
    exact Nat.mul_lt_mul_of_pos_right (digits_lt d.digits) (tenTo_pos 331)
  refine absurd hless (Nat.not_lt.2 ?_)
  calc tenTo (-d.exponent).toNat = 1 * tenTo (-d.exponent).toNat := (Nat.one_mul _).symm
    _ ≤ (Double.scaled (m - 1) + Double.scaled m) * tenTo (-d.exponent).toNat :=
      Nat.mul_le_mul_right _ hleast
    _ ≤ d.digits * (1 <<< (1074 + 1)) := hlo
    _ ≤ d.digits * tenTo 331 := Nat.mul_le_mul_left _ hten

/-- No decimal that is read as a finite magnitude is taken to be infinite. -/
theorem Reads.not_large {m : Nat} {d : Decimal} (h : Reads m d) (hm : 0 < m)
    (hfinite : m < Double.infinite) : ¬311 < d.exponent + (digitsOf d.digits).length := by
  intro hlarge
  have hten : Double.binade <<< 972 < tenTo 311 := by decide +kernel
  have hdigits := le_digits (h.digits_pos hm)
  have hlength : 0 < (digitsOf d.digits).length := Nat.length_toDigits_pos
  have hplaces : 311 + (-d.exponent).toNat ≤ (digitsOf d.digits).length - 1 + d.exponent.toNat := by
    omega
  have hmany : tenTo 311 * tenTo (-d.exponent).toNat ≤ d.digits * tenTo d.exponent.toNat := by
    rw [← tenTo_add]
    refine Nat.le_trans (tenTo_mono hplaces) ?_
    rw [tenTo_add]
    exact Nat.mul_le_mul_right _ hdigits
  have hsum : Double.scaled m + Double.scaled (m + 1) ≤ 2 * Double.scaled Double.infinite := by
    have hhere := Double.scaled_mono (Nat.le_of_lt hfinite)
    have hnext := Double.scaled_mono (Nat.succ_le_of_lt hfinite)
    rw [Nat.succ_eq_add_one] at hnext
    omega
  have htop : Double.scaled Double.infinite = Double.binade <<< (972 + 1074) :=
    Double.scaled_top 2046
  rw [htop] at hsum
  have hvalue := le_of_halves_le
    (Nat.le_trans h.hi (Nat.mul_le_mul_right (tenTo (-d.exponent).toNat) hsum))
  have hless := Nat.mul_lt_mul_of_pos_right hten (tenTo_pos (-d.exponent).toNat)
  omega

/-- **A decimal between the midpoints of a magnitude is read as it.** -/
theorem toMagnitude_eq {m : Nat} {d : Decimal} (hm : 0 < m) (hfinite : m < Double.infinite)
    (h : Reads m d) : d.toMagnitude = m := by
  have hdigits := h.digits_pos hm
  unfold toMagnitude
  dsimp only
  rw [if_neg, if_neg (h.not_large hm hfinite)]
  · exact Double.nearestMagnitude_eq (tenTo_pos _) hfinite h
  · rintro (hzero | hsmall)
    · omega
    · exact h.not_small hm hsmall

/-! ### Shortest digits -/

theorem readsAs_iff {m unit den digits : Nat} :
    readsAs m unit den digits = true ↔ Double.Between m (digits * unit) den := by
  unfold readsAs
  dsimp only
  constructor
  · intro h
    split at h
    · next heven =>
      rw [Bool.and_eq_true, decide_eq_true_eq, decide_eq_true_eq] at h
      exact ⟨h.1, h.2, fun _ => heven⟩
    · rw [Bool.and_eq_true, decide_eq_true_eq, decide_eq_true_eq] at h
      exact ⟨Nat.le_of_lt h.1, Nat.le_of_lt h.2, fun hmid => by omega⟩
  · intro h
    have hlo := h.lo
    have hhi := h.hi
    have htie := h.tie
    split
    · rw [Bool.and_eq_true, decide_eq_true_eq, decide_eq_true_eq]
      exact ⟨hlo, hhi⟩
    · next hodd =>
      rw [Bool.and_eq_true, decide_eq_true_eq, decide_eq_true_eq]
      exact ⟨Nat.lt_of_le_of_ne hlo fun heq => hodd (htie (.inl heq.symm)),
        Nat.lt_of_le_of_ne hhi fun heq => hodd (htie (.inr heq))⟩

theorem reads_of_readsAs {m digits : Nat} {exponent : Int}
    (h : readsAs m (tenTo exponent.toNat <<< 1075) (tenTo (-exponent).toNat) digits = true) :
    Reads m ⟨digits, exponent⟩ := by
  have hbetween := readsAs_iff.1 h
  have hvalue (unit k : Nat) : digits * (unit <<< (k + 1)) = 2 * ((digits * unit) <<< k) := by
    rw [Nat.shiftLeft_eq, Nat.shiftLeft_eq]
    ring
  rw [hvalue _ 1074] at hbetween
  exact hbetween

theorem reads_atExponent {tie : Tie} {m : Nat} {exponent : Int} {d : Decimal}
    (h : atExponent tie m exponent = some d) : Reads m d := by
  unfold atExponent at h
  dsimp only at h
  generalize hunit : tenTo exponent.toNat <<< 1075 = unit at h
  generalize 2 * Double.scaled m * tenTo (-exponent).toNat / unit = below at h
  have hreads {digits : Nat}
      (hdigits : (decide (digits ≠ 0) && readsAs m unit (tenTo (-exponent).toNat) digits) = true) :
      Reads m ⟨digits, exponent⟩ := by
    rw [← hunit] at hdigits
    exact reads_of_readsAs (Bool.and_eq_true_iff.1 hdigits).2
  have heither {a b : Nat} {p : Prop} [Decidable p] (ha : Reads m ⟨a, exponent⟩)
      (hb : Reads m ⟨b, exponent⟩) : Reads m ⟨if p then a else b, exponent⟩ := by
    split
    · exact ha
    · exact hb
  split at h
  · next hbelow habove =>
    rw [← Option.some.inj h]
    exact heither (hreads habove) (hreads hbelow)
  · next hbelow habove =>
    rw [← Option.some.inj h]
    exact hreads hbelow
  · next hbelow habove =>
    rw [← Option.some.inj h]
    exact hreads habove
  · cases h

theorem reads_firstFrom {tie : Tie} {m tries : Nat} {exponent : Int} {d : Decimal}
    (h : firstFrom tie m tries exponent = some d) : Reads m d := by
  induction tries generalizing exponent with
  | zero => cases h
  | succ tries ih =>
    rw [firstFrom] at h
    cases hat : atExponent tie m exponent with
    | some found =>
      rw [hat] at h
      cases h
      exact reads_atExponent hat
    | none =>
      rw [hat] at h
      exact ih h

/-- All digits of a value. -/
theorem between_fives {m : Nat} (hm : 0 < m) (k : Nat) :
    Double.Between m (2 * ((Double.scaled m * Nat.pow 5 k * tenTo 0) <<< k)) (tenTo k) := by
  rw [fives_shift]
  exact Double.between_scaled hm (tenTo_pos k)

/-- **The shortest decimal lies between the midpoints.** -/
theorem reads_shortest (tie : Tie) {m : Nat} (hm : 0 < m) : Reads m (shortest tie m) := by
  unfold shortest
  dsimp only
  generalize hfound : firstFrom tie m 24 _ = found
  cases found with
  | some d => exact reads_firstFrom hfound
  | none =>
    have hwhole : (-1074 : Int).toNat = 0 := rfl
    have hparts : (-(-1074) : Int).toNat = 1074 := rfl
    rw [Option.getD_none, Reads, hwhole, hparts]
    generalize 1074 = k
    exact between_fives hm k

end Decimal
end Watchpost
