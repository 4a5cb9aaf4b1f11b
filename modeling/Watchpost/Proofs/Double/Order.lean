import Watchpost.Proofs.Double.Writing

/-! The order of doubles.

Of two numbers one is less than the other or they share a place (`lt_eq_not_le`). What is no number
stands outside of the order (`unordered`); rounding never leads to it, and of all texts only the
word `nan` does (`isNaN_read?`). -/
namespace Watchpost

namespace Double

variable {a b d : Double}

/-! ### Comparisons -/

theorem lt_eq_not_le (ha : a.isNaN = false) (hb : b.isNaN = false) : a.lt b = !b.le a := by
  have hkeys : decide (a.key < b.key) = !decide (b.key ≤ a.key) := by
    rw [← decide_not, decide_eq_decide]
    exact Int.not_le.symm
  rw [lt, le, ha, hb]
  exact hkeys

theorem le_refl (h : d.isNaN = false) : d.le d = true := by
  rw [le, h, decide_eq_true (Int.le_refl _)]
  rfl

/-- What is no less is greater, or is at the same place. -/
theorem le_iff_lt_or : a.le b = true ↔ a.lt b = true ∨ (a.le b = true ∧ b.le a = true) := by
  simp only [lt, le, Bool.and_eq_true, decide_eq_true_eq]
  constructor
  · rintro ⟨⟨ha, hb⟩, hle⟩
    rcases Int.lt_or_le a.key b.key with hlt | hge
    · exact .inl ⟨⟨ha, hb⟩, hlt⟩
    · exact .inr ⟨⟨⟨ha, hb⟩, hle⟩, ⟨hb, ha⟩, hge⟩
  · rintro (⟨hnan, hlt⟩ | ⟨hle, -⟩)
    · exact ⟨hnan, Int.le_of_lt hlt⟩
    · exact hle

/-- What is no number is neither less than anything nor at the place of anything. -/
theorem unordered (h : a.isNaN = true ∨ b.isNaN = true) : a.lt b = false ∧ a.le b = false := by
  unfold lt le
  rcases h with h | h
  · rw [h]
    exact ⟨rfl, rfl⟩
  · rw [h, Bool.not_true, Bool.and_false]
    exact ⟨rfl, rfl⟩

/-! ### Rounding leads to numbers -/

theorem isNaN_eq_false (h : d.magnitude ≤ infinite) : d.isNaN = false :=
  decide_eq_false (Nat.not_lt.2 h)

theorem nearestMagnitude_le (num den : Nat) : nearestMagnitude num den ≤ infinite := Nat.min_le_left ..

theorem isNaN_ofNat (n : Nat) : (ofNat n).isNaN = false := isNaN_eq_false (nearestMagnitude_le n 1)

theorem isNaN_ofInt (i : Int) : (ofInt i).isNaN = false :=
  isNaN_eq_false (nearestMagnitude_le i.natAbs 1)

end Double

theorem Decimal.toMagnitude_le (d : Decimal) : d.toMagnitude ≤ Double.infinite := by
  unfold toMagnitude
  dsimp only
  split
  · exact Nat.zero_le _
  · split
    · exact Nat.le_refl _
    · exact Double.nearestMagnitude_le ..

namespace Double

/-! ### Quotients and integers stay finite -/

theorem scaled_one : scaled (ofNat 1).magnitude = 1 <<< 1074 := by decide +kernel

theorem shiftLeft_mono {m n : Nat} (h : m ≤ n) (k : Nat) : m <<< k ≤ n <<< k := by
  rw [Nat.shiftLeft_eq, Nat.shiftLeft_eq]
  exact Nat.mul_le_mul_right _ h

theorem one_le_ofNat {n : Nat} (h : 0 < n) : (ofNat 1).magnitude ≤ (ofNat n).magnitude := by
  refine le_nearestMagnitude_of_le Nat.one_pos (nearestMagnitude_le 1 1) ?_
  rw [scaled_one, Nat.mul_one]
  exact shiftLeft_mono h _

/-- What fits 64 bits is far from the greatest double. -/
theorem ofNat_lt_infinite {n : Nat} (h : n ≤ 0x10000000000000000) : (ofNat n).magnitude < infinite := by
  have htop : scaled 0x43F0000000000000 = 0x10000000000000000 <<< 1074 := by decide +kernel
  have hle : (ofNat n).magnitude ≤ 0x43F0000000000000 := by
    refine nearestMagnitude_le_of_le Nat.one_pos ?_
    rw [htop, Nat.mul_one]
    exact shiftLeft_mono h _
  exact Nat.lt_of_le_of_lt hle (by decide)

/-- A quotient by one or more is no greater. -/
theorem magnitude_div_le {a b : Double} (h : (ofNat 1).magnitude ≤ b.magnitude) :
    (a.div b).magnitude ≤ a.magnitude := by
  have hone : 1 <<< 1074 ≤ scaled b.magnitude := scaled_one ▸ scaled_mono h
  have hshift (n k : Nat) : n <<< k = n * 1 <<< k := by
    rw [Nat.shiftLeft_eq, Nat.shiftLeft_eq, Nat.one_mul]
  refine nearestMagnitude_le_of_le (Nat.lt_of_lt_of_le (by decide) hone) ?_
  rw [hshift]
  exact Nat.mul_le_mul_left _ hone

/-! ### Reading what is no number -/

/-- An optional sign and the word `nan` in any case. -/
def spellsNaN (cs : List Char) : Bool := (splitSign cs).2.map lower == ['n', 'a', 'n']

theorem lower_digit {c : Char} (h : isDigit c = true) : lower c = c := by
  have hletter : ¬('A' ≤ c ∧ c ≤ 'Z') := by
    simp only [isDigit, Bool.and_eq_true, decide_eq_true_eq, Char.le_def, UInt32.le_iff_toNat_le] at h ⊢
    have : ('9' : Char).val.toNat < ('A' : Char).val.toNat := by decide
    omega
  exact if_neg hletter

/-- A decimal begins with a digit or a point. -/
theorem readDecimal_eq_none {c : Char} (hdigit : isDigit c = false) (hpoint : c ≠ '.')
    (rest : List Char) : readDecimal (c :: rest) = none := by
  have hwhole : (c :: rest).takeWhile isDigit = [] := List.takeWhile_cons_of_neg (by simp [hdigit])
  have hrest : (c :: rest).dropWhile isDigit = c :: rest :=
    List.dropWhile_cons_of_neg (by simp [hdigit])
  have hfraction : Layout.splitFraction (c :: rest) = ([], c :: rest) := by
    unfold Layout.splitFraction
    split
    · next heq => exact absurd (List.cons.inj heq).1 hpoint
    · rfl
  rw [Layout.readDecimal_eq, hwhole, hrest, hfraction]
  rfl

/-- The word is no decimal. -/
theorem readDecimal_word {cs : List Char} (h : cs.map lower = ['n', 'a', 'n']) :
    readDecimal cs = none := by
  obtain ⟨c, rest, rfl⟩ := List.exists_cons_of_ne_nil (l := cs) (by rintro rfl; cases h)
  have hfirst : lower c = 'n' := (List.cons.inj h).1
  refine readDecimal_eq_none ?_ ?_ rest
  · refine Bool.eq_false_iff.2 fun hc => ?_
    rw [lower_digit hc] at hfirst
    rw [hfirst] at hc
    cases hc
  · rintro rfl
    cases hfirst

theorem readMagnitude_nan {cs : List Char} {m : Nat} (h : readMagnitude cs = some m) :
    infinite < m ↔ cs.map lower = ['n', 'a', 'n'] := by
  unfold readMagnitude at h
  split at h
  · next dec hdec =>
    cases h
    refine ⟨fun hlt => absurd hlt (Nat.not_lt.2 dec.toMagnitude_le), fun hword => ?_⟩
    rw [readDecimal_word hword] at hdec
    cases hdec
  · dsimp only at h
    split at h
    · next hword =>
      cases h
      refine ⟨fun hlt => absurd hlt (Nat.lt_irrefl _), fun hnan => ?_⟩
      rw [hnan] at hword
      exact absurd hword (by decide)
    · split at h
      · next hword =>
        cases h
        exact ⟨fun _ => String.ofList_injective hword, fun _ => by decide⟩
      · cases h

/-- **What is read is a number**, unless it is the word for what is none. -/
theorem isNaN_read? {cs : List Char} (h : read? cs = some d) : d.isNaN = spellsNaN cs := by
  obtain ⟨m, hm, rfl⟩ := Option.map_eq_some_iff.1 h
  have hiff := readMagnitude_nan hm
  rw [spellsNaN, isNaN, Bool.eq_iff_iff, decide_eq_true_eq, beq_iff_eq]
  exact hiff

/-- The word is read. -/
theorem isSome_read?_of_spellsNaN {cs : List Char} (h : spellsNaN cs = true) :
    (read? cs).isSome = true := by
  have hword : (splitSign cs).2.map lower = ['n', 'a', 'n'] := beq_iff_eq.1 h
  have hmagnitude : readMagnitude (splitSign cs).2 = some nan.magnitude := by
    unfold readMagnitude
    rw [readDecimal_word hword, hword]
    decide
  unfold read?
  dsimp only
  rw [hmagnitude]
  rfl

end Double
end Watchpost
