import Watchpost.Event.Record
import Watchpost.Proofs.Condition.Spelling
import Watchpost.Proofs.Json.Regular

/-! What the texts of scalars say.

A number is told by a text that has no blanks and that spells it again: an integer of 64 bits spells
an integer, a larger one the nearest double, and a double itself (`size?_eq`). -/
namespace Watchpost

/-- The size that a text says: an integer, or a number without its fraction; zero if it is
neither. -/
def sizeIn (s : String) : Int :=
  let cs := Text.trim s.toList
  ((IntegerKind.int64.read? cs) <|> (Double.read? cs).map wholeOf).getD 0

theorem sizeIn_of_integer {s : String} {i : Int}
    (h : IntegerKind.int64.read? (Text.trim s.toList) = some i) : sizeIn s = i := by
  unfold sizeIn
  dsimp only
  rw [h]
  simp only [Option.orElse_eq_orElse, Option.orElse_eq_or, Option.some_or, Option.getD_some]

theorem sizeIn_of_double {s : String} {d : Double}
    (hinteger : IntegerKind.int64.read? (Text.trim s.toList) = none)
    (h : Double.read? (Text.trim s.toList) = some d) : sizeIn s = wholeOf d := by
  unfold sizeIn
  dsimp only
  rw [hinteger, h]
  simp only [Option.orElse_eq_orElse, Option.orElse_eq_or, Option.map_some, Option.none_or,
    Option.getD_some]

theorem sizeIn_of_neither {s : String}
    (hinteger : IntegerKind.int64.read? (Text.trim s.toList) = none)
    (h : Double.read? (Text.trim s.toList) = none) : sizeIn s = 0 := by
  unfold sizeIn
  dsimp only
  rw [hinteger, h]
  rfl

/-! ### Characters of numbers -/

/-- No character from the signs to the letters of exponents is a blank. -/
theorem isBlank_eq_false {c : Char} (hlo : 0x2B ≤ c.toNat) (hhi : c.toNat ≤ 0x65) :
    Text.isBlank c = false := by
  have hranges : ∀ r ∈ Text.blankRanges, r.2 < 0x2B ∨ 0x65 < r.1 := by decide
  refine List.any_eq_false.2 fun r hr => ?_
  rw [Bool.and_eq_true, decide_eq_true_eq, decide_eq_true_eq]
  have := hranges r hr
  omega

theorem trim_eq {cs : List Char} (h : ∀ c ∈ cs, Text.isBlank c = false) : Text.trim cs = cs := by
  have hdrop {ds : List Char} (h : ∀ c ∈ ds, Text.isBlank c = false) :
      ds.dropWhile Text.isBlank = ds := by
    cases ds with
    | nil => rfl
    | cons c ds =>
      refine List.dropWhile_cons_of_neg ?_
      rw [h c List.mem_cons_self]
      exact Bool.false_ne_true
  rw [Text.trim, hdrop h, hdrop fun c hc => h c (List.mem_reverse.1 hc), List.reverse_reverse]

/-- Behind the first character of an integer there are digits only. -/
theorem read?_eq_none (k : IntegerKind) {c d : Char} {rest : List Char} (hd : d ∈ rest)
    (h : isDigit d = false) : k.read? (c :: rest) = none := by
  have hfault {digits : List Char} (hmem : d ∈ digits) : digits.isEmpty ∨ !digits.all isDigit := by
    refine .inr ?_
    rw [List.all_eq_false.2 ⟨d, hmem, Bool.eq_false_iff.1 h⟩]
    rfl
  unfold IntegerKind.read? IntegerKind.read
  split
  next negative digits heq =>
  have hmem : d ∈ digits := by
    split at heq
    · next hcons =>
      cases hcons
      split at heq
      · cases heq
        exact hd
      · cases heq
        exact List.mem_cons_of_mem _ hd
    · next hcons =>
      cases hcons
      cases heq
      exact hd
    · cases heq
      exact List.mem_cons_of_mem _ hd
  rw [if_pos (hfault hmem)]
  rfl

/-! ### Integers -/

variable {i : Int}

theorem trim_toString (i : Int) : Text.trim (toString i).toList = (toString i).toList := by
  refine trim_eq fun c hc => ?_
  rw [Token.toList_toString, Token.signed, List.mem_append] at hc
  rcases hc with hc | hc
  · split at hc
    · cases List.mem_singleton.1 hc
      decide
    · cases hc
  · have := Token.isDigit_bound (isDigit_of_mem_digitsOf hc)
    exact isBlank_eq_false (by omega) (by omega)

/-- An integer of 64 bits with a sign says itself. -/
theorem sizeIn_toString (hlo : IntegerKind.int64.lo ≤ i) (hhi : i ≤ IntegerKind.int64.hi) :
    sizeIn (toString i) = i := by
  refine sizeIn_of_integer ?_
  rw [trim_toString, Token.toList_toString, IntegerKind.read?, Token.read_toString hlo hhi]
  rfl

/-- The digits of an integer of 64 bits are read as the nearest double. -/
theorem readMagnitude_digitsOf {n : Nat} (h : n < 0x10000000000000000) :
    Double.readMagnitude (Decimal.digitsOf n) = some (Double.ofNat n).magnitude := by
  have hne : (Decimal.digitsOf n).isEmpty = false := List.isEmpty_eq_false_iff.2 Nat.toDigits_ne_nil
  obtain ⟨htake, hdrop⟩ := takeWhile_run (fun c hc => isDigit_of_mem_digitsOf (n := n) hc)
    (show ([] : List Char).head?.any isDigit = false from rfl)
  rw [List.append_nil] at htake hdrop
  have hread : Double.readDecimal (Decimal.digitsOf n) = some ⟨n, 0⟩ := by
    rw [Double.Layout.readDecimal_eq, htake, hdrop, hne, Bool.false_and, if_neg Bool.false_ne_true,
      appendDigits_digitsOf]
    rfl
  have hmagnitude : (⟨n, 0⟩ : Decimal).toMagnitude = (Double.ofNat n).magnitude := by
    rcases Nat.eq_zero_or_pos n with rfl | hpos
    · decide +kernel
    · have hlength : (Decimal.digitsOf n).length ≤ 20 := by
        refine Nat.le_of_not_lt fun hlong => ?_
        have hlarge := Nat.le_trans (Decimal.tenTo_mono (Nat.le_sub_one_of_lt hlong))
          (Decimal.le_digits hpos)
        exact absurd (Nat.lt_of_le_of_lt hlarge h) (by decide)
      unfold Decimal.toMagnitude
      dsimp only
      rw [if_neg (by omega), if_neg (by omega)]
      exact congrArg (Double.nearestMagnitude · 1) (Nat.mul_one n)
  unfold Double.readMagnitude
  rw [hread]
  exact congrArg some hmagnitude

/-- A larger one is read as a double. -/
theorem sizeIn_toString_large (hlo : IntegerKind.int64.hi < i) (hhi : i ≤ IntegerKind.any64.hi) :
    sizeIn (toString i) = wholeOf (Double.ofInt i) := by
  have hpos : ¬i < 0 := by
    have : 0 < IntegerKind.int64.hi := by decide
    omega
  have hne : Decimal.digitsOf i.natAbs ≠ [] := Nat.toDigits_ne_nil
  have hdigits : ∀ c ∈ Decimal.digitsOf i.natAbs, isDigit c = true :=
    fun c hc => isDigit_of_mem_digitsOf hc
  have habs : (i.natAbs : Int) = i := by omega
  have hinteger : IntegerKind.int64.read? (toString i).toList = none := by
    rw [Token.toList_toString, IntegerKind.read?, Token.read_signed hne hdigits, decide_eq_false hpos,
      appendDigits_digitsOf, if_neg Bool.false_ne_true, habs, if_pos hlo]
    rfl
  have hdouble : Double.read? (toString i).toList = some (Double.ofInt i) := by
    have hlt : i.natAbs < 0x10000000000000000 := by
      have : IntegerKind.any64.hi = 0xFFFFFFFFFFFFFFFF := rfl
      omega
    rw [Token.toList_toString, decide_eq_false hpos, Token.signed, if_neg Bool.false_ne_true,
      List.nil_append, Double.read?, Double.Layout.splitSign_digits hne hdigits]
    dsimp only
    rw [readMagnitude_digitsOf hlt, Double.ofInt, decide_eq_false hpos]
    rfl
  rw [← trim_toString] at hinteger hdouble
  exact sizeIn_of_double hinteger hdouble

/-! ### Doubles -/

theorem Double.Layout.bounds_of_mem_chars {l : Layout} (h : l.Proper) {c : Char}
    (hc : c ∈ l.chars) : 0x2B ≤ c.toNat ∧ c.toNat ≤ 0x65 := by
  have hdigit {c : Char} (h : isDigit c = true) : 0x2B ≤ c.toNat ∧ c.toNat ≤ 0x65 := by
    have := Token.isDigit_bound h
    omega
  rw [chars, List.mem_append, List.mem_append] at hc
  rcases hc with hc | hc | hc
  · exact hdigit (h.whole c hc)
  · unfold tail at hc
    split at hc
    · next ds hfraction =>
      rcases List.mem_cons.1 hc with rfl | hc
      · decide
      · exact hdigit (h.fraction ds hfraction c hc)
    · cases hc
  · unfold power at hc
    split at hc
    · next mark sign ds hexponent =>
      rcases List.mem_cons.1 hc with rfl | hc
      · rcases h.mark _ sign ds hexponent with rfl | rfl
        · decide
        · decide
      · rcases List.mem_append.1 hc with hc | hc
        · rcases h.sign mark sign ds hexponent with rfl | rfl | rfl
          · cases hc
          · cases List.mem_singleton.1 hc
            decide
          · cases List.mem_singleton.1 hc
            decide
        · exact hdigit ((h.exponent mark sign ds hexponent).2 c hc)
    · cases hc

/-- Behind the digits at its front a double has a point or a mark. -/
theorem Double.Layout.exists_not_digit {l : Layout} (h : l.Proper) :
    ∃ c ∈ l.tail ++ l.power, isDigit c = false := by
  rcases h.float with hfloat | hfloat
  · obtain ⟨ds, hfraction⟩ := Option.ne_none_iff_exists'.1 hfloat
    refine ⟨'.', List.mem_append_left _ ?_, rfl⟩
    rw [tail, hfraction]
    exact List.mem_cons_self
  · obtain ⟨⟨mark, sign, ds⟩, hexponent⟩ := Option.ne_none_iff_exists'.1 hfloat
    refine ⟨mark, List.mem_append_right _ ?_, ?_⟩
    · rw [power, hexponent]
      exact List.mem_cons_self
    · rcases h.mark mark sign ds hexponent with rfl | rfl
      · rfl
      · rfl

/-- A double says itself without its fraction. -/
theorem sizeIn_write {d : Double} (h : d.magnitude < Double.infinite) :
    sizeIn (Json.floatNotation.write d) = wholeOf d := by
  have hmark : Json.floatNotation.mark.toList = ['e'] := rfl
  obtain ⟨l, hproper, hchars, -⟩ := Double.Layout.exists_layout _ hmark (.inl rfl) h
  have hdouble := Double.read?_write _ hmark (.inl rfl) h
  have hwritten := Double.write_finite Json.floatNotation h
  rw [hchars] at hwritten
  have htrim : Text.trim (Json.floatNotation.write d).toList = (Json.floatNotation.write d).toList := by
    refine trim_eq fun c hc => ?_
    rw [hwritten, List.mem_append] at hc
    rcases hc with hc | hc
    · split at hc
      · cases List.mem_singleton.1 hc
        decide
      · cases hc
    · obtain ⟨hlo, hhi⟩ := Double.Layout.bounds_of_mem_chars hproper hc
      exact isBlank_eq_false hlo hhi
  have hinteger : IntegerKind.int64.read? (Json.floatNotation.write d).toList = none := by
    obtain ⟨c, hc, hother⟩ := Double.Layout.exists_not_digit hproper
    obtain ⟨first, more, hwhole⟩ := List.exists_cons_of_ne_nil hproper.ne_nil
    rw [hwritten]
    split
    · exact read?_eq_none _ (List.mem_append_right l.whole hc) hother
    · rw [List.nil_append, Double.Layout.chars, hwhole]
      exact read?_eq_none _ (List.mem_append_right more hc) hother
  rw [← htrim] at hinteger hdouble
  exact sizeIn_of_double hinteger hdouble

/-! ### Scalars -/

/-- **The text of a scalar says its size.** -/
theorem size?_eq {j : Json} (hj : j.Regular) {s : String} (h : j.scalarText? = some s) :
    j.size?.getD 0 = sizeIn s := by
  cases hj with
  | null | list | record => cases h
  | text t =>
    cases h
    rfl
  | bool b =>
    cases h
    cases b <;> decide
  | @integer i hi =>
    cases h
    obtain ⟨hlo, hhi⟩ := Bool.and_eq_true_iff.1 hi
    unfold Json.size?
    dsimp only [Option.getD_some]
    split
    · next hsmall => exact (sizeIn_toString (of_decide_eq_true hlo) hsmall).symm
    · next hlarge =>
      exact (sizeIn_toString_large (Int.not_le.1 hlarge) (of_decide_eq_true hhi)).symm
  | double hd =>
    cases h
    exact (sizeIn_write hd).symm

end Watchpost
