import Watchpost.Double.Notation
import Watchpost.Double.Reading
import Watchpost.Proofs.Double.Shortest

/-! Written doubles read as themselves.

Whatever the notation, a finite double is written as digits around a point with an exponent
behind (`Layout`). The decimal that these spell has the value of the shortest one, so it is read
as the double (`read?_write`). -/
namespace Watchpost

/-! ### Digits -/

theorem appendDigits_eq (n : Nat) (cs : List Char) : appendDigits n cs = Nat.ofDigitChars 10 cs n := by
  rw [Nat.ofDigitChars_eq_foldl]
  rfl

theorem appendDigits_append (n : Nat) (cs ds : List Char) :
    appendDigits n (cs ++ ds) = appendDigits (appendDigits n cs) ds := List.foldl_append

theorem appendDigits_digitsOf (n : Nat) : appendDigits 0 (Decimal.digitsOf n) = n := by
  rw [appendDigits_eq]
  exact Nat.ofDigitChars_ten_toDigits

theorem appendDigits_zeros (n k : Nat) :
    appendDigits n (FloatNotation.zeros k) = n * tenTo k := by
  rw [appendDigits_eq, FloatNotation.zeros, Nat.ofDigitChars_replicate_zero, Nat.mul_comm]
  rfl

theorem isDigit_eq (c : Char) : isDigit c = c.isDigit := rfl

theorem isDigit_of_mem_digitsOf {n : Nat} {c : Char} (h : c ∈ Decimal.digitsOf n) :
    isDigit c = true := by
  have hdigit := Nat.isDigit_of_mem_toDigits (by decide) (by decide) h
  rw [isDigit_eq]
  exact hdigit

theorem isDigit_of_mem_zeros {k : Nat} {c : Char} (h : c ∈ FloatNotation.zeros k) :
    isDigit c = true := by
  rw [List.eq_of_mem_replicate h]
  rfl

/-- A run ends where something else begins. -/
theorem takeWhile_run {p : Char → Bool} {cs rest : List Char} (h : ∀ c ∈ cs, p c = true)
    (hstop : rest.head?.any p = false) :
    (cs ++ rest).takeWhile p = cs ∧ (cs ++ rest).dropWhile p = rest := by
  induction cs with
  | nil =>
    cases rest with
    | nil => exact ⟨rfl, rfl⟩
    | cons c rest =>
      have hc : p c = false := hstop
      rw [List.nil_append, List.takeWhile_cons, List.dropWhile_cons, hc]
      exact ⟨rfl, rfl⟩
  | cons c cs ih =>
    obtain ⟨htake, hdrop⟩ := ih fun d hd => h d (List.mem_cons_of_mem c hd)
    have hc := h c (List.mem_cons_self ..)
    rw [List.cons_append, List.takeWhile_cons, List.dropWhile_cons, hc, if_pos rfl, if_pos rfl,
      htake, hdrop]
    exact ⟨rfl, rfl⟩

namespace Double

/-! ### Layouts -/

/-- How a number is laid out: digits, perhaps a point with more digits, perhaps a mark with a
sign and the digits of an exponent. -/
structure Layout where
  whole : List Char
  fraction : Option (List Char)
  exponent : Option (Char × List Char × List Char)

namespace Layout

def tail (l : Layout) : List Char :=
  match l.fraction with
  | some ds => '.' :: ds
  | none => []

def power (l : Layout) : List Char :=
  match l.exponent with
  | some (mark, sign, ds) => mark :: (sign ++ ds)
  | none => []

def chars (l : Layout) : List Char := l.whole ++ (l.tail ++ l.power)

/-- The number that an exponent spells. -/
def powerValue (l : Layout) : Int :=
  match l.exponent with
  | some (_, sign, ds) => if sign = ['-'] then -appendDigits 0 ds else appendDigits 0 ds
  | none => 0

/-- The decimal that is spelled. -/
def decimal (l : Layout) : Decimal :=
  ⟨appendDigits (appendDigits 0 l.whole) (l.fraction.getD []),
    l.powerValue - (l.fraction.getD []).length⟩

/-- Digits are where digits should be, and there is a point or a mark. -/
structure Proper (l : Layout) : Prop where
  ne_nil : l.whole ≠ []
  whole : ∀ c ∈ l.whole, isDigit c = true
  fraction : ∀ ds, l.fraction = some ds → ∀ c ∈ ds, isDigit c = true
  mark : ∀ mark sign ds, l.exponent = some (mark, sign, ds) → mark = 'e' ∨ mark = 'E'
  sign : ∀ mark sign ds, l.exponent = some (mark, sign, ds) →
    sign = [] ∨ sign = ['-'] ∨ sign = ['+']
  exponent : ∀ mark sign ds, l.exponent = some (mark, sign, ds) →
    ds ≠ [] ∧ ∀ c ∈ ds, isDigit c = true
  float : l.fraction ≠ none ∨ l.exponent ≠ none

/-! ### Reading a layout -/

theorem splitSign_digits {cs : List Char} (hne : cs ≠ []) (h : ∀ c ∈ cs, isDigit c = true) :
    splitSign cs = (false, cs) := by
  unfold splitSign
  split
  · have := h '-' (List.mem_cons_self ..)
    cases this
  · have := h '+' (List.mem_cons_self ..)
    cases this
  · rfl

theorem readExponent_power {l : Layout} (h : l.Proper) : readExponent l.power = some l.powerValue := by
  unfold power powerValue
  split
  · next mark sign ds hexponent =>
    obtain ⟨hne, hdigits⟩ := h.exponent mark sign ds hexponent
    have hempty : ds.isEmpty = false := List.isEmpty_eq_false_iff.2 hne
    have hall : ds.all isDigit = true := List.all_eq_true.2 hdigits
    rw [readExponent, if_pos (h.mark mark sign ds hexponent)]
    rcases h.sign mark sign ds hexponent with rfl | rfl | rfl
    · rw [List.nil_append, splitSign_digits hne hdigits]
      simp [hempty, hall]
    · simp [splitSign, hempty, hall]
    · simp [splitSign, hempty, hall]
  · rfl

theorem head_power {l : Layout} (h : l.Proper) : l.power.head?.any isDigit = false := by
  unfold power
  split
  · next mark sign ds hexponent =>
    rcases h.mark mark sign ds hexponent with rfl | rfl
    · rfl
    · rfl
  · rfl

theorem head_tail_power {l : Layout} (h : l.Proper) :
    (l.tail ++ l.power).head?.any isDigit = false := by
  unfold tail
  split
  · rfl
  · rw [List.nil_append]
    exact head_power h

/-- The fraction that follows the first digits, and the rest. -/
def splitFraction (cs : List Char) : List Char × List Char :=
  match cs with
  | '.' :: rest => (rest.takeWhile isDigit, rest.dropWhile isDigit)
  | _ => ([], cs)

theorem readDecimal_eq (cs : List Char) : readDecimal cs =
    if (cs.takeWhile isDigit).isEmpty && (splitFraction (cs.dropWhile isDigit)).1.isEmpty then none
    else (readExponent (splitFraction (cs.dropWhile isDigit)).2).map fun exponent =>
      ⟨appendDigits (appendDigits 0 (cs.takeWhile isDigit))
        (splitFraction (cs.dropWhile isDigit)).1,
        exponent - (splitFraction (cs.dropWhile isDigit)).1.length⟩ := rfl

theorem splitFraction_tail {l : Layout} (h : l.Proper) :
    splitFraction (l.tail ++ l.power) = (l.fraction.getD [], l.power) := by
  unfold tail
  cases hfraction : l.fraction with
  | none =>
    rw [List.nil_append]
    unfold splitFraction
    split
    · next rest hpower =>
      unfold power at hpower
      split at hpower
      · next mark sign ds hexponent =>
        cases hpower
        rcases h.mark _ sign ds hexponent with hmark | hmark
        · exact absurd hmark (by decide)
        · exact absurd hmark (by decide)
      · cases hpower
    · rfl
  | some ds =>
    obtain ⟨htake, hdrop⟩ := takeWhile_run (h.fraction ds hfraction) (head_power h)
    show ((ds ++ l.power).takeWhile isDigit, (ds ++ l.power).dropWhile isDigit) = (ds, l.power)
    rw [htake, hdrop]

/-- **What is laid out is read.** -/
theorem readDecimal_chars {l : Layout} (h : l.Proper) : readDecimal l.chars = some l.decimal := by
  obtain ⟨htake, hdrop⟩ := takeWhile_run h.whole (head_tail_power h)
  have hne : l.whole.isEmpty = false := List.isEmpty_eq_false_iff.2 h.ne_nil
  rw [readDecimal_eq, chars, htake, hdrop, splitFraction_tail h, hne, Bool.false_and,
    if_neg Bool.false_ne_true, readExponent_power h]
  rfl

/-- What is read is rounded. -/
theorem readMagnitude_chars {l : Layout} (h : l.Proper) :
    readMagnitude l.chars = some l.decimal.toMagnitude := by
  unfold readMagnitude
  rw [readDecimal_chars h]

/-! ### Layouts of magnitudes -/

theorem proper_plain {whole fraction : List Char} (hne : whole ≠ [])
    (hwhole : ∀ c ∈ whole, isDigit c = true) (hfraction : ∀ c ∈ fraction, isDigit c = true) :
    Proper ⟨whole, some fraction, none⟩ where
  ne_nil := hne
  whole := hwhole
  fraction ds h := by
    cases h
    exact hfraction
  mark _ _ _ h := by cases h
  sign _ _ _ h := by cases h
  exponent _ _ _ h := by cases h
  float := .inl fun h => by cases h

section
variable {m : Nat} {digits : List Char} {exponent : Int}

theorem isDigit_of_mem_lone {c : Char} (h : c ∈ ['0']) : isDigit c = true := by
  rw [List.mem_singleton.1 h]
  rfl

theorem appendDigits_lone (n : Nat) : appendDigits n ['0'] = n * tenTo 1 := appendDigits_zeros n 1

/-- Zeros reach from the digits to the point. -/
theorem exists_layout_behind (hne : digits ≠ []) (hdigits : ∀ c ∈ digits, isDigit c = true)
    (h : Decimal.Reads m ⟨appendDigits 0 digits, exponent⟩) (hexponent : 0 ≤ exponent) :
    ∃ l : Layout, l.Proper ∧
      digits ++ FloatNotation.zeros exponent.toNat ++ ['.', '0'] = l.chars ∧
        Decimal.Reads m l.decimal := by
  refine ⟨⟨digits ++ FloatNotation.zeros exponent.toNat, some ['0'], none⟩,
    proper_plain (List.append_ne_nil_of_left_ne_nil hne _) ?_ (fun _ => isDigit_of_mem_lone), ?_, ?_⟩
  · intro c hc
    rcases List.mem_append.1 hc with hc | hc
    · exact hdigits c hc
    · exact isDigit_of_mem_zeros hc
  · simp [chars, tail, power]
  · have hshift := h.shift (exponent.toNat + 1)
    have hplace : exponent - (exponent.toNat + 1 : Nat) = 0 - 1 := by omega
    rw [hplace, Decimal.tenTo_add, ← Nat.mul_assoc, ← appendDigits_lone, ← appendDigits_zeros,
      ← appendDigits_append 0 digits] at hshift
    exact hshift

/-- The point stands within the digits. -/
theorem exists_layout_within (hdigits : ∀ c ∈ digits, isDigit c = true)
    (h : Decimal.Reads m ⟨appendDigits 0 digits, exponent⟩) (hexponent : ¬0 ≤ exponent)
    (hwithin : (-exponent).toNat < digits.length) :
    ∃ l : Layout, l.Proper ∧
      digits.take (digits.length - (-exponent).toNat) ++
        '.' :: digits.drop (digits.length - (-exponent).toNat) = l.chars ∧
        Decimal.Reads m l.decimal := by
  refine ⟨⟨digits.take (digits.length - (-exponent).toNat),
    some (digits.drop (digits.length - (-exponent).toNat)), none⟩,
    proper_plain ?_ (fun c hc => hdigits c (List.mem_of_mem_take hc))
      (fun c hc => hdigits c (List.mem_of_mem_drop hc)), ?_, ?_⟩
  · refine List.ne_nil_of_length_pos ?_
    rw [List.length_take]
    omega
  · simp [chars, tail, power]
  · have hplace : (0 : Int) - (digits.drop (digits.length - (-exponent).toNat)).length =
        exponent := by
      rw [List.length_drop]
      omega
    rw [decimal, powerValue]
    dsimp only [Option.getD_some]
    rw [hplace, ← appendDigits_append, List.take_append_drop]
    exact h

/-- Zeros reach from the point to the digits. -/
theorem exists_layout_before (hdigits : ∀ c ∈ digits, isDigit c = true)
    (h : Decimal.Reads m ⟨appendDigits 0 digits, exponent⟩) (hexponent : ¬0 ≤ exponent)
    (hbefore : ¬(-exponent).toNat < digits.length) :
    ∃ l : Layout, l.Proper ∧
      '0' :: '.' :: (FloatNotation.zeros ((-exponent).toNat - digits.length) ++ digits) = l.chars ∧
        Decimal.Reads m l.decimal := by
  refine ⟨⟨['0'], some (FloatNotation.zeros ((-exponent).toNat - digits.length) ++ digits), none⟩,
    proper_plain (List.cons_ne_nil _ _) (fun _ => isDigit_of_mem_lone) ?_, ?_, ?_⟩
  · intro c hc
    rcases List.mem_append.1 hc with hc | hc
    · exact isDigit_of_mem_zeros hc
    · exact hdigits c hc
  · simp [chars, tail, power]
  · have hplace : (0 : Int) -
        (FloatNotation.zeros ((-exponent).toNat - digits.length) ++ digits).length = exponent := by
      rw [List.length_append, FloatNotation.zeros, List.length_replicate]
      omega
    rw [decimal, powerValue]
    dsimp only [Option.getD_some]
    rw [hplace, appendDigits_append, appendDigits_lone, Nat.zero_mul, appendDigits_zeros,
      Nat.zero_mul]
    exact h

/-- A point behind the digits, within them or before them. -/
theorem exists_layout_plain (hne : digits ≠ []) (hdigits : ∀ c ∈ digits, isDigit c = true)
    (h : Decimal.Reads m ⟨appendDigits 0 digits, exponent⟩) :
    ∃ l : Layout, l.Proper ∧ FloatNotation.plain digits exponent = l.chars ∧
      Decimal.Reads m l.decimal := by
  unfold FloatNotation.plain
  by_cases hexponent : 0 ≤ exponent
  · rw [if_pos hexponent]
    exact exists_layout_behind hne hdigits h hexponent
  · rw [if_neg hexponent]
    dsimp only
    by_cases hwithin : (-exponent).toNat < digits.length
    · rw [if_pos hwithin]
      exact exists_layout_within hdigits h hexponent hwithin
    · rw [if_neg hwithin]
      exact exists_layout_before hdigits h hexponent hwithin

end

theorem proper_scientific {whole : List Char} {fraction : Option (List Char)} {mark : Char}
    {sign : List Char} (k : Nat) (hne : whole ≠ []) (hwhole : ∀ c ∈ whole, isDigit c = true)
    (hfraction : ∀ ds, fraction = some ds → ∀ c ∈ ds, isDigit c = true)
    (hmark : mark = 'e' ∨ mark = 'E') (hsign : sign = [] ∨ sign = ['-'] ∨ sign = ['+']) :
    Proper ⟨whole, fraction, some (mark, sign, Decimal.digitsOf k)⟩ where
  ne_nil := hne
  whole := hwhole
  fraction := hfraction
  mark _ _ _ h := by
    cases h
    exact hmark
  sign _ _ _ h := by
    cases h
    exact hsign
  exponent _ _ _ h := by
    cases h
    exact ⟨Nat.toDigits_ne_nil, fun c hc => isDigit_of_mem_digitsOf hc⟩
  float := .inr fun h => by cases h

/-- The sign of an exponent. -/
def signOf (n : FloatNotation) (leading : Int) : List Char :=
  if leading < 0 then ['-'] else if n.plus then ['+'] else []

theorem signOf_eq (n : FloatNotation) (leading : Int) :
    signOf n leading = [] ∨ signOf n leading = ['-'] ∨ signOf n leading = ['+'] := by
  unfold signOf
  split
  · exact .inr (.inl rfl)
  · split
    · exact .inr (.inr rfl)
    · exact .inl rfl

theorem powerValue_signOf (n : FloatNotation) (whole : List Char) (fraction : Option (List Char))
    (mark : Char) (leading : Int) :
    powerValue ⟨whole, fraction, some (mark, signOf n leading, Decimal.digitsOf leading.natAbs)⟩ =
      leading := by
  unfold powerValue
  dsimp only
  rw [appendDigits_digitsOf]
  unfold signOf
  by_cases hneg : leading < 0
  · rw [if_pos hneg, if_pos rfl]
    omega
  · rw [if_neg hneg]
    have hsign : (if n.plus = true then ['+'] else []) ≠ ['-'] := by
      split
      · decide
      · decide
    rw [if_neg hsign]
    omega

section
variable {m : Nat} {c : Char} {exponent : Int} {mark : Char}

/-- One digit with an exponent behind, and perhaps with a point and a zero between them. -/
theorem exists_layout_alone (n : FloatNotation) (hn : n.mark.toList = [mark])
    (hmark : mark = 'e' ∨ mark = 'E') (hdigit : isDigit c = true)
    (h : Decimal.Reads m ⟨appendDigits 0 [c], exponent⟩) :
    ∃ l : Layout, l.Proper ∧ n.scientific [c] exponent = l.chars ∧ Decimal.Reads m l.decimal := by
  have hwhole : ∀ b ∈ [c], isDigit b = true := fun b hb => List.mem_singleton.1 hb ▸ hdigit
  have hsign := signOf_eq n exponent
  cases hfraction : n.fraction with
  | true =>
    have hzero : ∀ ds, some ['0'] = some ds → ∀ b ∈ ds, isDigit b = true := by
      intro ds hds b hb
      cases hds
      exact isDigit_of_mem_lone hb
    refine ⟨⟨[c], some ['0'], some (mark, signOf n exponent, Decimal.digitsOf exponent.natAbs)⟩,
      proper_scientific _ (List.cons_ne_nil _ _) hwhole hzero hmark hsign, ?_, ?_⟩
    · simp [FloatNotation.scientific, hfraction, hn, chars, tail, power, signOf]
    · have hshift := h.shift 1
      rw [← appendDigits_lone] at hshift
      rw [decimal, powerValue_signOf]
      exact hshift
  | false =>
    refine ⟨⟨[c], none, some (mark, signOf n exponent, Decimal.digitsOf exponent.natAbs)⟩,
      proper_scientific _ (List.cons_ne_nil _ _) hwhole (fun _ h => by cases h) hmark hsign, ?_, ?_⟩
    · simp [FloatNotation.scientific, hfraction, hn, chars, tail, power, signOf]
    · have hplace : exponent - (0 : Nat) = exponent := Int.sub_zero _
      rw [decimal, powerValue_signOf]
      show Decimal.Reads m ⟨appendDigits 0 [c], exponent - (0 : Nat)⟩
      rw [hplace]
      exact h

/-- One digit before the point, and the exponent of that digit. -/
theorem exists_layout_scientific {digits : List Char} (n : FloatNotation)
    (hn : n.mark.toList = [mark]) (hmark : mark = 'e' ∨ mark = 'E') (hne : digits ≠ [])
    (hdigits : ∀ c ∈ digits, isDigit c = true)
    (h : Decimal.Reads m ⟨appendDigits 0 digits, exponent⟩) :
    ∃ l : Layout, l.Proper ∧ n.scientific digits (exponent + digits.length - 1) = l.chars ∧
      Decimal.Reads m l.decimal := by
  obtain ⟨c, rest, rfl⟩ := List.exists_cons_of_ne_nil hne
  have hfirst : isDigit c = true := hdigits c (List.mem_cons_self ..)
  cases rest with
  | nil =>
    have hleading : exponent + ([c] : List Char).length - 1 = exponent := by
      rw [List.length_singleton]
      omega
    rw [hleading]
    exact exists_layout_alone n hn hmark hfirst h
  | cons e rest =>
    have hwhole : ∀ b ∈ [c], isDigit b = true := fun b hb => List.mem_singleton.1 hb ▸ hfirst
    have hrest : ∀ ds, some (e :: rest) = some ds → ∀ b ∈ ds, isDigit b = true := by
      intro ds hds
      cases hds
      exact fun b hb => hdigits b (List.mem_cons_of_mem c hb)
    have hplace : exponent + (c :: e :: rest).length - 1 - (e :: rest).length = exponent := by
      rw [List.length_cons]
      omega
    generalize exponent + (c :: e :: rest).length - 1 = leading at hplace ⊢
    refine ⟨⟨[c], some (e :: rest), some (mark, signOf n leading, Decimal.digitsOf leading.natAbs)⟩,
      proper_scientific _ (List.cons_ne_nil _ _) hwhole hrest hmark (signOf_eq n leading), ?_, ?_⟩
    · simp [FloatNotation.scientific, hn, chars, tail, power, signOf]
    · rw [decimal, powerValue_signOf]
      show Decimal.Reads m ⟨appendDigits (appendDigits 0 [c]) (e :: rest),
        leading - (e :: rest).length⟩
      rw [hplace, ← appendDigits_append]
      exact h

end

/-- **A finite magnitude is laid out so that it is read as itself.** -/
theorem exists_layout {m : Nat} (n : FloatNotation) {mark : Char} (hn : n.mark.toList = [mark])
    (hmark : mark = 'e' ∨ mark = 'E') (hfinite : m < infinite) :
    ∃ l : Layout, l.Proper ∧ n.writeMagnitude m = l.chars ∧ l.decimal.toMagnitude = m := by
  unfold FloatNotation.writeMagnitude
  by_cases hzero : m = 0
  · subst hzero
    rw [if_pos rfl]
    exact ⟨⟨['0'], some ['0'], none⟩, proper_plain (List.cons_ne_nil _ _)
      (fun _ => isDigit_of_mem_lone) (fun _ => isDigit_of_mem_lone), rfl, by decide⟩
  · rw [if_neg hzero]
    have hpos : 0 < m := Nat.pos_of_ne_zero hzero
    have hreads := Decimal.reads_shortest n.tie hpos
    dsimp only
    generalize Decimal.shortest n.tie m = d at hreads ⊢
    have hdigits : ∀ c ∈ Decimal.digitsOf d.digits, isDigit c = true :=
      fun c hc => isDigit_of_mem_digitsOf hc
    have hne : Decimal.digitsOf d.digits ≠ [] := Nat.toDigits_ne_nil
    have hvalue : Decimal.Reads m ⟨appendDigits 0 (Decimal.digitsOf d.digits), d.exponent⟩ := by
      rw [appendDigits_digitsOf]
      exact hreads
    split
    · obtain ⟨l, hproper, hchars, hdecimal⟩ := exists_layout_plain hne hdigits hvalue
      exact ⟨l, hproper, hchars, Decimal.toMagnitude_eq hpos hfinite hdecimal⟩
    · obtain ⟨l, hproper, hchars, hdecimal⟩ :=
        exists_layout_scientific n hn hmark hne hdigits hvalue
      exact ⟨l, hproper, hchars, Decimal.toMagnitude_eq hpos hfinite hdecimal⟩

end Layout

/-! ### Reading what was written -/

theorem write_finite (n : FloatNotation) {d : Double} (hfinite : d.magnitude < infinite) :
    (n.write d).toList = (if d.negative then ['-'] else []) ++ n.writeMagnitude d.magnitude := by
  have hnan : d.isNaN = false := decide_eq_false (Nat.not_lt.2 (Nat.le_of_lt hfinite))
  have hinfinite : d.isInfinite = false := decide_eq_false (Nat.ne_of_lt hfinite)
  unfold FloatNotation.write
  rw [hnan, hinfinite, if_neg Bool.false_ne_true, if_neg Bool.false_ne_true, String.toList_ofList]

theorem splitSign_layout {l : Layout} (h : l.Proper) : splitSign l.chars = (false, l.chars) := by
  obtain ⟨c, rest, hwhole⟩ := List.exists_cons_of_ne_nil h.ne_nil
  have hdigit := h.whole c (hwhole ▸ List.mem_cons_self ..)
  unfold Layout.chars splitSign
  rw [hwhole]
  split
  · next heq =>
    cases heq
    cases hdigit
  · next heq =>
    cases heq
    cases hdigit
  · rfl

/-- **A finite double is read as it was written.** -/
theorem read?_write (n : FloatNotation) {mark : Char} (hn : n.mark.toList = [mark])
    (hmark : mark = 'e' ∨ mark = 'E') {d : Double} (hfinite : d.magnitude < infinite) :
    read? (n.write d).toList = some d := by
  obtain ⟨l, hproper, hchars, hvalue⟩ := Layout.exists_layout n hn hmark hfinite
  obtain ⟨negative, magnitude⟩ := d
  have hread := Layout.readMagnitude_chars hproper
  rw [write_finite n hfinite, hchars]
  unfold read?
  cases negative with
  | true =>
    rw [if_pos rfl]
    show (readMagnitude l.chars).map (fun magnitude => (⟨true, magnitude⟩ : Double)) = _
    rw [hread, hvalue]
    rfl
  | false =>
    rw [if_neg Bool.false_ne_true, List.nil_append, splitSign_layout hproper]
    dsimp only
    rw [hread, hvalue]
    rfl

end Double

end Watchpost
