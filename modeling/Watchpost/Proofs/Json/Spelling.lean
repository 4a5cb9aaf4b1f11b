import Watchpost.Json.Draft
import Watchpost.Proofs.Condition.Spelling

/-! How the tokens of JSON are spelled.

Signs, words, texts and integers are read from their own characters alone, if a border comes
behind them (`Cuts`). A text is read whatever its characters are: the escaped ones come back as
they were. -/
namespace Watchpost.Json

/-! ### Borders -/

/-- Characters that end any token before them. -/
def borders : List Char := [',', ']', '\x7d']

/-- What may stand behind a token: nothing, or what begins with a border. -/
def Bordered (rest : List (Option Char)) : Prop := ∀ c ∈ rest.head?, c ∈ borders.map some

theorem bordered_nil : Bordered [] := fun _ h => by cases h

theorem bordered_cons {c : Char} (h : c ∈ borders) (rest : List (Option Char)) :
    Bordered (some c :: rest) := by
  intro d hd
  cases hd
  exact List.mem_map_of_mem h

/-- What begins with a border goes on with no number. -/
theorem Bordered.cases {rest : List (Option Char)} (h : Bordered rest) :
    rest = [] ∨ ∃ c more, c ∈ borders ∧ rest = some c :: more := by
  cases rest with
  | nil => exact .inl rfl
  | cons d more =>
    obtain ⟨c, hc, rfl⟩ := List.mem_map.1 (h d rfl)
    exact .inr ⟨c, more, hc, rfl⟩

/-! ### Cutting -/

/-- Characters that are cut into tokens, if a border comes behind them. -/
def Cuts (cs : List Char) (ts : List Token) : Prop :=
  ∀ rest, Bordered rest → ∀ soFar,
    scan soFar 0 (cs.map some ++ rest) = scan (ts.reverse ++ soFar) 0 rest

open Watchpost.Token (signed toList_toString not_mem_of_any)

variable {cs ds : List Char} {ts us : List Token}

theorem cuts_nil : Cuts [] [] := fun _ _ _ => rfl

/-- What comes behind has to begin with a border. -/
theorem Cuts.append (h : Cuts cs ts) (hd : Cuts ds us)
    (hborder : ∀ rest, Bordered rest → Bordered (ds.map some ++ rest)) :
    Cuts (cs ++ ds) (ts ++ us) := by
  intro rest hrest soFar
  rw [List.map_append, List.append_assoc, h _ (hborder rest hrest), hd rest hrest,
    List.reverse_append, List.append_assoc]

theorem scan_skip (soFar : List Token) (more : List Char) (rest : List (Option Char)) :
    scan soFar more.length (more.map some ++ rest) = scan soFar 0 rest := by
  induction more with
  | nil => rfl
  | cons c more ih => exact ih

theorem scan_front {soFar : List Token} {c : Char} {more : List Char} {rest : List (Option Char)}
    {t : Token} (hspace : isSpace c = false)
    (h : front? c (more.map some ++ rest) = some (t, more.length)) :
    scan soFar 0 ((c :: more).map some ++ rest) = scan (t :: soFar) 0 rest := by
  rw [List.map_cons, List.cons_append, scan, hspace, if_neg Bool.false_ne_true, h]
  exact scan_skip ..

/-- A token that stands before anything needs no border behind it. -/
theorem Cuts.cons {c : Char} {t : Token} (hspace : isSpace c = false)
    (h : ∀ rest, front? c rest = some (t, 0)) (hcs : Cuts cs ts) : Cuts (c :: cs) (t :: ts) := by
  intro rest hrest soFar
  have hfirst : scan soFar 0 ([c].map some ++ (cs.map some ++ rest)) =
      scan (t :: soFar) 0 (cs.map some ++ rest) := scan_front hspace (h _)
  rw [List.map_cons, List.cons_append, List.reverse_cons, List.append_assoc]
  exact hfirst.trans (hcs rest hrest _)

/-! ### Words -/

theorem cuts_null : Cuts "null".toList [.leaf (some .null)] :=
  fun _ _ _ => scan_front (by decide) rfl

theorem cuts_bool (b : Bool) :
    Cuts (if b then "true" else "false").toList [.leaf (some (.bool b))] := by
  cases b with
  | true => exact fun _ _ _ => scan_front (by decide) rfl
  | false => exact fun _ _ _ => scan_front (by decide) rfl

/-! ### Texts -/

theorem push_of_whole {p : Phrase} (h : p.half = none) (c : Char) :
    p.push c = { p with chars := c :: p.chars } := by
  unfold Phrase.push
  rw [h]
  rfl

theorem pushUnit_of_whole {p : Phrase} (h : p.half = none) {n : Nat} (hn : n < 0x20) :
    p.pushUnit n = { p with chars := Char.ofNat n :: p.chars } := by
  unfold Phrase.pushUnit
  rw [h]
  dsimp only
  rw [if_neg (by omega), if_neg (by omega)]

/-- A control character is written with four digits. -/
theorem exists_hexDigits : ∀ n < 0x20, ∃ d₁ d₂ d₃ d₄, hexDigits n = [d₁, d₂, d₃, d₄] ∧
    unit? d₁ d₂ d₃ d₄ = some n := by
  intro n hn
  have hall : ∀ n : Fin 0x20, hexDigits n = ['0', '0', (hexDigits n).getD 2 '0',
      (hexDigits n).getD 3 '0'] ∧
      unit? '0' '0' ((hexDigits n).getD 2 '0') ((hexDigits n).getD 3 '0') = some n.val := by
    decide
  exact ⟨_, _, _, _, hall ⟨n, hn⟩⟩

theorem readText_plain {p : Phrase} {c : Char} (hquote : c ≠ '"') (hescape : c ≠ '\\')
    (hcontrol : ¬c.toNat < 0x20) (count : Nat) (rest : List (Option Char)) :
    readText p count (some c :: rest) = readText (p.push c) (count + 1) rest := by
  rw [readText.eq_def]
  dsimp only
  rw [if_neg hquote, if_neg hescape, if_neg hcontrol]

theorem readText_unit {d₁ d₂ d₃ d₄ : Char} {n : Nat} (h : unit? d₁ d₂ d₃ d₄ = some n)
    (p : Phrase) (count : Nat) (rest : List (Option Char)) :
    readText p count (['\\', 'u', d₁, d₂, d₃, d₄].map some ++ rest) =
      readText (p.pushUnit n) (count + 6) rest := by
  simp [readText, h]

/-- **An escaped character is read as it was.** -/
theorem readText_escape {p : Phrase} (h : p.half = none) (count : Nat) (c : Char)
    (rest : List (Option Char)) :
    readText p count ((escape c).map some ++ rest) =
      readText { p with chars := c :: p.chars } (count + (escape c).length) rest := by
  have hnat {n : Nat} (hn : c.toNat = n) : c = Char.ofNat n := by
    rw [← hn, Char.ofNat_toNat]
  rw [← push_of_whole h]
  unfold escape
  split
  · next hc => rw [hc]; rfl
  split
  · next hc => rw [hc]; rfl
  split
  · next hc => rw [hc]; rfl
  split
  · next hc => rw [hc]; rfl
  split
  · next hc => rw [hc]; rfl
  split
  · next hc => rw [hnat hc]; rfl
  split
  · next hc => rw [hnat hc]; rfl
  split
  · next hc =>
    obtain ⟨d₁, d₂, d₃, d₄, hdigits, hunit⟩ := exists_hexDigits c.toNat hc
    rw [hdigits, readText_unit hunit, pushUnit_of_whole h hc, Char.ofNat_toNat, push_of_whole h]
    rfl
  · next hquote hescape _ _ _ _ _ hcontrol => exact readText_plain hquote hescape hcontrol count rest

theorem readText_escaped {p : Phrase} (h : p.half = none) (count : Nat) (cs : List Char)
    (rest : List (Option Char)) :
    readText p count ((cs.flatMap escape ++ ['"']).map some ++ rest) =
      some ({ p with chars := cs.reverse ++ p.chars }.text,
        count + (cs.flatMap escape ++ ['"']).length) := by
  induction cs generalizing p count with
  | nil =>
    show readText p count (some '"' :: rest) = some (p.text, count + 1)
    rw [readText.eq_def]
    rfl
  | cons c cs ih =>
    have hwhole : ({ p with chars := c :: p.chars } : Phrase).half = none := h
    have hlength : (escape c ++ (cs.flatMap escape ++ ['"'])).length =
        (escape c).length + (cs.flatMap escape ++ ['"']).length := List.length_append
    rw [List.flatMap_cons, List.append_assoc, List.map_append, List.append_assoc,
      readText_escape h, ih hwhole, hlength, List.reverse_cons, List.append_assoc, Nat.add_assoc]
    rfl

/-- **A quoted text is one token**, whatever its characters are. -/
theorem scan_quote (s : String) (soFar : List Token) (rest : List (Option Char)) :
    scan soFar 0 ((quote s).toList.map some ++ rest) = scan (.text (some s) :: soFar) 0 rest := by
  have hread := readText_escaped (p := {}) rfl 0 s.toList rest
  have htext : ({ chars := s.toList.reverse ++ [] } : Phrase).text = some s := by
    simp [Phrase.text]
  have hquote : (quote s).toList = '"' :: (s.toList.flatMap escape ++ ['"']) := String.toList_ofList
  rw [htext, Nat.zero_add] at hread
  rw [hquote]
  refine scan_front (by decide) ?_
  show (readText {} 0 _).map _ = _
  rw [hread]
  rfl

theorem cuts_quote (s : String) : Cuts (quote s).toList [.text (some s)] :=
  fun _ _ soFar => scan_quote s soFar _

/-! ### Integers -/

theorem digits_run {ds : List Char} (h : ∀ c ∈ ds, isDigit c = true) {rest : List (Option Char)}
    (hrest : Bordered rest) : Numeral.digits (ds.map some ++ rest) = (ds, rest) := by
  induction ds with
  | nil =>
    rcases hrest.cases with rfl | ⟨c, more, hc, rfl⟩
    · rfl
    · have hborders : borders.any isDigit = false := by decide
      have hdigit : isDigit c = false := Bool.eq_false_iff.2 fun hd => not_mem_of_any hd hborders hc
      simp [Numeral.digits, hdigit]
  | cons c ds ih =>
    have hc := h c (List.mem_cons_self ..)
    have hds := ih fun d hd => h d (List.mem_cons_of_mem c hd)
    rw [List.map_cons, List.cons_append, Numeral.digits, if_pos hc, hds]

/-- The first digit of a number is zero only if it is the only one. -/
theorem digitsOf_lone {n : Nat} {rest : List Char} (h : Decimal.digitsOf n = '0' :: rest) :
    rest = [] := by
  induction n using Nat.strongRecOn generalizing rest with
  | ind n ih =>
    unfold Decimal.digitsOf at h
    rcases Nat.lt_or_ge n 10 with hlt | hge
    · rw [Nat.toDigits_of_lt_base hlt] at h
      exact (List.cons.inj h).2.symm
    · have hpos : 0 < n / 10 := Nat.div_pos hge (by decide)
      rw [Nat.toDigits_of_base_le (by decide) hge] at h
      obtain ⟨c, more, hhigh⟩ := List.exists_cons_of_ne_nil (Nat.toDigits_ne_nil (b := 10) (n := n / 10))
      rw [hhigh] at h
      obtain ⟨rfl, -⟩ := List.cons.inj h
      -- The digits before the last one would be a lone zero.
      have hmore := ih (n / 10) (Nat.div_lt_self (by omega) (by decide)) hhigh
      have hvalue := appendDigits_digitsOf (n / 10)
      rw [Decimal.digitsOf, hhigh, hmore] at hvalue
      have hzero : n / 10 = 0 := hvalue.symm
      omega

theorem readFraction_border {rest : List (Option Char)} (h : Bordered rest) :
    Numeral.readFraction rest = some (none, rest) := by
  rcases h.cases with rfl | ⟨c, more, hc, rfl⟩
  · rfl
  · simp only [borders, List.mem_cons, List.not_mem_nil, or_false] at hc
    rcases hc with rfl | rfl | rfl <;> rfl

theorem readExponent_border {rest : List (Option Char)} (h : Bordered rest) :
    Numeral.readExponent rest = some (none, rest) := by
  rcases h.cases with rfl | ⟨c, more, hc, rfl⟩
  · rfl
  · simp only [borders, List.mem_cons, List.not_mem_nil, or_false] at hc
    rcases hc with rfl | rfl | rfl <;> rfl

/-- The numeral that an integer is written as. -/
def integerNumeral (i : Int) : Numeral := ⟨i < 0, Decimal.digitsOf i.natAbs, none, none⟩

/-- Digits of which the first is no idle zero are read as a number, perhaps after a minus. -/
theorem read?_signed {negative : Bool} {ds : List Char} (hne : ds ≠ [])
    (hdigits : ∀ c ∈ ds, isDigit c = true) (hlone : ∀ more, ds = '0' :: more → more = [])
    {rest : List (Option Char)} (hrest : Bordered rest) :
    Numeral.read? ((signed negative ds).map some ++ rest) = some ⟨negative, ds, none, none⟩ := by
  obtain ⟨c, more, rfl⟩ := List.exists_cons_of_ne_nil hne
  unfold Numeral.read?
  split
  next sign cs hsign =>
  have hfront : (sign, cs) = (negative, (c :: more).map some ++ rest) := by
    cases negative with
    | true => exact hsign.symm
    | false =>
      have hsign : _ = (sign, cs) := hsign
      split at hsign
      · next hminus =>
        cases hminus
        cases hdigits '-' (List.mem_cons_self ..)
      · exact hsign.symm
  cases hfront
  rw [digits_run hdigits hrest]
  split
  · next heq => cases heq
  · next heq => cases hlone _ (congrArg Prod.fst heq)
  · next heq =>
    cases heq
    rw [readFraction_border hrest]
    dsimp only [Option.bind_some]
    rw [readExponent_border hrest]
    rfl

theorem read?_integer (i : Int) {rest : List (Option Char)} (hrest : Bordered rest) :
    Numeral.read? ((toString i).toList.map some ++ rest) = some (integerNumeral i) := by
  rw [toList_toString]
  exact read?_signed Nat.toDigits_ne_nil (fun c hc => isDigit_of_mem_digitsOf hc)
    (fun _ => digitsOf_lone) hrest

theorem le_appendDigits (n : Nat) (ds : List Char) : n ≤ appendDigits n ds := by
  induction ds generalizing n with
  | nil => exact Nat.le_refl n
  | cons c ds ih =>
    refine Nat.le_trans ?_ (ih (10 * n + digitValue c))
    omega

theorem accumulate_eq {bound n : Nat} {ds : List Char} (h : appendDigits n ds < bound) :
    Numeral.accumulate bound n ds = (appendDigits n ds, []) := by
  induction ds generalizing n with
  | nil => rfl
  | cons c ds ih =>
    have hnext : 10 * n + digitValue c < bound := Nat.lt_of_le_of_lt (le_appendDigits _ ds) h
    rw [Numeral.accumulate, if_pos hnext]
    exact ih h

/-- An integer that fits 64 bits with or without a sign is what its numeral says. -/
theorem value?_integer {i : Int} (h : IntegerKind.any64.holds i = true) :
    (integerNumeral i).value? = some (.integer i) := by
  have hvalue := appendDigits_digitsOf i.natAbs
  have hbounds : IntegerKind.any64.lo ≤ i ∧ i ≤ IntegerKind.any64.hi := by
    simpa [IntegerKind.holds] using h
  have hlo : IntegerKind.any64.lo = -0x8000000000000000 := rfl
  have hhi : IntegerKind.any64.hi = 0xFFFFFFFFFFFFFFFF := rfl
  have hall : Numeral.accumulate 0x10000000000000000 0 (Decimal.digitsOf i.natAbs) =
      (i.natAbs, []) := by
    rw [accumulate_eq (by rw [hvalue]; omega), hvalue]
  unfold Numeral.value? integerNumeral
  simp only [Option.isSome_none, Bool.or_self, Bool.false_eq_true, if_false, hall]
  by_cases hneg : i < 0
  · have hpart : ¬(i.natAbs = 0 ∨ 0x8000000000000000 < i.natAbs) := by omega
    have habs : -(i.natAbs : Int) = i := by omega
    rw [decide_eq_true hneg, if_neg (by decide), if_neg hpart, habs]
  · have habs : (i.natAbs : Int) = i := by omega
    rw [decide_eq_false hneg, if_pos (by decide), habs]

/-- The signs and words of JSON do not begin as a number does. -/
theorem front?_numeral {c : Char} (h : isDigit c = true ∨ c = '-') (rest : List (Option Char)) :
    front? c rest = (Numeral.read? (some c :: rest)).map fun n => (.leaf n.value?, n.width - 1) := by
  unfold front?
  split
  all_goals first | rfl | exact absurd h (by decide)

theorem cuts_integer {i : Int} (h : IntegerKind.any64.holds i = true) :
    Cuts (toString i).toList [.leaf (some (.integer i))] := by
  intro rest hrest soFar
  have hread := read?_integer i hrest
  have hwidth : (integerNumeral i).width = (toString i).toList.length := by
    rw [toList_toString]
    unfold Numeral.width integerNumeral signed
    cases decide (i < 0) <;> simp [Nat.add_comm]
  have hfirst : ∃ c more, (toString i).toList = c :: more ∧ (isDigit c = true ∨ c = '-') := by
    rw [toList_toString]
    obtain ⟨c, more, hdigits⟩ := List.exists_cons_of_ne_nil (Nat.toDigits_ne_nil (b := 10) (n := i.natAbs))
    unfold signed Decimal.digitsOf
    cases decide (i < 0) with
    | true => exact ⟨'-', _, rfl, .inr rfl⟩
    | false =>
      refine ⟨c, more, hdigits, .inl (isDigit_of_mem_digitsOf (n := i.natAbs) ?_)⟩
      rw [Decimal.digitsOf, hdigits]
      exact List.mem_cons_self ..
  obtain ⟨c, more, hcs, hc⟩ := hfirst
  have hspace : isSpace c = false := by
    rcases hc with hc | rfl
    · exact Bool.eq_false_iff.2 fun hs => by
        simp only [isSpace, Bool.or_eq_true, beq_iff_eq] at hs
        rcases hs with ((rfl | rfl) | rfl) | rfl <;> cases hc
    · decide
  rw [hcs] at hread hwidth ⊢
  refine scan_front hspace ?_
  rw [front?_numeral hc]
  have hread' : Numeral.read? (some c :: (more.map some ++ rest)) = some (integerNumeral i) := hread
  rw [hread', Option.map_some, value?_integer h, hwidth]
  rfl

end Watchpost.Json
