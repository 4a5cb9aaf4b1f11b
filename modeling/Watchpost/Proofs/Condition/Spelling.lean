import Watchpost.Condition.Basic
import Watchpost.Condition.Token
import Watchpost.Proofs.Double.Writing

/-! How tokens are spelled.

A token is read from its own characters alone, whatever comes behind them, if only that begins
with a border (`Spelt`). Names, texts, integers and finite doubles are spelled so, and signs. -/
namespace Watchpost.Token

/-! ### Borders -/

/-- Characters that end any token before them. -/
def borders : List Char := [' ', ')', ',']

/-- What may stand behind a token: nothing, or what begins with a border. -/
def Bordered (rest : List Char) : Prop := ∀ c ∈ rest.head?, c ∈ borders

theorem bordered_nil : Bordered [] := fun _ h => by cases h

theorem bordered_cons {c : Char} (h : c ∈ borders) (rest : List Char) : Bordered (c :: rest) := by
  intro d hd
  cases hd
  exact h

theorem not_mem_of_any {p : Char → Bool} {c : Char} {cs : List Char} (h : p c = true)
    (hcs : cs.any p = false) : c ∉ cs := by
  intro hc
  rw [List.any_eq_true.2 ⟨c, hc, h⟩] at hcs
  cases hcs

theorem Bordered.eq_false {p : Char → Bool} {c : Char} {rest : List Char}
    (h : Bordered (c :: rest)) (hp : borders.any p = false) : p c = false :=
  Bool.eq_false_iff.2 fun hc => not_mem_of_any hc hp (h c rfl)

theorem Bordered.any {p : Char → Bool} {rest : List Char} (h : Bordered rest)
    (hp : borders.any p = false) : rest.head?.any p = false := by
  cases rest with
  | nil => rfl
  | cons c rest => exact h.eq_false hp

theorem Bordered.head?_ne {c : Char} {rest : List Char} (h : Bordered rest) (hc : c ∉ borders) :
    c ∉ rest.head? := fun hmem => hc (h c hmem)

theorem Bordered.ne {c d : Char} {rest : List Char} (h : Bordered (c :: rest)) (hd : d ∉ borders) :
    c ≠ d := fun heq => hd (heq ▸ h c rfl)

/-! ### Scanning a token -/

/-- How many bytes characters take. -/
def width (cs : List Char) : Nat := (cs.map Char.utf8Size).sum

/-- Characters that are read as one token of a kind. -/
def Spelt (kind : Kind) (cs : List Char) : Prop :=
  ∃ c more, cs = c :: more ∧ isSpace c = false ∧
    ∀ rest, Bordered rest → front c (more ++ rest) = .ok (kind, more.length)

/-- Faults need not be told apart to say which tokens a text has. -/
theorem tokens_eq_ok_of_toOption {text : String} {ts : List Token}
    (h : (tokens text).toOption = some ts) : tokens text = .ok ts := by
  cases hread : tokens text with
  | error e =>
    rw [hread] at h
    cases h
  | ok us =>
    rw [hread] at h
    exact congrArg _ (Option.some.inj h)

theorem scan_skip (soFar : List Token) (offset : Nat) (more rest : List Char) :
    scan soFar offset more.length (more ++ rest) = scan soFar (offset + width more) 0 rest := by
  induction more generalizing offset with
  | nil => rfl
  | cons c more ih =>
    rw [List.length_cons, List.cons_append, scan, ih, Nat.add_assoc]
    rfl

theorem scan_front {soFar : List Token} {offset : Nat} {kind : Kind} {c : Char}
    {more rest : List Char} (hspace : isSpace c = false)
    (h : front c (more ++ rest) = .ok (kind, more.length)) :
    scan soFar offset 0 (c :: (more ++ rest)) =
      scan (⟨kind, offset, c :: more⟩ :: soFar) (offset + width (c :: more)) 0 rest := by
  have hwidth : offset + width (c :: more) = offset + c.utf8Size + width more :=
    (Nat.add_assoc offset c.utf8Size (width more)).symm
  have htake : (more ++ rest).take more.length = more := List.take_left
  rw [scan, hspace, if_neg Bool.false_ne_true, h]
  dsimp only
  rw [htake, scan_skip, hwidth]

/-- **A token that is spelled out is read.** -/
theorem scan_spelt {soFar : List Token} {offset : Nat} {kind : Kind} {cs rest : List Char}
    (h : Spelt kind cs) (hrest : Bordered rest) :
    scan soFar offset 0 (cs ++ rest) =
      scan (⟨kind, offset, cs⟩ :: soFar) (offset + width cs) 0 rest := by
  obtain ⟨c, more, rfl, hspace, hfront⟩ := h
  exact scan_front hspace (hfront rest hrest)

theorem scan_space (soFar : List Token) (offset : Nat) (rest : List Char) :
    scan soFar offset 0 (' ' :: rest) = scan soFar (offset + 1) 0 rest := by
  rw [scan, if_pos (by decide)]
  rfl

/-! ### Fronts -/

def blanks : List Char := [' ', '\t', '\n', '\x0c', '\r']

theorem isSpace_iff {c : Char} : isSpace c = true ↔ c ∈ blanks := by
  simp [isSpace, blanks, or_assoc]

/-- What never holds of a blank tells that a character is none. -/
theorem isSpace_eq_false {p : Char → Bool} {c : Char} (h : p c = true)
    (hblanks : blanks.any p = false) : isSpace c = false :=
  Bool.eq_false_iff.2 fun hc => not_mem_of_any h hblanks (isSpace_iff.1 hc)

/-- Characters that begin tokens other than names and unsigned numbers. -/
def signs : List Char :=
  ['(', ')', ',', '*', ';', '=', '!', '<', '>', '\'', '"', '\x60', '.', '-']

theorem front_plain {c : Char} (h : c ∉ signs) (rest : List Char) : front c rest =
    if isDigit c then number (c :: rest)
    else if beginsName c then name c rest
    else .error (0, .unexpectedCharacter c) := by
  unfold front
  split
  all_goals first | rfl | exact absurd (by decide) h

theorem front_digit {c : Char} (h : isDigit c = true) (rest : List Char) :
    front c rest = number (c :: rest) := by
  rw [front_plain (not_mem_of_any h (by decide)), if_pos h]

/-! ### Signs -/

theorem spelt_closing : Spelt .closing [')'] :=
  ⟨')', [], rfl, by decide, fun _ _ => rfl⟩

theorem spelt_comma : Spelt .comma [','] :=
  ⟨',', [], rfl, by decide, fun _ _ => rfl⟩

/-- What begins with a parenthesis needs no border behind it. -/
theorem scan_opening (soFar : List Token) (offset : Nat) (rest : List Char) :
    scan soFar offset 0 ('(' :: rest) =
      scan (⟨.opening, offset, ['(']⟩ :: soFar) (offset + 1) 0 rest := by
  have hfront : front '(' ([] ++ rest) = .ok (.opening, ([] : List Char).length) := rfl
  exact scan_front (by decide) hfront

/-- The token of a comparison. -/
def comparisonKind : Comparison → Kind
  | .eq => .eq
  | .ne => .ne
  | .gt => .gt
  | .ge => .ge
  | .lt => .lt
  | .le => .le

theorem spelt_comparison (c : Comparison) : Spelt (comparisonKind c) c.render.toList := by
  cases c with
  | eq => exact ⟨'=', [], rfl, by decide, fun _ _ => rfl⟩
  | ne => exact ⟨'!', ['='], rfl, by decide, fun _ _ => rfl⟩
  | ge => exact ⟨'>', ['='], rfl, by decide, fun _ _ => rfl⟩
  | le => exact ⟨'<', ['='], rfl, by decide, fun _ _ => rfl⟩
  | gt =>
    refine ⟨'>', [], rfl, by decide, fun rest hrest => ?_⟩
    cases rest with
    | nil => rfl
    | cons d after =>
      have heq : d ≠ '=' := hrest.ne (by decide)
      simp [front, heq, comparisonKind]
  | lt =>
    refine ⟨'<', [], rfl, by decide, fun rest hrest => ?_⟩
    cases rest with
    | nil => rfl
    | cons d after =>
      have heq : d ≠ '=' := hrest.ne (by decide)
      have hgt : d ≠ '>' := hrest.ne (by decide)
      simp [front, heq, hgt, comparisonKind]

/-! ### Names -/

/-- Whether a text can be written as a name without quotes. -/
def isPlain (text : String) : Bool :=
  match text.toList with
  | [] => false
  | c :: more => beginsName c && more.all continuesName

theorem isDigit_bound {c : Char} (h : isDigit c = true) : 48 ≤ c.toNat ∧ c.toNat ≤ 57 := by
  simp only [isDigit, Bool.and_eq_true, decide_eq_true_eq, Char.le_def,
    UInt32.le_iff_toNat_le] at h
  exact h

theorem isAsciiLetter_bound {c : Char} (h : Text.isAsciiLetter c = true) : 65 ≤ c.toNat := by
  simp only [Text.isAsciiLetter, Bool.or_eq_true, Bool.and_eq_true, decide_eq_true_eq, Char.le_def,
    UInt32.le_iff_toNat_le] at h
  rcases h with ⟨h, -⟩ | ⟨h, -⟩
  · exact Nat.le_trans (by decide) h
  · exact h

theorem beginsName_of_isDigit {c : Char} (h : isDigit c = true) : beginsName c = false := by
  obtain ⟨hlo, hhi⟩ := isDigit_bound h
  have hletter : Text.isAsciiLetter c = false := by
    by_contra hletter
    have := isAsciiLetter_bound ((Bool.not_eq_false _).mp hletter)
    omega
  have hmark : (c == '_') = false := by
    rw [beq_eq_false_iff_ne]
    rintro rfl
    exact absurd hhi (by decide)
  have hascii : c.toNat < 128 := by omega
  rw [beginsName, hmark, Bool.false_or, Text.isAlphabetic, if_pos hascii, hletter]

theorem front_name {c : Char} (h : beginsName c = true) (rest : List Char) :
    front c rest = name c rest := by
  have hdigit : isDigit c = false := by
    by_contra hdigit
    rw [beginsName_of_isDigit ((Bool.not_eq_false _).mp hdigit)] at h
    cases h
  rw [front_plain (not_mem_of_any h (by decide)), hdigit, if_neg Bool.false_ne_true, if_pos h]

theorem spelt_name {text : String} (h : isPlain text = true) : Spelt (.name text) text.toList := by
  unfold isPlain at h
  split at h
  · cases h
  · next c more htext =>
    obtain ⟨hfirst, hmore⟩ := (Bool.and_eq_true _ _).mp h
    refine ⟨c, more, htext, isSpace_eq_false hfirst (by decide), fun rest hrest => ?_⟩
    obtain ⟨htake, -⟩ := takeWhile_run (List.all_eq_true.1 hmore)
      (hrest.any (p := continuesName) (by decide))
    rw [front_name hfirst, name, htake, ← htext, String.ofList_toList]

/-! ### Quotes -/

/-- What stands between quotes: a quote in it is written twice. -/
def doubled (quote : Char) (body : List Char) : List Char :=
  body.flatMap fun c => if c = quote then [quote, quote] else [c]

theorem quoted_toList (s : String) :
    (quoted s).toList = '\'' :: (doubled '\'' s.toList ++ ['\'']) := by
  rw [quoted]
  exact String.toList_ofList

theorem readQuoted_closing {quote : Char} {soFar rest : List Char} {count : Nat}
    (h : quote ∉ rest.head?) : readQuoted quote soFar count (quote :: rest) =
      some (String.ofList soFar.reverse, count + 1) := by
  cases rest with
  | nil =>
    rw [readQuoted.eq_def]
    exact if_pos rfl
  | cons d after =>
    have hd : d ≠ quote := fun heq => h (heq ▸ rfl)
    rw [readQuoted, if_pos rfl, if_neg hd]

theorem readQuoted_twice (quote : Char) (soFar rest : List Char) (count : Nat) :
    readQuoted quote soFar count (quote :: quote :: rest) =
      readQuoted quote (quote :: soFar) (count + 2) rest := by
  rw [readQuoted, if_pos rfl, if_pos rfl]

theorem readQuoted_other {quote c : Char} (h : c ≠ quote) (soFar rest : List Char) (count : Nat) :
    readQuoted quote soFar count (c :: rest) = readQuoted quote (c :: soFar) (count + 1) rest := by
  rw [readQuoted.eq_def]
  exact if_neg h

/-- Up to the closing quote, everything is read but the doubling. -/
theorem readQuoted_doubled {quote : Char} {body soFar rest : List Char} {count : Nat}
    (h : quote ∉ rest.head?) :
    readQuoted quote soFar count (doubled quote body ++ quote :: rest) =
      some (String.ofList (soFar.reverse ++ body), count + (doubled quote body).length + 1) := by
  induction body generalizing soFar count with
  | nil =>
    rw [List.append_nil]
    exact readQuoted_closing h
  | cons c body ih =>
    by_cases hc : c = quote
    · subst hc
      have hcons : doubled c (c :: body) = c :: c :: doubled c body := by
        rw [doubled, List.flatMap_cons, if_pos rfl]
        rfl
      have hcount : count + 2 + (doubled c body).length = count + (doubled c (c :: body)).length := by
        rw [hcons, List.length_cons, List.length_cons]
        omega
      rw [← hcount, hcons, List.cons_append, List.cons_append, readQuoted_twice, ih,
        List.reverse_cons, List.append_assoc]
      rfl
    · have hcons : doubled quote (c :: body) = c :: doubled quote body := by
        rw [doubled, List.flatMap_cons, if_neg hc]
        rfl
      have hcount : count + 1 + (doubled quote body).length =
          count + (doubled quote (c :: body)).length := by
        rw [hcons, List.length_cons]
        omega
      rw [← hcount, hcons, List.cons_append, readQuoted_other hc, ih, List.reverse_cons,
        List.append_assoc]
      rfl

theorem spelt_text (s : String) : Spelt (.text s) (quoted s).toList := by
  refine ⟨'\'', doubled '\'' s.toList ++ ['\''], quoted_toList s, by decide, fun rest hrest => ?_⟩
  show quotedText (doubled '\'' s.toList ++ ['\''] ++ rest) = _
  rw [List.append_assoc, List.singleton_append, quotedText,
    readQuoted_doubled (hrest.head?_ne (by decide))]
  dsimp only
  rw [List.reverse_nil, List.nil_append, String.ofList_toList, List.length_append, Nat.zero_add]
  rfl

/-! ### Numbers -/

theorem readNumber_digits {ds : List Char} (h : ∀ c ∈ ds, isDigit c = true) (soFar : List Char)
    (float : Bool) (rest : List Char) :
    readNumber soFar float (ds ++ rest) = readNumber (ds.reverse ++ soFar) float rest := by
  induction ds generalizing soFar with
  | nil => rfl
  | cons c ds ih =>
    rw [List.cons_append, readNumber, if_pos (h c (List.mem_cons_self ..)),
      ih fun d hd => h d (List.mem_cons_of_mem c hd), List.reverse_cons, List.append_assoc]
    rfl

theorem readNumber_border {rest : List Char} (h : Bordered rest) (soFar : List Char) (float : Bool) :
    readNumber soFar float rest = (soFar.reverse, float, rest) := by
  cases rest with
  | nil => rfl
  | cons c rest =>
    have hdigit : isDigit c = false := h.eq_false (by decide)
    have hmark : isMark c = false := h.eq_false (by decide)
    have hpoint : c ≠ '.' := h.ne (by decide)
    have hplus : c ≠ '+' := h.ne (by decide)
    have hminus : c ≠ '-' := h.ne (by decide)
    rw [readNumber, hdigit, hmark, if_neg Bool.false_ne_true, if_neg fun hc => hpoint hc.1,
      if_neg Bool.false_ne_true, if_neg]
    rintro ⟨hc | hc, -⟩
    · exact hplus hc
    · exact hminus hc

theorem readNumber_tail {l : Double.Layout} (h : l.Proper) (soFar rest : List Char) :
    readNumber soFar false (l.tail ++ rest) =
      readNumber (l.tail.reverse ++ soFar) l.fraction.isSome rest := by
  unfold Double.Layout.tail
  cases hfraction : l.fraction with
  | none => rfl
  | some ds =>
    have hpoint : isDigit '.' = false := by decide
    dsimp only
    rw [List.cons_append, readNumber, hpoint, if_neg Bool.false_ne_true, if_pos ⟨rfl, rfl⟩,
      readNumber_digits (h.fraction ds hfraction), List.reverse_cons, List.append_assoc]
    rfl

/-- A sign goes on a number right behind a mark. -/
theorem readNumber_sign {mark sign : Char} (hmark : isMark mark = true)
    (hsign : sign = '-' ∨ sign = '+') (soFar : List Char) (float : Bool) (rest : List Char) :
    readNumber (mark :: soFar) float (sign :: rest) =
      readNumber (sign :: mark :: soFar) float rest := by
  have hother : isDigit sign = false ∧ sign ≠ '.' ∧ isMark sign = false := by
    rcases hsign with rfl | rfl
    · decide
    · decide
  obtain ⟨hdigit, hpoint, hnoMark⟩ := hother
  rw [readNumber, hdigit, hnoMark, if_neg Bool.false_ne_true, if_neg fun hc => hpoint hc.1,
    if_neg Bool.false_ne_true, if_pos ⟨hsign.symm, hmark⟩]

theorem readNumber_power {l : Double.Layout} (h : l.Proper) (soFar : List Char) (float : Bool)
    (rest : List Char) : readNumber soFar float (l.power ++ rest) =
      readNumber (l.power.reverse ++ soFar) (float || l.exponent.isSome) rest := by
  unfold Double.Layout.power
  cases hexponent : l.exponent with
  | none =>
    rw [Option.isSome_none, Bool.or_false]
    rfl
  | some e =>
    obtain ⟨mark, sign, ds⟩ := e
    obtain ⟨-, hdigits⟩ := h.exponent mark sign ds hexponent
    have hmark : isDigit mark = false ∧ mark ≠ '.' ∧ isMark mark = true := by
      rcases h.mark mark sign ds hexponent with rfl | rfl
      · decide
      · decide
    obtain ⟨hdigit, hpoint, hmark⟩ := hmark
    have hsign : readNumber (mark :: soFar) true (sign ++ (ds ++ rest)) =
        readNumber (sign.reverse ++ mark :: soFar) true (ds ++ rest) := by
      rcases h.sign mark sign ds hexponent with rfl | rfl | rfl
      · rfl
      · exact readNumber_sign hmark (.inl rfl) soFar true (ds ++ rest)
      · exact readNumber_sign hmark (.inr rfl) soFar true (ds ++ rest)
    dsimp only
    rw [List.cons_append, readNumber, hdigit, if_neg Bool.false_ne_true,
      if_neg fun hc => hpoint hc.1, hmark, if_pos rfl, List.append_assoc, hsign,
      readNumber_digits hdigits]
    simp

/-- What is laid out is passed over as one number. -/
theorem readNumber_layout {l : Double.Layout} (h : l.Proper) {rest : List Char}
    (hrest : Bordered rest) : readNumber [] false (l.chars ++ rest) = (l.chars, true, rest) := by
  have hfloat : (l.fraction.isSome || l.exponent.isSome) = true := by
    rw [Bool.or_eq_true, Option.isSome_iff_ne_none, Option.isSome_iff_ne_none]
    exact h.float
  rw [Double.Layout.chars, List.append_assoc, List.append_assoc, readNumber_digits h.whole,
    List.append_nil, readNumber_tail h, readNumber_power h, readNumber_border hrest, hfloat]
  simp

/-- The token that the characters of a number make. -/
def valued (written : List Char) (float : Bool) : Front :=
  if float then
    match Double.read? written with
    | some d => .ok (.float d, written.length - 1)
    | none => .error (0, .badNumber (String.ofList written))
  else
    match IntegerKind.int64.read written with
    | .ok i => .ok (.integer (Int64.ofInt i), written.length - 1)
    | .error fault => .error (0, .badInteger (String.ofList written) fault)

/-- A minus that may stand before a number. -/
def signed (negative : Bool) (body : List Char) : List Char :=
  (if negative then ['-'] else []) ++ body

/-- A minus in front, and what follows it. -/
def splitMinus (cs : List Char) : List Char × List Char :=
  match cs with
  | '-' :: rest => (['-'], rest)
  | cs => ([], cs)

theorem number_unfold (cs : List Char) : number cs =
    match splitMinus cs with
    | (minus, rest) =>
      match readNumber [] false rest with
      | (body, float, rest) =>
        if body = [] ∨ minus ++ body = ['-', '.'] then .error (0, .expectedNumber)
        else if rest.head?.any runsOn then
          .error ((minus ++ body).length, .numberRunsOn (String.ofList (minus ++ body)))
        else valued (minus ++ body) float := rfl

theorem splitMinus_signed {negative : Bool} {c : Char} (h : isDigit c = true) (more : List Char) :
    splitMinus (signed negative (c :: more)) =
      (if negative then ['-'] else [], c :: more) := by
  cases negative with
  | true => rfl
  | false =>
    show splitMinus (c :: more) = ([], c :: more)
    unfold splitMinus
    split
    · next heq =>
      cases heq
      cases h
    · rfl

/-- A number that begins with a digit, perhaps after a minus, is read up to a border. -/
theorem number_signed {negative float : Bool} {c : Char} {more rest : List Char}
    (hdigit : isDigit c = true)
    (hread : readNumber [] false (c :: more ++ rest) = (c :: more, float, rest))
    (hrest : Bordered rest) :
    number (signed negative (c :: more) ++ rest) = valued (signed negative (c :: more)) float := by
  have happend : signed negative (c :: more) ++ rest = signed negative (c :: (more ++ rest)) := by
    rw [signed, signed, List.append_assoc, List.cons_append]
  have hlone : signed negative (c :: more) ≠ ['-', '.'] := by
    intro heq
    cases negative with
    | true =>
      cases heq
      cases hdigit
    | false =>
      cases heq
      cases hdigit
  have hruns : rest.head?.any runsOn = false := hrest.any (by decide)
  rw [happend, number_unfold, splitMinus_signed hdigit]
  dsimp only
  rw [← List.cons_append, hread]
  dsimp only
  rw [if_neg, hruns, if_neg Bool.false_ne_true]
  · rfl
  · rintro (hc | hc)
    · cases hc
    · exact hlone hc

theorem spelt_number {kind : Kind} {negative float : Bool} {c : Char} {more : List Char}
    (hdigit : isDigit c = true)
    (hread : ∀ rest, Bordered rest →
      readNumber [] false (c :: more ++ rest) = (c :: more, float, rest))
    (hvalue : valued (signed negative (c :: more)) float =
      .ok (kind, (signed negative (c :: more)).length - 1)) :
    Spelt kind (signed negative (c :: more)) := by
  cases negative with
  | true =>
    refine ⟨'-', c :: more, rfl, by decide, fun rest hrest => ?_⟩
    have hnumber : number (signed true (c :: more) ++ rest) = valued (signed true (c :: more)) float :=
      number_signed hdigit (hread rest hrest) hrest
    exact hnumber.trans hvalue
  | false =>
    refine ⟨c, more, rfl, isSpace_eq_false hdigit (by decide), fun rest hrest => ?_⟩
    have hnumber : number (signed false (c :: more) ++ rest) =
        valued (signed false (c :: more)) float := number_signed hdigit (hread rest hrest) hrest
    rw [front_digit hdigit]
    exact hnumber.trans hvalue

theorem spelt_float {d : Double} (hfinite : d.magnitude < Double.infinite) :
    Spelt (.float d) (Literal.writtenFloat.write d).toList := by
  have hmark : Literal.writtenFloat.mark.toList = ['e'] := rfl
  obtain ⟨l, hproper, hchars, -⟩ :=
    Double.Layout.exists_layout Literal.writtenFloat hmark (.inl rfl) hfinite
  have hwritten := Double.write_finite Literal.writtenFloat hfinite
  have hread := Double.read?_write Literal.writtenFloat hmark (.inl rfl) hfinite
  obtain ⟨c, more, hwhole⟩ := List.exists_cons_of_ne_nil hproper.ne_nil
  have hcons : l.chars = c :: (more ++ (l.tail ++ l.power)) := by
    rw [Double.Layout.chars, hwhole, List.cons_append]
  have hsigned : (Literal.writtenFloat.write d).toList =
      signed d.negative (c :: (more ++ (l.tail ++ l.power))) := by
    rw [hwritten, hchars, hcons]
    rfl
  rw [hsigned] at hread ⊢
  have hpassed (rest : List Char) (hrest : Bordered rest) :
      readNumber [] false (c :: (more ++ (l.tail ++ l.power)) ++ rest) =
        (c :: (more ++ (l.tail ++ l.power)), true, rest) := by
    rw [← hcons]
    exact readNumber_layout hproper hrest
  refine spelt_number (hproper.whole c (hwhole ▸ List.mem_cons_self ..)) hpassed ?_
  rw [valued, if_pos rfl, hread]

theorem toList_toString (i : Int) :
    (toString i).toList = signed (i < 0) (Decimal.digitsOf i.natAbs) := by
  rw [Int.toString_eq_repr, Int.repr_eq_if]
  by_cases hneg : i < 0
  · have habs : (-i).toNat = i.natAbs := by omega
    rw [if_neg (Int.not_le.2 hneg), String.toList_append, Nat.toList_repr, habs, decide_eq_true hneg]
    rfl
  · have habs : i.toNat = i.natAbs := by omega
    rw [if_pos (Int.not_lt.1 hneg), Nat.toList_repr, habs, decide_eq_false hneg]
    rfl

theorem read_signed {negative : Bool} {ds : List Char} (hne : ds ≠ [])
    (hdigits : ∀ c ∈ ds, isDigit c = true) : IntegerKind.int64.read (signed negative ds) =
      if negative then
        if -(appendDigits 0 ds : Int) < IntegerKind.int64.lo then .error .tooSmall
        else .ok (-(appendDigits 0 ds : Int))
      else if IntegerKind.int64.hi < appendDigits 0 ds then .error .tooLarge
      else .ok (appendDigits 0 ds) := by
  have hall : ds.all isDigit = true := List.all_eq_true.2 hdigits
  have hempty : ds.isEmpty = false := List.isEmpty_eq_false_iff.2 hne
  have hlo : IntegerKind.int64.lo < 0 := by decide
  cases negative with
  | true =>
    show IntegerKind.int64.read ('-' :: ds) = _
    simp [IntegerKind.read, hlo, hall, hempty]
  | false =>
    have hminus : ∀ rest, ds ≠ '-' :: rest := by
      rintro rest rfl
      cases hdigits '-' (List.mem_cons_self ..)
    have hplus : ∀ rest, ds ≠ '+' :: rest := by
      rintro rest rfl
      cases hdigits '+' (List.mem_cons_self ..)
    -- The two facts above are what decides which sign is read.
    show IntegerKind.int64.read ds = _
    simp [IntegerKind.read, hall, hempty]

/-- An integer is read as it is written. -/
theorem read_toString {i : Int} (hlo : IntegerKind.int64.lo ≤ i) (hhi : i ≤ IntegerKind.int64.hi) :
    IntegerKind.int64.read (signed (i < 0) (Decimal.digitsOf i.natAbs)) = .ok i := by
  have hne : Decimal.digitsOf i.natAbs ≠ [] := Nat.toDigits_ne_nil
  rw [read_signed hne fun c hc => isDigit_of_mem_digitsOf hc, appendDigits_digitsOf]
  by_cases hneg : i < 0
  · have habs : -(i.natAbs : Int) = i := by omega
    rw [decide_eq_true hneg, if_pos rfl, habs, if_neg (Int.not_lt.2 hlo)]
  · have habs : (i.natAbs : Int) = i := by omega
    rw [decide_eq_false hneg, if_neg Bool.false_ne_true, habs, if_neg (Int.not_lt.2 hhi)]

theorem spelt_integer (i : Int64) : Spelt (.integer i) (toString i.toInt).toList := by
  have hread := read_toString (i := i.toInt) i.le_toInt (Int.le_of_lt_add_one i.toInt_lt)
  have hdigits : ∀ c ∈ Decimal.digitsOf i.toInt.natAbs, isDigit c = true :=
    fun c hc => isDigit_of_mem_digitsOf hc
  have hne : Decimal.digitsOf i.toInt.natAbs ≠ [] := Nat.toDigits_ne_nil
  rw [toList_toString]
  generalize Decimal.digitsOf i.toInt.natAbs = digits at *
  obtain ⟨c, more, rfl⟩ := List.exists_cons_of_ne_nil hne
  have hpassed (rest : List Char) (hrest : Bordered rest) :
      readNumber [] false (c :: more ++ rest) = (c :: more, false, rest) := by
    rw [readNumber_digits hdigits, readNumber_border hrest, List.append_nil, List.reverse_reverse]
  refine spelt_number (hdigits c (List.mem_cons_self ..)) hpassed ?_
  rw [valued, if_neg Bool.false_ne_true, hread]
  dsimp only
  rw [Int64.ofInt_toInt]

end Watchpost.Token
