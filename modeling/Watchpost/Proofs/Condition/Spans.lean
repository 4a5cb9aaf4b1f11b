import Mathlib.Data.List.TakeWhile
import Watchpost.Proofs.Condition.Blame

/-! Where tokens stand.

A token is read from its own characters as it is from all that follow (`front_alone`), so each has a
span of the text for itself: the spans are in order, there is white space between them, and what
stands in one is read as its token alone. A flaw shows where a character starts. -/
namespace Watchpost.Token

/-- Characters that are one byte each. -/
def IsAscii (cs : List Char) : Prop := ∀ c ∈ cs, c.toNat < 128

theorem utf8Size_of_ascii {c : Char} (h : c.toNat < 128) : c.utf8Size = 1 := by
  rw [Char.utf8Size_eq_one_iff, UInt32.le_iff_toNat_le]
  exact Nat.le_of_lt_succ h

theorem width_cons (c : Char) (cs : List Char) : width (c :: cs) = c.utf8Size + width cs := rfl

theorem width_append (cs ds : List Char) : width (cs ++ ds) = width cs + width ds := by
  rw [width, List.map_append, List.sum_append]
  rfl

theorem IsAscii.width_eq {cs : List Char} (h : IsAscii cs) : width cs = cs.length := by
  induction cs with
  | nil => rfl
  | cons c cs ih =>
    obtain ⟨hc, hcs⟩ := List.forall_mem_cons.1 h
    rw [width_cons, utf8Size_of_ascii hc, ih hcs, List.length_cons, Nat.add_comm]

/-! ### Quotes -/

theorem doubled_cons_self (quote : Char) (body : List Char) :
    doubled quote (quote :: body) = quote :: quote :: doubled quote body := by
  rw [doubled, List.flatMap_cons, if_pos rfl]
  rfl

theorem doubled_cons {quote c : Char} (h : c ≠ quote) (body : List Char) :
    doubled quote (c :: body) = c :: doubled quote body := by
  rw [doubled, List.flatMap_cons, if_neg h]
  rfl

/-- What was read in quotes stands before a closing one. -/
theorem exists_of_readQuoted {quote : Char} {soFar cs : List Char} {count n : Nat} {s : String}
    (h : readQuoted quote soFar count cs = some (s, n)) :
    ∃ body rest, cs = doubled quote body ++ quote :: rest ∧ quote ∉ rest.head? ∧
      s = String.ofList (soFar.reverse ++ body) ∧ n = count + (doubled quote body).length + 1 := by
  fun_induction readQuoted quote soFar count cs with
  | case1 => cases h
  | case2 soFar count after ih =>
    obtain ⟨body, rest, rfl, hrest, rfl, rfl⟩ := ih h
    refine ⟨quote :: body, rest, ?_, hrest, ?_, ?_⟩
    · rw [doubled_cons_self]
      rfl
    · rw [List.reverse_cons, List.append_assoc]
      rfl
    · rw [doubled_cons_self, List.length_cons, List.length_cons]
      omega
  | case3 soFar count d after hd =>
    cases h
    exact ⟨[], d :: after, rfl, fun hmem => hd (Option.some.inj hmem), by rw [List.append_nil], rfl⟩
  | case4 soFar count =>
    cases h
    exact ⟨[], [], rfl, fun hmem => (by cases hmem), by rw [List.append_nil], rfl⟩
  | case5 soFar count c cs hc ih =>
    obtain ⟨body, rest, rfl, hrest, rfl, rfl⟩ := ih h
    refine ⟨c :: body, rest, ?_, hrest, ?_, ?_⟩
    · rw [doubled_cons hc]
      rfl
    · rw [List.reverse_cons, List.append_assoc]
      rfl
    · rw [doubled_cons hc, List.length_cons]
      omega

theorem readQuoted_alone {quote : Char} {cs : List Char} {n : Nat} {s : String}
    (h : readQuoted quote [] 0 cs = some (s, n)) :
    ∃ used after, cs = used ++ after ∧ used.length = n ∧ readQuoted quote [] 0 used = some (s, n) := by
  obtain ⟨body, rest, rfl, -, rfl, rfl⟩ := exists_of_readQuoted h
  refine ⟨doubled quote body ++ [quote], rest, ?_, ?_, ?_⟩
  · rw [List.append_assoc, List.singleton_append]
  · rw [List.length_append, List.length_singleton, Nat.zero_add]
  · exact readQuoted_doubled fun hmem => by cases hmem

/-! ### Numbers -/

theorem splitMinus_spec (cs : List Char) : ∃ minus rest, splitMinus cs = (minus, rest) ∧
    cs = minus ++ rest ∧ (minus = ['-'] ∨ minus = [] ∧ cs.head? ≠ some '-') := by
  unfold splitMinus
  split
  · next rest => exact ⟨['-'], rest, rfl, rfl, .inl rfl⟩
  · next hminus =>
    refine ⟨[], cs, rfl, rfl, .inr ⟨rfl, fun hhead => ?_⟩⟩
    cases cs with
    | nil => cases hhead
    | cons c rest =>
      cases hhead
      exact hminus rest rfl

theorem isMark_ascii {c : Char} (h : isMark c = true) : c.toNat < 128 := by
  rw [isMark, Bool.or_eq_true, beq_iff_eq, beq_iff_eq] at h
  rcases h with rfl | rfl <;> decide

/-- What a number has been read from, and what stops it. -/
theorem exists_of_readNumber {soFar cs body rest : List Char} {float read : Bool}
    (h : readNumber soFar float cs = (body, read, rest)) :
    ∃ used, cs = used ++ rest ∧ body = soFar.reverse ++ used ∧ IsAscii used ∧
      readNumber soFar float used = (body, read, []) ∧ rest.head?.any isDigit = false := by
  -- Each character that is taken is taken whatever comes behind it.
  have htake {soFar cs : List Char} {c : Char} {float next : Bool} (hc : c.toNat < 128)
      (hnext : ∀ ds, readNumber soFar float (c :: ds) = readNumber (c :: soFar) next ds)
      (ih : ∃ used, cs = used ++ rest ∧ body = (c :: soFar).reverse ++ used ∧ IsAscii used ∧
        readNumber (c :: soFar) next used = (body, read, []) ∧ rest.head?.any isDigit = false) :
      ∃ used, c :: cs = used ++ rest ∧ body = soFar.reverse ++ used ∧ IsAscii used ∧
        readNumber soFar float used = (body, read, []) ∧ rest.head?.any isDigit = false := by
    obtain ⟨used, rfl, hbody, hused, hread, hstops⟩ := ih
    refine ⟨c :: used, rfl, ?_, List.forall_mem_cons.2 ⟨hc, hused⟩, ?_, hstops⟩
    · rw [hbody, List.reverse_cons, List.append_assoc]
      rfl
    · rw [hnext, hread]
  fun_induction readNumber soFar float cs with
  | case1 soFar float =>
    cases h
    exact ⟨[], rfl, (List.append_nil _).symm, List.forall_mem_nil _, rfl, rfl⟩
  | case2 soFar float c cs hdigit ih =>
    have hc : c.toNat < 128 := Nat.lt_of_le_of_lt (isDigit_bound hdigit).2 (by decide)
    refine htake hc (fun ds => ?_) (ih h)
    rw [readNumber, if_pos hdigit]
  | case3 soFar float c cs hdigit hpoint ih =>
    obtain ⟨rfl, rfl⟩ := hpoint
    exact htake (by decide) (fun ds => rfl) (ih h)
  | case4 soFar float c cs hdigit hpoint hmark ih =>
    refine htake (isMark_ascii hmark) (fun ds => ?_) (ih h)
    rw [readNumber, if_neg hdigit, if_neg hpoint, if_pos hmark]
  | case5 soFar float c cs hdigit hpoint hmark hsign ih =>
    have hc : c.toNat < 128 := by rcases hsign.1 with rfl | rfl <;> decide
    refine htake hc (fun ds => ?_) (ih h)
    rw [readNumber, if_neg hdigit, if_neg hpoint, if_neg hmark, if_pos hsign]
  | case6 soFar float c cs hdigit hpoint hmark hsign =>
    cases h
    exact ⟨[], rfl, (List.append_nil _).symm, List.forall_mem_nil _, rfl,
      Bool.eq_false_iff.2 hdigit⟩

/-- The parts that characters are taken apart into to read a number: a minus, a body and what is
left over. -/
structure Numeral (cs minus body : List Char) (float : Bool) (rest : List Char) : Prop where
  split : splitMinus cs = (minus, body ++ rest)
  whole : cs = minus ++ (body ++ rest)
  sign : minus = ['-'] ∨ minus = [] ∧ cs.head? ≠ some '-'
  read : readNumber [] false (body ++ rest) = (body, float, rest)
  alone : readNumber [] false body = (body, float, [])
  ascii : IsAscii body
  stops : rest.head?.any isDigit = false

theorem exists_numeral (cs : List Char) : ∃ minus body float rest, Numeral cs minus body float rest := by
  obtain ⟨minus, tail, hsplit, hwhole, hsign⟩ := splitMinus_spec cs
  cases hread : readNumber [] false tail with
  | mk body more =>
    obtain ⟨float, rest⟩ := more
    obtain ⟨used, rfl, hbody, hascii, halone, hstops⟩ := exists_of_readNumber hread
    obtain rfl : body = used := hbody
    exact ⟨minus, body, float, rest, hsplit, hwhole, hsign, hread, halone, hascii, hstops⟩

section
variable {cs minus body rest : List Char} {float : Bool}

theorem Numeral.number_eq (h : Numeral cs minus body float rest) : number cs =
    if body = [] ∨ minus ++ body = ['-', '.'] then .error (0, .expectedNumber)
    else if rest.head?.any runsOn then
      .error ((minus ++ body).length, .numberRunsOn (String.ofList (minus ++ body)))
    else valued (minus ++ body) float := by
  rw [number_unfold, h.split]
  dsimp only
  rw [h.read]

theorem Numeral.ascii_written (h : Numeral cs minus body float rest) : IsAscii (minus ++ body) := by
  refine List.forall_mem_append.2 ⟨?_, h.ascii⟩
  rcases h.sign with rfl | ⟨rfl, -⟩
  · exact List.forall_mem_singleton.2 (by decide)
  · exact List.forall_mem_nil _

/-- The written part of a number is taken apart as it was with more behind it. -/
theorem Numeral.written (h : Numeral cs minus body float rest) (hne : body ≠ []) :
    Numeral (minus ++ body) minus body float [] where
  split := by
    rw [List.append_nil]
    rcases h.sign with rfl | ⟨rfl, hhead⟩
    · rfl
    · obtain ⟨c, tail, rfl⟩ := List.exists_cons_of_ne_nil hne
      rw [h.whole] at hhead
      unfold splitMinus
      split
      · next heq =>
        cases heq
        exact absurd rfl hhead
      · rfl
  whole := by rw [List.append_nil]
  sign := by
    rcases h.sign with hminus | ⟨rfl, hhead⟩
    · exact .inl hminus
    · obtain ⟨c, tail, rfl⟩ := List.exists_cons_of_ne_nil hne
      rw [h.whole] at hhead
      exact .inr ⟨rfl, hhead⟩
  read := by
    rw [List.append_nil]
    exact h.alone
  alone := h.alone
  ascii := h.ascii
  stops := rfl

end

theorem length_of_valued {written : List Char} {float : Bool} {kind : Kind} {more : Nat}
    (h : valued written float = .ok (kind, more)) : more = written.length - 1 := by
  unfold valued at h
  split at h
  · split at h
    · cases h
      rfl
    · cases h
  · split at h
    · cases h
      rfl
    · cases h

theorem number_alone {cs : List Char} {kind : Kind} {more : Nat} (h : number cs = .ok (kind, more)) :
    ∃ used after, cs = used ++ after ∧ used.length = more + 1 ∧ number used = .ok (kind, more) ∧
      after.head?.any isDigit = false := by
  obtain ⟨minus, body, float, rest, hnumeral⟩ := exists_numeral cs
  rw [hnumeral.number_eq] at h
  split at h
  · cases h
  · next hshort =>
    have hbody : body ≠ [] := fun hbody => hshort (.inl hbody)
    split at h
    · cases h
    · have hpos : 0 < (minus ++ body).length :=
        List.length_pos_iff.2 (List.append_ne_nil_of_right_ne_nil minus hbody)
      refine ⟨minus ++ body, rest, ?_, ?_, ?_, hnumeral.stops⟩
      · rw [List.append_assoc]
        exact hnumeral.whole
      · rw [length_of_valued h]
        omega
      · rw [(hnumeral.written hbody).number_eq, if_neg hshort]
        exact h

theorem number_flaw {cs : List Char} {after : Nat} {flaw : Condition.Flaw} (hne : cs ≠ [])
    (h : number cs = .error (after, flaw)) :
    ∃ used rest, cs = used ++ rest ∧ rest ≠ [] ∧ IsAscii used ∧ used.length = after := by
  have hfront {written : List Char} {float : Bool}
      (h : valued written float = .error (after, flaw)) : after = 0 := by
    unfold valued at h
    split at h
    · split at h
      · cases h
      · cases h
        rfl
    · split at h
      · cases h
      · cases h
        rfl
  obtain ⟨minus, body, float, rest, hnumeral⟩ := exists_numeral cs
  rw [hnumeral.number_eq] at h
  split at h
  · cases h
    exact ⟨[], cs, rfl, hne, List.forall_mem_nil _, rfl⟩
  · split at h
    · next hruns =>
      cases h
      refine ⟨minus ++ body, rest, ?_, ?_, hnumeral.ascii_written, rfl⟩
      · rw [List.append_assoc]
        exact hnumeral.whole
      · rintro rfl
        cases hruns
    · rw [hfront h]
      exact ⟨[], cs, rfl, hne, List.forall_mem_nil _, rfl⟩

/-! ### Fronts -/

theorem front_bang (rest : List Char) : front '!' rest =
    if rest.head? = some '=' then .ok (.ne, 1) else .error (0, .loneBang) := by
  cases rest with
  | nil => rfl
  | cons d after => by_cases h : d = '=' <;> simp [front, h]

theorem front_less (rest : List Char) : front '<' rest =
    if rest.head? = some '=' then .ok (.le, 1)
    else if rest.head? = some '>' then .ok (.ne, 1) else .ok (.lt, 0) := by
  cases rest with
  | nil => rfl
  | cons d after => by_cases h : d = '=' <;> by_cases h' : d = '>' <;> simp [front, h, h']

theorem front_greater (rest : List Char) : front '>' rest =
    if rest.head? = some '=' then .ok (.ge, 1) else .ok (.gt, 0) := by
  cases rest with
  | nil => rfl
  | cons d after => by_cases h : d = '=' <;> simp [front, h]

theorem front_point (rest : List Char) : front '.' rest =
    if rest.head?.any isDigit then number ('.' :: rest) else .ok (.dot, 0) := rfl

/-- Signs that are tokens whatever comes behind them. -/
def singles : List Char := ['(', ')', ',', '*', ';', '=']

theorem front_single {c : Char} (h : c ∈ singles) :
    ∃ kind, ∀ rest, front c rest = .ok (kind, 0) := by
  simp only [singles, List.mem_cons, List.not_mem_nil, or_false] at h
  rcases h with rfl | rfl | rfl | rfl | rfl | rfl
  all_goals exact ⟨_, fun _ => rfl⟩

/-- All the ways in which a token may begin. -/
theorem front_ways (c : Char) : c ∈ singles ∨ c = '!' ∨ c = '<' ∨ c = '>' ∨ c = '\'' ∨
    (c = '"' ∨ c = '\x60') ∨ c = '.' ∨ c = '-' ∨ c ∉ signs := by
  by_cases h : c ∈ signs
  · simp only [signs, List.mem_cons, List.not_mem_nil, or_false] at h
    simp only [singles, List.mem_cons, List.not_mem_nil, or_false]
    rcases h with h | h | h | h | h | h | h | h | h | h | h | h | h | h
    all_goals simp only [h, true_or, or_true]
  · simp only [h, not_false_eq_true, or_true]

/-- What is read at a front is read from its own characters as it is from all that follow. -/
def Alone (c : Char) (rest : List Char) : Prop :=
  ∀ ⦃kind more⦄, front c rest = .ok (kind, more) →
    ∃ used after, rest = used ++ after ∧ used.length = more ∧ front c used = .ok (kind, more)

section
variable (rest : List Char)

theorem alone_single {c : Char} (hc : c ∈ singles) : Alone c rest := by
  intro kind more h
  obtain ⟨single, hfront⟩ := front_single hc
  rw [hfront] at h
  cases h
  exact ⟨[], rest, rfl, rfl, hfront []⟩

theorem alone_bang : Alone '!' rest := by
  intro kind more h
  rw [front_bang] at h
  split at h
  · next hd =>
    cases h
    obtain ⟨after, rfl⟩ := List.head?_eq_some_iff.1 hd
    exact ⟨['='], after, rfl, rfl, rfl⟩
  · cases h

theorem alone_less : Alone '<' rest := by
  intro kind more h
  rw [front_less] at h
  split at h
  · next hd =>
    cases h
    obtain ⟨after, rfl⟩ := List.head?_eq_some_iff.1 hd
    exact ⟨['='], after, rfl, rfl, rfl⟩
  · split at h
    · next hd =>
      cases h
      obtain ⟨after, rfl⟩ := List.head?_eq_some_iff.1 hd
      exact ⟨['>'], after, rfl, rfl, rfl⟩
    · cases h
      exact ⟨[], rest, rfl, rfl, rfl⟩

theorem alone_greater : Alone '>' rest := by
  intro kind more h
  rw [front_greater] at h
  split at h
  · next hd =>
    cases h
    obtain ⟨after, rfl⟩ := List.head?_eq_some_iff.1 hd
    exact ⟨['='], after, rfl, rfl, rfl⟩
  · cases h
    exact ⟨[], rest, rfl, rfl, rfl⟩

theorem alone_text : Alone '\'' rest := by
  intro kind more h
  have hfront (cs : List Char) : front '\'' cs = quotedText cs := rfl
  rw [hfront, quotedText] at h
  split at h
  · next s count hread =>
    cases h
    obtain ⟨used, after, rfl, hlength, halone⟩ := readQuoted_alone hread
    refine ⟨used, after, rfl, hlength, ?_⟩
    rw [hfront, quotedText, halone]
  · cases h

theorem alone_quotedName {c : Char} (hc : c = '"' ∨ c = '\x60') : Alone c rest := by
  intro kind more h
  have hfront (cs : List Char) : front c cs = quotedName c cs := by
    rcases hc with rfl | rfl <;> rfl
  rw [hfront, quotedName] at h
  split at h
  · next s count hread =>
    split at h
    · cases h
    · next hempty =>
      cases h
      obtain ⟨used, after, rfl, hlength, halone⟩ := readQuoted_alone hread
      refine ⟨used, after, rfl, hlength, ?_⟩
      rw [hfront, quotedName, halone]
      exact if_neg hempty
  · cases h

/-- A number leaves its front to what it is read from. -/
theorem number_behind {c : Char} {rest : List Char} {kind : Kind} {more : Nat}
    (h : number (c :: rest) = .ok (kind, more)) : ∃ used after, rest = used ++ after ∧
      used.length = more ∧ number (c :: used) = .ok (kind, more) ∧ after.head?.any isDigit = false := by
  obtain ⟨used, after, happend, hlength, hread, hstops⟩ := number_alone h
  cases used with
  | nil => cases hlength
  | cons d used =>
    cases happend
    exact ⟨used, after, rfl, Nat.succ.inj hlength, hread, hstops⟩

theorem alone_point : Alone '.' rest := by
  intro kind more h
  rw [front_point] at h
  split at h
  · next hdigit =>
    obtain ⟨used, after, rfl, hlength, hread, hstops⟩ := number_behind h
    refine ⟨used, after, rfl, hlength, ?_⟩
    -- The digit behind the point is part of the number, or it would stop it.
    have hused : used.head?.any isDigit = true := by
      cases used with
      | nil =>
        rw [List.nil_append, hstops] at hdigit
        cases hdigit
      | cons d used => exact hdigit
    rw [front_point, if_pos hused, hread]
  · cases h
    exact ⟨[], rest, rfl, rfl, rfl⟩

theorem alone_minus : Alone '-' rest := by
  intro kind more h
  have hnumber : number ('-' :: rest) = .ok (kind, more) := h
  obtain ⟨used, after, rfl, hlength, hread, -⟩ := number_behind hnumber
  exact ⟨used, after, rfl, hlength, hread⟩

theorem alone_plain {c : Char} (hc : c ∉ signs) : Alone c rest := by
  intro kind more h
  rw [front_plain hc] at h
  split at h
  · next hdigit =>
    obtain ⟨used, after, rfl, hlength, hread, -⟩ := number_behind h
    refine ⟨used, after, rfl, hlength, ?_⟩
    rw [front_digit hdigit, hread]
  · next hdigit =>
    split at h
    · next hbegins =>
      cases h
      refine ⟨rest.takeWhile continuesName, rest.dropWhile continuesName,
        List.takeWhile_append_dropWhile.symm, rfl, ?_⟩
      rw [front_name hbegins, name, List.takeWhile_idem]
    · cases h

/-- **A token is read from its own characters as it is from all that follow.** -/
theorem front_alone (c : Char) : Alone c rest := by
  rcases front_ways c with hsingle | rfl | rfl | rfl | rfl | hquote | rfl | rfl | hplain
  · exact alone_single rest hsingle
  · exact alone_bang rest
  · exact alone_less rest
  · exact alone_greater rest
  · exact alone_text rest
  · exact alone_quotedName rest hquote
  · exact alone_point rest
  · exact alone_minus rest
  · exact alone_plain rest hplain

end

/-- A flaw shows at the front, or behind the characters of a number and before the end. -/
theorem front_flaw {c : Char} {rest : List Char} {after : Nat} {flaw : Condition.Flaw}
    (h : front c rest = .error (after, flaw)) :
    ∃ used more, c :: rest = used ++ more ∧ more ≠ [] ∧ IsAscii used ∧ used.length = after := by
  have hhere (hafter : after = 0) :
      ∃ used more, c :: rest = used ++ more ∧ more ≠ [] ∧ IsAscii used ∧ used.length = after :=
    ⟨[], c :: rest, rfl, List.cons_ne_nil c rest, List.forall_mem_nil _, hafter.symm⟩
  have hnumber (hfront : front c rest = number (c :: rest)) :
      ∃ used more, c :: rest = used ++ more ∧ more ≠ [] ∧ IsAscii used ∧ used.length = after := by
    rw [hfront] at h
    exact number_flaw (List.cons_ne_nil c rest) h
  rcases front_ways c with hsingle | rfl | rfl | rfl | rfl | hquote | rfl | rfl | hplain
  · obtain ⟨single, hfront⟩ := front_single hsingle
    rw [hfront] at h
    cases h
  · rw [front_bang] at h
    split at h
    · cases h
    · cases h
      exact hhere rfl
  · rw [front_less] at h
    split at h
    · cases h
    · split at h <;> cases h
  · rw [front_greater] at h
    split at h <;> cases h
  · have hfront : front '\'' rest = quotedText rest := rfl
    rw [hfront, quotedText] at h
    split at h
    · cases h
    · cases h
      exact hhere rfl
  · have hfront : front c rest = quotedName c rest := by
      rcases hquote with rfl | rfl <;> rfl
    rw [hfront, quotedName] at h
    split at h
    · split at h
      · cases h
        exact hhere rfl
      · cases h
    · cases h
      exact hhere rfl
  · by_cases hdigit : rest.head?.any isDigit = true
    · exact hnumber (if_pos hdigit)
    · rw [front_point, if_neg hdigit] at h
      cases h
  · exact hnumber rfl
  · by_cases hdigit : isDigit c = true
    · exact hnumber (front_digit hdigit rest)
    · rw [front_plain hplain, if_neg hdigit] at h
      split at h
      · cases h
      · cases h
        exact hhere rfl

/-! ### Texts -/

theorem isSpace_ascii (c : Char) (h : isSpace c = true) : c.toNat < 128 := by
  have hall : blanks.all (fun d => decide (d.toNat < 128)) = true := by decide
  exact of_decide_eq_true (List.all_eq_true.1 hall c (isSpace_iff.1 h))

theorem utf8Size_of_isSpace {c : Char} (h : isSpace c = true) : c.utf8Size = 1 :=
  utf8Size_of_ascii (isSpace_ascii c h)

/-- What is made of the next character: it is passed over, or it begins a token or a flaw. -/
inductive Cut (offset : Nat) (c : Char) (rest : List Char) : Prop where
  | space (h : isSpace c = true)
      (hscan : ∀ soFar, scan soFar offset 0 (c :: rest) = scan soFar (offset + 1) 0 rest)
  | token {kind : Kind} {used after : List Char} (h : isSpace c = false) (happend : rest = used ++ after)
      (hfront : front c rest = .ok (kind, used.length))
      (halone : front c used = .ok (kind, used.length))
      (hscan : ∀ soFar, scan soFar offset 0 (c :: rest) =
        scan (⟨kind, offset, c :: used⟩ :: soFar) (offset + width (c :: used)) 0 after)
  | flaw {used more : List Char} {flaw : Condition.Flaw} (h : isSpace c = false)
      (happend : c :: rest = used ++ more) (hne : more ≠ [])
      (hfront : front c rest = .error (width used, flaw))
      (hscan : ∀ soFar, scan soFar offset 0 (c :: rest) = .error (offset + width used, flaw))

theorem exists_cut (offset : Nat) (c : Char) (rest : List Char) : Cut offset c rest := by
  cases hspace : isSpace c with
  | true =>
    refine .space hspace fun soFar => ?_
    rw [scan, if_pos hspace, utf8Size_of_isSpace hspace]
  | false =>
    cases hfront : front c rest with
    | ok read =>
      obtain ⟨kind, more⟩ := read
      obtain ⟨used, after, rfl, rfl, halone⟩ := front_alone rest c hfront
      exact .token hspace rfl hfront halone fun soFar => scan_front hspace hfront
    | error fault =>
      obtain ⟨count, flaw⟩ := fault
      obtain ⟨used, more, happend, hne, hascii, rfl⟩ := front_flaw hfront
      rw [← hascii.width_eq] at hfront
      refine .flaw hspace happend hne hfront fun soFar => ?_
      rw [scan, hspace, if_neg Bool.false_ne_true, hfront]

/-- Tokens laid out over characters, from a byte on and with white space between them. -/
inductive Laid : Nat → List Char → List Token → Prop where
  | done (offset : Nat) : Laid offset [] []
  | space {offset : Nat} {c : Char} {cs : List Char} {ts : List Token} (h : isSpace c = true)
      (hrest : Laid (offset + 1) cs ts) : Laid offset (c :: cs) ts
  | token {offset : Nat} {c : Char} {used after : List Char} {kind : Kind} {ts : List Token}
      (h : isSpace c = false) (hfront : front c used = .ok (kind, used.length))
      (hrest : Laid (offset + width (c :: used)) after ts) :
      Laid offset (c :: used ++ after) (⟨kind, offset, c :: used⟩ :: ts)

theorem scan_laid {soFar ts : List Token} {offset : Nat} {cs : List Char}
    (h : scan soFar offset 0 cs = .ok ts) : ∃ more, ts = soFar.reverse ++ more ∧ Laid offset cs more := by
  induction hlength : cs.length using Nat.strongRecOn generalizing soFar offset cs with
  | ind n ih =>
    cases cs with
    | nil =>
      cases h
      exact ⟨[], (List.append_nil _).symm, .done offset⟩
    | cons c rest =>
      rw [List.length_cons] at hlength
      cases exists_cut offset c rest with
      | space hspace hscan =>
        rw [hscan] at h
        obtain ⟨more, hts, hlaid⟩ := ih rest.length (by omega) h rfl
        exact ⟨more, hts, .space hspace hlaid⟩
      | @token kind used after hspace happend hfront halone hscan =>
        subst happend
        rw [hscan] at h
        rw [List.length_append] at hlength
        obtain ⟨more, rfl, hlaid⟩ := ih after.length (by omega) h rfl
        refine ⟨⟨kind, offset, c :: used⟩ :: more, ?_, .token hspace halone hlaid⟩
        rw [List.reverse_cons, List.append_assoc]
        rfl
      | flaw hspace happend hne hfront hscan =>
        rw [hscan] at h
        cases h

/-- A flaw of a text shows where one of its characters starts. -/
theorem scan_flaw {soFar : List Token} {offset o : Nat} {cs : List Char} {flaw : Condition.Flaw}
    (h : scan soFar offset 0 cs = .error (o, flaw)) :
    ∃ used more, cs = used ++ more ∧ more ≠ [] ∧ o = offset + width used := by
  induction hlength : cs.length using Nat.strongRecOn generalizing soFar offset cs with
  | ind n ih =>
    cases cs with
    | nil => cases h
    | cons c rest =>
      rw [List.length_cons] at hlength
      cases exists_cut offset c rest with
      | space hspace hscan =>
        rw [hscan] at h
        obtain ⟨used, more, rfl, hne, rfl⟩ := ih rest.length (by omega) h rfl
        refine ⟨c :: used, more, rfl, hne, ?_⟩
        rw [width_cons, utf8Size_of_isSpace hspace, Nat.add_assoc]
      | @token kind used after hspace happend hfront halone hscan =>
        subst happend
        rw [hscan] at h
        rw [List.length_append] at hlength
        obtain ⟨more, last, rfl, hne, rfl⟩ := ih after.length (by omega) h rfl
        refine ⟨c :: used ++ more, last, ?_, hne, ?_⟩
        · rw [List.append_assoc, List.cons_append]
        · rw [width_append, Nat.add_assoc]
      | @flaw used more flaw hspace happend hne hfront hscan =>
        rw [hscan] at h
        cases h
        exact ⟨used, more, happend, hne, rfl⟩

/-! ### Spans -/

/-- The byte behind a token. -/
def finish (t : Token) : Nat := t.offset + width t.written

section
variable {offset : Nat} {cs : List Char} {ts : List Token}

theorem width_cons_pos (c : Char) (cs : List Char) : 0 < width (c :: cs) :=
  Nat.lt_of_lt_of_le c.utf8Size_pos (Nat.le_add_right _ _)

theorem Laid.within (h : Laid offset cs ts) :
    ∀ t ∈ ts, offset ≤ t.offset ∧ t.offset < t.finish ∧ t.finish ≤ offset + width cs := by
  induction h with
  | done offset => exact List.forall_mem_nil _
  | @space offset c cs ts hspace hrest ih =>
    intro t ht
    have hbounds := ih t ht
    rw [width_cons, utf8Size_of_isSpace hspace]
    omega
  | @token offset c used after kind ts hspace hfront hrest ih =>
    have hpos := width_cons_pos c used
    rw [width_append]
    refine List.forall_mem_cons.2 ⟨⟨Nat.le_refl _, ?_, ?_⟩, fun t ht => ?_⟩
    · exact Nat.lt_add_of_pos_right hpos
    · exact Nat.add_le_add_left (Nat.le_add_right _ _) offset
    · have hbounds := ih t ht
      omega

/-- Spans do not overlap. -/
theorem Laid.apart (h : Laid offset cs ts) : ts.Pairwise fun t u => t.finish ≤ u.offset := by
  induction h with
  | done offset => exact .nil
  | space hspace hrest ih => exact ih
  | token hspace hfront hrest ih =>
    exact List.pairwise_cons.2 ⟨fun u hu => (hrest.within u hu).1, ih⟩

/-- The characters of a token stand in its span, and are read as the token alone. -/
theorem Laid.stands (h : Laid offset cs ts) : ∀ t ∈ ts,
    (∃ before after, cs = before ++ (t.written ++ after) ∧ t.offset = offset + width before) ∧
      ∃ c more, t.written = c :: more ∧ isSpace c = false ∧ front c more = .ok (t.kind, more.length) := by
  induction h with
  | done offset => exact List.forall_mem_nil _
  | @space offset c cs ts hspace hrest ih =>
    intro t ht
    obtain ⟨⟨before, after, rfl, hoffset⟩, halone⟩ := ih t ht
    refine ⟨⟨c :: before, after, rfl, ?_⟩, halone⟩
    rw [hoffset, width_cons, utf8Size_of_isSpace hspace, Nat.add_assoc]
  | @token offset c used after kind ts hspace hfront hrest ih =>
    refine List.forall_mem_cons.2 ⟨⟨⟨[], after, rfl, rfl⟩, c, used, rfl, hspace, hfront⟩, ?_⟩
    intro t ht
    obtain ⟨⟨before, rest, rfl, hoffset⟩, halone⟩ := ih t ht
    refine ⟨⟨c :: used ++ before, rest, ?_, ?_⟩, halone⟩
    · rw [List.append_assoc]
    · rw [hoffset, width_append, Nat.add_assoc]

/-- A byte in no span is that of a blank. -/
theorem Laid.gap (h : Laid offset cs ts) {pos : Nat} (hpos : offset ≤ pos)
    (hend : pos < offset + width cs) (hout : ∀ t ∈ ts, ¬(t.offset ≤ pos ∧ pos < t.finish)) :
    ∃ before c after, cs = before ++ c :: after ∧ pos = offset + width before ∧ isSpace c = true := by
  induction h with
  | done offset => exact absurd hend (Nat.not_lt.2 hpos)
  | @space offset c cs ts hspace hrest ih =>
    rcases Nat.eq_or_lt_of_le hpos with rfl | hlater
    · exact ⟨[], c, cs, rfl, rfl, hspace⟩
    · rw [width_cons, utf8Size_of_isSpace hspace, ← Nat.add_assoc] at hend
      obtain ⟨before, d, after, rfl, rfl, hd⟩ := ih hlater hend hout
      refine ⟨c :: before, d, after, rfl, ?_, hd⟩
      rw [width_cons, utf8Size_of_isSpace hspace, Nat.add_assoc]
  | @token offset c used after kind ts hspace hfront hrest ih =>
    obtain ⟨hfirst, hothers⟩ := List.forall_mem_cons.1 hout
    have hlater : offset + width (c :: used) ≤ pos := by
      by_contra hwithin
      exact hfirst ⟨hpos, Nat.lt_of_not_le hwithin⟩
    rw [width_append, ← Nat.add_assoc] at hend
    obtain ⟨before, d, rest, rfl, rfl, hd⟩ := ih hlater hend hothers
    refine ⟨c :: used ++ before, d, rest, ?_, ?_, hd⟩
    · rw [List.append_assoc]
    · rw [width_append, Nat.add_assoc]

end

/-- What is read from its own characters is all that a text of them has. -/
theorem tokens_alone {c : Char} {more : List Char} {kind : Kind} (h : isSpace c = false)
    (hfront : front c more = .ok (kind, more.length)) :
    tokens (String.ofList (c :: more)) = .ok [⟨kind, 0, c :: more⟩] := by
  have hscan : scan [] 0 0 (c :: (more ++ [])) =
      scan [⟨kind, 0, c :: more⟩] (0 + width (c :: more)) 0 [] :=
    scan_front h (by rw [List.append_nil]; exact hfront)
  rw [tokens, String.toList_ofList]
  rw [List.append_nil] at hscan
  rw [hscan]
  rfl

end Watchpost.Token
