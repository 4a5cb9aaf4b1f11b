import Watchpost.Proofs.Condition.Slices

/-! Walking over the bytes of a text.

Tokens can be read byte by byte as well. A position goes through the bytes, and where whole characters
are asked for they are sliced out of the text. A slice fails if it does not start and end where
characters do, and so does a step that does not go on. Neither ever happens, and the walk ends as the
scan does (`walk_eq`). -/
namespace Watchpost.Token

/-! ### What is read -/

/-- What a part of the walk comes to; nothing if it fails. -/
abbrev Outcome (α : Type) := Option (Except (Nat × Condition.Flaw) α)

/-- A step: what it reads, if that is no blank, and the byte that it goes on to. -/
abbrev Step := Option Kind × Nat

/-- Goes from character to character to the closing quote, after the opening one. The text so far is
held backwards, and `i` is the byte that comes next. -/
def closing (quote : Char) (soFar : List Char) (i : Nat) : List Char → Option (String × Nat)
  | [] => none
  | c :: rest =>
    if c = quote then
      match rest with
      | d :: after =>
        if d = quote then closing quote (quote :: soFar) (i + c.utf8Size + d.utf8Size) after
        else some (String.ofList soFar.reverse, i + c.utf8Size)
      | [] => some (String.ofList soFar.reverse, i + c.utf8Size)
    else closing quote (c :: soFar) (i + c.utf8Size) rest

/-- What stands in quotes, and the byte behind them. -/
def quotedFrom (text : List Char) (start : Nat) (quote : Char) : Outcome (String × Nat) :=
  (sliceFrom text (start + 1)).map fun rest =>
    match closing quote [] 0 rest with
    | some (s, i) => .ok (s, start + 1 + i)
    | none => .error (start, .unterminated quote)

def isSign (c : Char) : Bool := c == '+' || c == '-'

/-- Passes over the bytes of a number: digits, one point before any mark, and marks with a sign that
may come behind. Says whether there was a point or a mark. -/
def numberEnd (text : List Char) (float : Bool) (pos : Nat) : Bool × Nat :=
  match _h : byteAt text pos with
  | none => (float, pos)
  | some c =>
    if isDigit c then numberEnd text float (pos + 1)
    else if c = '.' ∧ float = false then numberEnd text true (pos + 1)
    else if isMark c then
      if comes text (pos + 1) isSign then numberEnd text true (pos + 2)
      else numberEnd text true (pos + 1)
    else (float, pos)
termination_by (Text.bytes text).length - pos
decreasing_by
  all_goals
    have := lt_of_byteAt _h
    omega

def numberFrom (text : List Char) (start : Nat) : Outcome Step :=
  (byteAt text start).bind fun c =>
    let digits := if c = '-' then start + 1 else start
    let (float, stop) := numberEnd text false digits
    (slice text start stop).map fun written =>
      let number := String.ofList written
      if stop = digits ∨ written = ['-', '.'] ∨ written = ['.'] then .error (start, .expectedNumber)
      else if comes text stop runsOn then .error (stop, .numberRunsOn number)
      else if float then
        match Double.read? written with
        | some d => .ok (some (.float d), stop)
        | none => .error (start, .badNumber number)
      else
        match IntegerKind.int64.read written with
        | .ok i => .ok (some (.integer (Int64.ofInt i)), stop)
        | .error fault => .error (start, .badInteger number fault)

/-- Whether a name begins at a byte. Only where it is no single one the character is looked at. -/
def namedAt (text : List Char) (pos : Nat) (c : Char) : Option Bool :=
  if c == '_' || Text.isAsciiLetter c then some true
  else if c.toNat < 128 then some false
  else (sliceFrom text pos).map fun rest => rest.head?.any Text.isAlphabetic

/-- The byte of the first character that does not go on a name. -/
def nameEnd (pos : Nat) : List Char → Nat
  | [] => pos
  | c :: rest => if continuesName c then nameEnd (pos + c.utf8Size) rest else pos

def nameFrom (text : List Char) (pos : Nat) (c : Char) : Outcome Step :=
  (namedAt text pos c).bind fun named =>
    (sliceFrom text pos).bind fun rest =>
      if named then
        let stop := nameEnd pos rest
        (slice text pos stop).map fun name => .ok (some (.name (String.ofList name)), stop)
      else some (.error (pos, .unexpectedCharacter (rest.head?.getD '?')))

/-! ### The walk -/

def reads (kind : Kind) (next : Nat) : Outcome Step := some (.ok (some kind, next))

/-- A step from a byte. -/
def stepFrom (text : List Char) (pos : Nat) (c : Char) : Outcome Step :=
  if isSpace c then some (.ok (none, pos + 1))
  else match c with
    | '(' => reads .opening (pos + 1)
    | ')' => reads .closing (pos + 1)
    | ',' => reads .comma (pos + 1)
    | '*' => reads .star (pos + 1)
    | ';' => reads .semicolon (pos + 1)
    | '=' => reads .eq (pos + 1)
    | '!' =>
      if comes text (pos + 1) (· == '=') then reads .ne (pos + 2) else some (.error (pos, .loneBang))
    | '<' =>
      if comes text (pos + 1) (· == '=') then reads .le (pos + 2)
      else if comes text (pos + 1) (· == '>') then reads .ne (pos + 2)
      else reads .lt (pos + 1)
    | '>' =>
      if comes text (pos + 1) (· == '=') then reads .ge (pos + 2) else reads .gt (pos + 1)
    | '\'' =>
      (quotedFrom text pos '\'').map fun read =>
        match read with
        | .ok (s, next) => .ok (some (.text s), next)
        | .error e => .error e
    | '"' | '\x60' =>
      (quotedFrom text pos c).map fun read =>
        match read with
        | .ok (s, next) =>
          if s = "" then .error (pos, .emptyQuotedName) else .ok (some (.quotedName s), next)
        | .error e => .error e
    | '.' => if comes text (pos + 1) isDigit then numberFrom text pos else reads .dot (pos + 1)
    | '-' => numberFrom text pos
    | c => if isDigit c then numberFrom text pos else nameFrom text pos c

def step (text : List Char) (pos : Nat) : Outcome Step := (byteAt text pos).bind (stepFrom text pos)

/-- A token as it was walked over: where it starts, and where the walk went on. -/
structure Piece where
  kind : Kind
  start : Nat
  stop : Nat

/-- Walks on through a text. The tokens so far are held backwards. -/
def walkFrom (text : List Char) (soFar : List Piece) (pos : Nat) : Outcome (List Piece) :=
  if pos < (Text.bytes text).length then
    match step text pos with
    | none => none
    | some (.error e) => some (.error e)
    | some (.ok (kind, next)) =>
      if pos < next then
        walkFrom text ((kind.map fun kind => ⟨kind, pos, next⟩).toList ++ soFar) next
      else none
  else some (.ok soFar.reverse)
termination_by (Text.bytes text).length - pos

def walk (text : String) : Outcome (List Piece) := walkFrom text.toList [] 0

/-! ### Readers -/

theorem closing_eq (quote : Char) (soFar : List Char) (count i : Nat) (cs : List Char) :
    closing quote soFar i cs = (readQuoted quote soFar count cs).map fun read =>
      (read.1, i + width (cs.take (read.2 - count))) := by
  have hone (c : Char) (cs : List Char) (count : Nat) :
      (c :: cs).take (count + 1 - count) = [c] := by
    rw [Nat.add_sub_cancel_left]
    rfl
  fun_induction readQuoted quote soFar count cs generalizing i with
  | case1 => rfl
  | case2 soFar count after ih =>
    rw [closing, if_pos rfl, if_pos rfl, ih]
    cases hread : readQuoted quote (quote :: soFar) (count + 2) after with
    | none => rfl
    | some read =>
      obtain ⟨body, rest, -, -, -, hn⟩ := exists_of_readQuoted hread
      obtain ⟨k, hk⟩ : ∃ k, read.2 = count + 2 + k := ⟨read.2 - (count + 2), by omega⟩
      have hleft : read.2 - (count + 2) = k := by omega
      have hright : read.2 - count = k + 1 + 1 := by omega
      rw [Option.map_some, Option.map_some, hleft, hright, List.take_succ_cons, List.take_succ_cons,
        width_cons, width_cons]
      simp only [Nat.add_assoc]
  | case3 soFar count d after hd =>
    rw [closing, if_pos rfl, if_neg hd, Option.map_some, hone]
    rfl
  | case4 soFar count =>
    rw [closing.eq_def]
    dsimp only
    rw [if_pos rfl, Option.map_some, hone]
    rfl
  | case5 soFar count c cs hc ih =>
    rw [closing.eq_def]
    dsimp only
    rw [if_neg hc, ih]
    cases hread : readQuoted quote (c :: soFar) (count + 1) cs with
    | none => rfl
    | some read =>
      obtain ⟨body, rest, -, -, -, hn⟩ := exists_of_readQuoted hread
      obtain ⟨k, hk⟩ : ∃ k, read.2 = count + 1 + k := ⟨read.2 - (count + 1), by omega⟩
      have hleft : read.2 - (count + 1) = k := by omega
      have hright : read.2 - count = k + 1 := by omega
      rw [Option.map_some, Option.map_some, hleft, hright, List.take_succ_cons, width_cons]
      simp only [Nat.add_assoc]

theorem isDigit_ascii (c : Char) (h : isDigit c = true) : c.toNat < 128 :=
  Nat.lt_of_le_of_lt (isDigit_bound h).2 (by decide)

theorem isSign_iff {c : Char} : isSign c = true ↔ c = '-' ∨ c = '+' := by
  rw [isSign, Bool.or_eq_true, beq_iff_eq, beq_iff_eq, or_comm]

theorem isSign_ascii (c : Char) (h : isSign c = true) : c.toNat < 128 := by
  rcases isSign_iff.1 h with rfl | rfl <;> decide

theorem isMark_of_isDigit {c : Char} (h : isDigit c = true) : isMark c = false := by
  refine Bool.eq_false_iff.2 fun hmark => ?_
  rw [isMark, Bool.or_eq_true, beq_iff_eq, beq_iff_eq] at hmark
  rcases hmark with rfl | rfl <;> exact absurd h (by decide)

theorem isMark_of_isSign {c : Char} (h : isSign c = true) : isMark c = false := by
  rcases isSign_iff.1 h with rfl | rfl <;> decide

theorem exists_head_of_any {p : Char → Bool} {cs : List Char} (h : cs.head?.any p = true) :
    ∃ c rest, cs = c :: rest ∧ p c = true := by
  cases cs with
  | nil => cases h
  | cons c rest => exact ⟨c, rest, rfl, h⟩

theorem isAsciiLetter_ascii (c : Char) (h : Text.isAsciiLetter c = true) : c.toNat < 128 := by
  simp only [Text.isAsciiLetter, Bool.or_eq_true, Bool.and_eq_true, decide_eq_true_eq, Char.le_def,
    UInt32.le_iff_toNat_le] at h
  rcases h with ⟨-, h⟩ | ⟨-, h⟩
  · exact Nat.lt_of_le_of_lt h (by decide)
  · exact Nat.lt_of_le_of_lt h (by decide)

theorem runsOn_ascii (c : Char) (h : runsOn c = true) : c.toNat < 128 := by
  rw [runsOn, Bool.or_eq_true, beq_iff_eq] at h
  rcases h with h | rfl
  · exact isAsciiLetter_ascii c h
  · decide

section
variable {before rest : List Char} {c : Char}

theorem numberEnd_cons (before rest : List Char) (c : Char) (float : Bool) :
    numberEnd (before ++ c :: rest) float (width before) =
      if isDigit c then numberEnd (before ++ c :: rest) float (width before + 1)
      else if c = '.' ∧ float = false then numberEnd (before ++ c :: rest) true (width before + 1)
      else if isMark c then
        if rest.head?.any isSign then numberEnd (before ++ c :: rest) true (width before + 2)
        else numberEnd (before ++ c :: rest) true (width before + 1)
      else (float, width before) := by
  have hpoint : lead c = '.' ↔ c = '.' := lead_eq_iff (by decide)
  rw [numberEnd]
  split
  · next hbyte =>
    rw [byteAt_width] at hbyte
    cases hbyte
  · next d hbyte =>
    rw [byteAt_width] at hbyte
    cases hbyte
    simp only [test_lead isDigit_ascii, test_lead fun c h => isMark_ascii h, hpoint]
    by_cases hmark : isMark c = true
    · rw [comes_next isSign_ascii (isMark_ascii hmark)]
    · simp only [hmark, Bool.false_eq_true, if_false]

/-- The bytes of a number end where its characters do. A sign at the front would not be passed over
by itself, but no mark is left before one. -/
theorem numberEnd_eq (before : List Char) {soFar cs body rest : List Char} {float read : Bool}
    (h : readNumber soFar float cs = (body, read, rest))
    (hsign : cs.head?.any isSign = true → soFar.head?.any isMark = false) :
    ∃ used, cs = used ++ rest ∧
      numberEnd (before ++ cs) float (width before) = (read, width before + width used) := by
  induction hlength : cs.length using Nat.strongRecOn generalizing before soFar cs float with
  | ind n ih =>
    cases cs with
    | nil =>
      cases h
      refine ⟨[], rfl, ?_⟩
      rw [List.append_nil, numberEnd]
      split
      · rfl
      · next c hbyte =>
        rw [byteAt_end] at hbyte
        cases hbyte
    | cons c cs =>
      rw [List.length_cons] at hlength
      -- Goes on behind a character that both take.
      have hone {next : Bool} (hc : c.toNat < 128)
          (h : readNumber (c :: soFar) next cs = (body, read, rest))
          (hsign : cs.head?.any isSign = true → isMark c = false) :
          ∃ used, c :: cs = used ++ rest ∧ numberEnd (before ++ c :: cs) next (width before + 1) =
            (read, width before + width used) := by
        obtain ⟨used, rfl, hend⟩ := ih cs.length (by omega) (before ++ [c]) h hsign rfl
        refine ⟨c :: used, rfl, ?_⟩
        rw [List.append_cons, ← width_append_ascii before hc, hend, width_append_ascii before hc,
          width_cons, utf8Size_of_ascii hc, Nat.add_assoc]
      rw [numberEnd_cons]
      rw [readNumber] at h
      split at h
      · next hdigit =>
        rw [if_pos hdigit]
        exact hone (isDigit_ascii c hdigit) h fun _ => isMark_of_isDigit hdigit
      · next hdigit =>
        rw [if_neg hdigit]
        split at h
        · next hpoint =>
          rw [if_pos hpoint]
          rw [hpoint.1] at h hone ⊢
          exact hone (by decide) h fun _ => rfl
        · next hpoint =>
          rw [if_neg hpoint]
          split at h
          · next hmark =>
            have hc : c.toNat < 128 := isMark_ascii hmark
            rw [if_pos hmark]
            split
            · next hnext =>
              obtain ⟨d, ds, rfl, hd⟩ := exists_head_of_any hnext
              rw [readNumber_sign hmark (isSign_iff.1 hd)] at h
              rw [List.length_cons] at hlength
              obtain ⟨used, rfl, hend⟩ := ih ds.length (by omega) (before ++ [c] ++ [d]) h
                (fun _ => isMark_of_isSign hd) rfl
              refine ⟨c :: d :: used, rfl, ?_⟩
              rw [width_append_ascii _ (isSign_ascii d hd), width_append_ascii _ hc] at hend
              rw [List.append_cons, List.append_cons, hend, width_cons, width_cons,
                utf8Size_of_ascii hc, utf8Size_of_ascii (isSign_ascii d hd)]
              rw [Nat.add_assoc (width before + 1), Nat.add_assoc (width before)]
            · next hnext => exact hone hc h fun hd => absurd hd hnext
          · next hmark =>
            rw [if_neg hmark]
            split at h
            · next hboth =>
              rw [hsign (isSign_iff.2 hboth.1.symm)] at hboth
              cases hboth.2
            · cases h
              exact ⟨[], rfl, rfl⟩

end

/-- What a front comes to as a step from a byte, where the characters start that it is the front of. -/
def moved (pos : Nat) (cs : List Char) : Front → Except (Nat × Condition.Flaw) Step
  | .ok (kind, more) => .ok (some kind, pos + width (cs.take (more + 1)))
  | .error (after, flaw) => .error (pos + after, flaw)

section
variable {cs minus body rest : List Char} {float : Bool}

theorem Numeral.digits_eq (h : Numeral cs minus body float rest) (before : List Char) {c : Char}
    (hc : cs.head? = some c) :
    (if lead c = '-' then width before + 1 else width before) = width (before ++ minus) := by
  rcases h.sign with rfl | ⟨rfl, hhead⟩
  · rw [h.whole] at hc
    have hminus : c = '-' := (Option.some.inj hc).symm
    rw [if_pos ((lead_eq_iff (by decide)).2 hminus), width_append_ascii before (by decide)]
  · have hminus : c ≠ '-' := fun heq => hhead (by rw [hc, heq])
    rw [if_neg (mt (lead_eq_iff (by decide)).1 hminus), List.append_nil]

theorem Numeral.numberEnd_eq (h : Numeral cs minus body float rest) (before : List Char) :
    numberEnd (before ++ cs) false (width (before ++ minus)) =
      (float, width before + width (minus ++ body)) := by
  obtain ⟨used, hused, hend⟩ := Token.numberEnd_eq (before ++ minus) h.read fun _ => rfl
  obtain rfl : body = used := List.append_cancel_right hused
  rw [h.whole, ← List.append_assoc, hend, width_append, width_append, Nat.add_assoc]

theorem Numeral.slice_eq (h : Numeral cs minus body float rest) (before : List Char) :
    slice (before ++ cs) (width before) (width before + width (minus ++ body)) =
      some (minus ++ body) := by
  rw [h.whole, ← List.append_assoc minus]
  exact slice_width before (minus ++ body) rest

theorem Numeral.comes_eq (h : Numeral cs minus body float rest) (before : List Char) :
    comes (before ++ cs) (width before + width (minus ++ body)) runsOn = rest.head?.any runsOn := by
  rw [h.whole, ← List.append_assoc minus, ← List.append_assoc, ← width_append]
  exact comes_width runsOn_ascii _ rest

theorem width_numeral_iff (before minus body : List Char) :
    width before + width (minus ++ body) = width (before ++ minus) ↔ body = [] := by
  rw [width_append, width_append]
  cases body with
  | nil => exact ⟨fun _ => rfl, fun _ => rfl⟩
  | cons c body =>
    have hpos := width_cons_pos c body
    exact ⟨fun heq => absurd heq (by omega), fun heq => (by cases heq)⟩

/-- A point is no number of its own where a digit comes behind it. -/
theorem Numeral.ne_point (h : Numeral cs minus body float rest)
    (hpoint : cs.head? = some '.' → cs.tail.head?.any isDigit = true) : minus ++ body ≠ ['.'] := by
  intro heq
  have hwhole : cs = '.' :: rest := by
    rw [h.whole, ← List.append_assoc, heq]
    rfl
  rw [hwhole] at hpoint
  have hdigit : rest.head?.any isDigit = true := hpoint rfl
  rw [h.stops] at hdigit
  cases hdigit

theorem Numeral.take_eq (h : Numeral cs minus body float rest) (hne : body ≠ []) :
    cs.take ((minus ++ body).length - 1 + 1) = minus ++ body := by
  have hpos : 0 < (minus ++ body).length :=
    List.length_pos_iff.2 (List.append_ne_nil_of_right_ne_nil minus hne)
  rw [Nat.sub_add_cancel hpos, h.whole, ← List.append_assoc, List.take_left]

end

/-- **A number is read from its bytes as from its characters.** -/
theorem numberFrom_eq {before cs : List Char} (hne : cs ≠ [])
    (hpoint : cs.head? = some '.' → cs.tail.head?.any isDigit = true) :
    numberFrom (before ++ cs) (width before) = some (moved (width before) cs (number cs)) := by
  obtain ⟨minus, body, float, rest, h⟩ := exists_numeral cs
  obtain ⟨c, tail, rfl⟩ := List.exists_cons_of_ne_nil hne
  rw [h.number_eq, numberFrom, byteAt_width, Option.bind_some]
  dsimp only
  rw [h.digits_eq before rfl, h.numberEnd_eq before]
  dsimp only
  rw [h.slice_eq before, Option.map_some, h.comes_eq before]
  simp only [width_numeral_iff, h.ne_point hpoint, or_false]
  refine congrArg some ?_
  split
  · rfl
  · next hshort =>
    have htake := h.take_eq fun hbody => hshort (.inl hbody)
    split
    · rw [moved, ← h.ascii_written.width_eq]
    · unfold valued
      split
      · cases Double.read? (minus ++ body) with
        | none => rfl
        | some d => simp only [moved, htake]
      · cases IntegerKind.int64.read (minus ++ body) with
        | error fault => rfl
        | ok i => simp only [moved, htake]

section
variable {before rest : List Char} {c : Char}

theorem quotedFrom_eq {quote : Char} (hquote : quote.toNat < 128) :
    quotedFrom (before ++ quote :: rest) (width before) quote =
      some (match readQuoted quote [] 0 rest with
        | some (s, count) => .ok (s, width before + width (quote :: rest.take count))
        | none => .error (width before, .unterminated quote)) := by
  rw [quotedFrom, List.append_cons, ← width_append_ascii before hquote, sliceFrom_width,
    Option.map_some, closing_eq quote [] 0 0 rest]
  cases readQuoted quote [] 0 rest with
  | none => rfl
  | some read =>
    obtain ⟨s, count⟩ := read
    simp only [Option.map_some, Nat.zero_add, Nat.sub_zero, width_append_ascii before hquote,
      width_cons, utf8Size_of_ascii hquote, Nat.add_assoc]

theorem nameEnd_eq (pos : Nat) (cs : List Char) :
    nameEnd pos cs = pos + width (cs.takeWhile continuesName) := by
  induction cs generalizing pos with
  | nil => rfl
  | cons c rest ih =>
    rw [nameEnd, List.takeWhile_cons]
    split
    · rw [ih, width_cons, Nat.add_assoc]
    · rfl

theorem continuesName_of_beginsName (h : beginsName c = true) : continuesName c = true := by
  rw [beginsName, Bool.or_eq_true] at h
  rw [continuesName, Text.isAlphanumeric, Bool.or_eq_true, Bool.or_eq_true, Bool.or_eq_true]
  exact h.elim (fun h => .inl (.inl h)) fun h => .inr (.inl h)

theorem namedAt_eq (before rest : List Char) (c : Char) :
    namedAt (before ++ c :: rest) (width before) (lead c) = some (beginsName c) := by
  have hmark : (lead c == '_') = (c == '_') := by
    rw [Bool.eq_iff_iff, beq_iff_eq, beq_iff_eq, lead_eq_iff (by decide)]
  rw [namedAt, hmark, test_lead isAsciiLetter_ascii, beginsName, Text.isAlphabetic]
  by_cases hc : c.toNat < 128
  · rw [lead_ascii hc, if_pos hc, if_pos hc]
    cases c == '_' || Text.isAsciiLetter c <;> rfl
  · have hletter : Text.isAsciiLetter c = false :=
      Bool.eq_false_iff.2 fun h => hc (isAsciiLetter_ascii c h)
    have hother : (c == '_') = false := beq_eq_false_iff_ne.2 fun h => hc (by rw [h]; decide)
    rw [hletter, hother, Bool.or_self, if_neg Bool.false_ne_true, if_neg (lead_wide hc),
      sliceFrom_width, if_neg hc, Option.map_some, Bool.false_or, List.head?_cons, Option.any_some,
      Text.isAlphabetic, if_neg hc]

theorem nameFrom_eq (before rest : List Char) (c : Char) :
    nameFrom (before ++ c :: rest) (width before) (lead c) = some (moved (width before) (c :: rest)
      (if beginsName c then name c rest else .error (0, .unexpectedCharacter c))) := by
  rw [nameFrom, namedAt_eq, Option.bind_some, sliceFrom_width, Option.bind_some]
  split
  · next hbegins =>
    have hname : (c :: rest).takeWhile continuesName = c :: rest.takeWhile continuesName := by
      rw [List.takeWhile_cons, if_pos (continuesName_of_beginsName hbegins)]
    have hwhole : c :: rest = c :: rest.takeWhile continuesName ++ rest.dropWhile continuesName := by
      rw [List.cons_append, List.takeWhile_append_dropWhile]
    have htake : (c :: rest).take ((rest.takeWhile continuesName).length + 1) =
        c :: rest.takeWhile continuesName := by
      rw [List.take_succ_cons]
      exact congrArg _ (List.prefix_iff_eq_take.1 (List.takeWhile_prefix continuesName)).symm
    have hslice : slice (before ++ c :: rest) (width before)
        (width before + width (c :: rest.takeWhile continuesName)) =
          some (c :: rest.takeWhile continuesName) := by
      conv => lhs; rw [hwhole]
      exact slice_width before _ _
    dsimp only
    rw [nameEnd_eq, hname, hslice, Option.map_some, name, moved, htake]
  · rfl

/-- A step from a byte that begins neither a blank nor anything of a fixed spelling. -/
theorem stepFrom_plain (text : List Char) (pos : Nat) (hspace : isSpace c = false) (h : c ∉ signs) :
    stepFrom text pos c = if isDigit c then numberFrom text pos else nameFrom text pos c := by
  unfold stepFrom
  rw [hspace, if_neg Bool.false_ne_true]
  split
  all_goals first | rfl | exact absurd (by decide) h

end

/-! ### Steps -/

/-- Where a character starts that is no blank, a step reads what the character's front says. -/
def Follows (before : List Char) (c : Char) (rest : List Char) : Prop :=
  stepFrom (before ++ c :: rest) (width before) (lead c) =
    some (moved (width before) (c :: rest) (front c rest))

section
variable (before rest : List Char)

theorem follows_single {c : Char} (h : c ∈ singles) : Follows before c rest := by
  simp only [singles, List.mem_cons, List.not_mem_nil, or_false] at h
  unfold Follows
  rcases h with rfl | rfl | rfl | rfl | rfl | rfl
  all_goals rw [lead_ascii (by decide)]
  all_goals rfl

theorem follows_bang : Follows before '!' rest := by
  have hstep (text : List Char) (pos : Nat) : stepFrom text pos '!' =
      if comes text (pos + 1) (· == '=') then reads .ne (pos + 2)
      else some (.error (pos, .loneBang)) := rfl
  rw [Follows, lead_ascii (by decide), hstep, comes_eq (by decide) (by decide), front_bang]
  simp only [decide_eq_true_eq]
  split
  · next hd =>
    obtain ⟨after, rfl⟩ := List.head?_eq_some_iff.1 hd
    rfl
  · rfl

theorem follows_less : Follows before '<' rest := by
  have hstep (text : List Char) (pos : Nat) : stepFrom text pos '<' =
      if comes text (pos + 1) (· == '=') then reads .le (pos + 2)
      else if comes text (pos + 1) (· == '>') then reads .ne (pos + 2)
      else reads .lt (pos + 1) := rfl
  rw [Follows, lead_ascii (by decide), hstep, comes_eq (by decide) (by decide),
    comes_eq (by decide) (by decide), front_less]
  simp only [decide_eq_true_eq]
  split
  · next hd =>
    obtain ⟨after, rfl⟩ := List.head?_eq_some_iff.1 hd
    rfl
  · split
    · next hd =>
      obtain ⟨after, rfl⟩ := List.head?_eq_some_iff.1 hd
      rfl
    · rfl

theorem follows_greater : Follows before '>' rest := by
  have hstep (text : List Char) (pos : Nat) : stepFrom text pos '>' =
      if comes text (pos + 1) (· == '=') then reads .ge (pos + 2) else reads .gt (pos + 1) := rfl
  rw [Follows, lead_ascii (by decide), hstep, comes_eq (by decide) (by decide), front_greater]
  simp only [decide_eq_true_eq]
  split
  · next hd =>
    obtain ⟨after, rfl⟩ := List.head?_eq_some_iff.1 hd
    rfl
  · rfl

theorem follows_text : Follows before '\'' rest := by
  have hstep (text : List Char) (pos : Nat) : stepFrom text pos '\'' =
      (quotedFrom text pos '\'').map fun read =>
        match read with
        | .ok (s, next) => .ok (some (.text s), next)
        | .error e => .error e := rfl
  have hfront : front '\'' rest = quotedText rest := rfl
  rw [Follows, lead_ascii (by decide), hstep, quotedFrom_eq (by decide), hfront, quotedText]
  cases readQuoted '\'' [] 0 rest with
  | none => rfl
  | some read => rfl

theorem follows_quotedName {c : Char} (h : c = '"' ∨ c = '\x60') : Follows before c rest := by
  have hstep (text : List Char) (pos : Nat) : stepFrom text pos c =
      (quotedFrom text pos c).map fun read =>
        match read with
        | .ok (s, next) =>
          if s = "" then .error (pos, .emptyQuotedName) else .ok (some (.quotedName s), next)
        | .error e => .error e := by
    rcases h with rfl | rfl <;> rfl
  have hfront : front c rest = quotedName c rest := by rcases h with rfl | rfl <;> rfl
  have hc : c.toNat < 128 := by rcases h with rfl | rfl <;> decide
  rw [Follows, lead_ascii hc, hstep, quotedFrom_eq hc, hfront, quotedName]
  cases readQuoted c [] 0 rest with
  | none => rfl
  | some read =>
    obtain ⟨s, count⟩ := read
    dsimp only
    by_cases hs : s = ""
    · rw [if_pos hs, Option.map_some]
      exact congrArg some (if_pos hs)
    · rw [if_neg hs, Option.map_some]
      exact congrArg some (if_neg hs)

theorem follows_point : Follows before '.' rest := by
  have hstep (text : List Char) (pos : Nat) : stepFrom text pos '.' =
      if comes text (pos + 1) isDigit then numberFrom text pos else reads .dot (pos + 1) := rfl
  rw [Follows, lead_ascii (by decide), hstep, comes_next isDigit_ascii (by decide), front_point]
  split
  · next hdigit => exact numberFrom_eq (List.cons_ne_nil _ _) fun _ => hdigit
  · rfl

theorem follows_minus : Follows before '-' rest := by
  have hstep (text : List Char) (pos : Nat) : stepFrom text pos '-' = numberFrom text pos := rfl
  rw [Follows, lead_ascii (by decide), hstep]
  exact numberFrom_eq (List.cons_ne_nil _ _) fun h => by cases h

theorem follows_plain {c : Char} (hspace : isSpace c = false) (h : c ∉ signs) :
    Follows before c rest := by
  have hall : signs.all (fun d => decide (d.toNat < 128)) = true := by decide
  have hascii (d : Char) (hd : signs.elem d = true) : d.toNat < 128 :=
    of_decide_eq_true (List.all_eq_true.1 hall d (List.elem_iff.1 hd))
  have hsigns : lead c ∉ signs := by
    have htest := test_lead hascii c
    rwa [Bool.eq_iff_iff, List.elem_iff, List.elem_iff, iff_false_right h] at htest
  rw [Follows, stepFrom_plain _ _ (by rw [test_lead isSpace_ascii, hspace]) hsigns,
    test_lead isDigit_ascii, front_plain h]
  split
  · next hdigit =>
    refine numberFrom_eq (List.cons_ne_nil _ _) fun hhead => ?_
    rw [Option.some.inj hhead] at hdigit
    cases hdigit
  · exact nameFrom_eq before rest c

/-- **Where a character starts, a step does what its front says**, and takes no slice that fails. -/
theorem step_eq (c : Char) : step (before ++ c :: rest) (width before) =
    some (if isSpace c then .ok (none, width before + 1)
      else moved (width before) (c :: rest) (front c rest)) := by
  rw [step, byteAt_width, Option.bind_some]
  cases hspace : isSpace c with
  | true =>
    unfold stepFrom
    rw [test_lead isSpace_ascii, hspace, if_pos rfl, if_pos rfl]
  | false =>
    rw [if_neg Bool.false_ne_true]
    rcases front_ways c with hsingle | rfl | rfl | rfl | rfl | hquote | rfl | rfl | hplain
    · exact follows_single before rest hsingle
    · exact follows_bang before rest
    · exact follows_less before rest
    · exact follows_greater before rest
    · exact follows_text before rest
    · exact follows_quotedName before rest hquote
    · exact follows_point before rest
    · exact follows_minus before rest
    · exact follows_plain before rest hspace hplain

end

/-! ### Whole texts -/

/-- A token as the walk tells it. -/
def piece (t : Token) : Piece := ⟨t.kind, t.offset, t.finish⟩

/-- A step goes on to where a character starts, or to the end. -/
theorem step_forward (before rest : List Char) (c : Char) {kind : Option Kind} {next : Nat}
    (h : step (before ++ c :: rest) (width before) = some (.ok (kind, next))) :
    ∃ used after, c :: rest = used ++ after ∧ used ≠ [] ∧ next = width before + width used := by
  rw [step_eq] at h
  cases exists_cut (width before) c rest with
  | space hspace hscan =>
    rw [if_pos hspace] at h
    cases h
    refine ⟨[c], rest, rfl, List.cons_ne_nil c [], ?_⟩
    rw [width_cons, utf8Size_of_isSpace hspace]
    rfl
  | @token read used after hspace happend hfront halone hscan =>
    subst happend
    rw [hspace, if_neg Bool.false_ne_true, hfront, moved, List.take_succ_cons, List.take_left] at h
    cases h
    exact ⟨c :: used, after, rfl, List.cons_ne_nil c used, rfl⟩
  | @flaw used more flaw hspace happend hne hfront hscan =>
    rw [hspace, if_neg Bool.false_ne_true, hfront] at h
    cases h

/-- **A walk from where a character starts ends as the scan from there.** -/
theorem walkFrom_eq (soFar : List Token) (before cs : List Char) :
    walkFrom (before ++ cs) (soFar.map piece) (width before) =
      some ((scan soFar (width before) 0 cs).map (List.map piece)) := by
  induction hlength : cs.length using Nat.strongRecOn generalizing soFar before cs with
  | ind n ih =>
    have hsize : (Text.bytes (before ++ cs)).length = width before + width cs := by
      rw [length_bytes, width_append]
    rw [walkFrom, hsize]
    cases cs with
    | nil =>
      have hend : ¬width before < width before + width [] := Nat.lt_irrefl _
      rw [if_neg hend, ← List.map_reverse]
      rfl
    | cons c rest =>
      rw [List.length_cons] at hlength
      have hpos := width_cons_pos c rest
      rw [if_pos (Nat.lt_add_of_pos_right hpos), step_eq]
      cases exists_cut (width before) c rest with
      | space hspace hscan =>
        have hwidth := width_append_ascii before (isSpace_ascii c hspace)
        have hrest := ih rest.length (by omega) soFar (before ++ [c]) rest rfl
        rw [hwidth, ← List.append_cons] at hrest
        rw [if_pos hspace, hscan]
        dsimp only
        rw [if_pos (Nat.lt_succ_self _)]
        exact hrest
      | @token kind used after hspace happend hfront halone hscan =>
        subst happend
        rw [List.length_append] at hlength
        have hrest := ih after.length (by omega) (⟨kind, width before, c :: used⟩ :: soFar)
          (before ++ c :: used) after rfl
        rw [width_append, List.append_assoc, List.cons_append] at hrest
        rw [hspace, if_neg Bool.false_ne_true, hfront, moved, List.take_succ_cons, List.take_left,
          hscan]
        dsimp only
        rw [if_pos (Nat.lt_add_of_pos_right (width_cons_pos c used))]
        exact hrest
      | @flaw used more flaw hspace happend hne hfront hscan =>
        rw [hspace, if_neg Bool.false_ne_true, hfront, hscan]
        rfl

/-- **The walk over the bytes of a text never fails, and ends as the scan of its characters.** -/
theorem walk_eq (text : String) : walk text = some ((tokens text).map (List.map piece)) :=
  walkFrom_eq [] [] text.toList

/-- **No character is cut and nothing but white space is skipped.** A slice fails unless it starts and
ends where characters do. The walk over the bytes of any text takes no slice that fails and goes
forward with every step, so it ends, and as the scan does. The
tokens it finds have spans of their own, in order, with white space between them and around them, and
each is read from the characters in its span alone. A flaw shows where a character starts. -/
theorem cuts_no_character (text : String) :
    (∀ start, (sliceFrom text.toList start).isSome = true ↔
      (⟨start⟩ : String.Pos.Raw).IsValid text) ∧
      (∀ start stop, (slice text.toList start stop).isSome = true ↔ start ≤ stop ∧
        (⟨start⟩ : String.Pos.Raw).IsValid text ∧ (⟨stop⟩ : String.Pos.Raw).IsValid text) ∧
      walk text = some ((tokens text).map (List.map piece)) ∧
      (∀ pos, (⟨pos⟩ : String.Pos.Raw).IsValid text → pos < text.utf8ByteSize →
        ∃ outcome, step text.toList pos = some outcome ∧ ∀ kind next, outcome = .ok (kind, next) →
          pos < next ∧ (⟨next⟩ : String.Pos.Raw).IsValid text) ∧
      (∀ ts, tokens text = .ok ts →
        ts.Pairwise (fun t u => t.finish ≤ u.offset) ∧ ts.Pairwise (·.offset < ·.offset) ∧
          (∀ t ∈ ts, t.offset < t.finish ∧ (⟨t.offset⟩ : String.Pos.Raw).IsValid text ∧
            (⟨t.finish⟩ : String.Pos.Raw).IsValid text ∧
            slice text.toList t.offset t.finish = some t.written ∧
            tokens (String.ofList t.written) = .ok [{ t with offset := 0 }]) ∧
          ∀ pos < text.utf8ByteSize, (∀ t ∈ ts, ¬(t.offset ≤ pos ∧ pos < t.finish)) →
            ∃ b, text.toUTF8.data.toList[pos]? = some b ∧ isSpace (Char.ofUInt8 b) = true) ∧
      ∀ o flaw, tokens text = .error (o, flaw) →
        (⟨o⟩ : String.Pos.Raw).IsValid text ∧ o < text.utf8ByteSize := by
  have hsize : text.utf8ByteSize = width text.toList := by rw [← width_ofList, String.ofList_toList]
  refine ⟨fun _ => isSome_sliceFrom_iff, fun _ _ => isSome_slice_iff, walk_eq text,
    fun pos hvalid hpos => ?_, fun ts h => ?_, fun o flaw h => ?_⟩
  · obtain ⟨before, rest, happend, rfl⟩ := isValid_iff.1 hvalid
    cases rest with
    | nil =>
      rw [hsize, happend, List.append_nil] at hpos
      exact absurd hpos (Nat.lt_irrefl _)
    | cons c rest =>
      rw [happend]
      refine ⟨_, step_eq before rest c, fun kind next hstep => ?_⟩
      obtain ⟨used, after, hused, hne, rfl⟩ := step_forward before rest c
        ((step_eq before rest c).trans (congrArg some hstep))
      obtain ⟨d, more, rfl⟩ := List.exists_cons_of_ne_nil hne
      refine ⟨Nat.lt_add_of_pos_right (width_cons_pos d more), isValid_iff.2 ?_⟩
      refine ⟨before ++ d :: more, after, ?_, width_append before (d :: more)⟩
      rw [happend, hused, List.append_assoc]
  · obtain ⟨more, rfl, hlaid⟩ := scan_laid h
    have hapart := hlaid.apart
    refine ⟨hapart, ?_, fun t ht => ?_, fun pos hpos hout => ?_⟩
    · refine hapart.imp_of_mem fun {t u} ht _ hle => ?_
      exact Nat.lt_of_lt_of_le (hlaid.within t ht).2.1 hle
    · obtain ⟨⟨before, after, happend, hoffset⟩, c, used, hwritten, hspace, hfront⟩ := hlaid.stands t ht
      rw [Nat.zero_add] at hoffset
      have hfinish : t.finish = width (before ++ t.written) := by
        rw [finish, hoffset, width_append]
      refine ⟨(hlaid.within t ht).2.1, isValid_iff.2 ⟨before, _, happend, hoffset.symm⟩,
        isValid_iff.2 ⟨before ++ t.written, after, ?_, hfinish.symm⟩, ?_, ?_⟩
      · rw [happend, List.append_assoc]
      · rw [happend, finish, hoffset]
        exact slice_width before t.written after
      · rw [hwritten]
        exact tokens_alone hspace hfront
    · rw [hsize, ← Nat.zero_add (width text.toList)] at hpos
      obtain ⟨before, c, after, happend, rfl, hspace⟩ := hlaid.gap (Nat.zero_le pos) hpos hout
      have hbyte : byteAt text.toList (width before) = some c := by
        rw [happend, byteAt_width, lead_ascii (isSpace_ascii c hspace)]
      rw [byteAt, Text.bytes_toList, Option.map_eq_some_iff] at hbyte
      obtain ⟨b, hb, rfl⟩ := hbyte
      rw [Nat.zero_add]
      exact ⟨b, hb, hspace⟩
  · obtain ⟨used, more, happend, hne, rfl⟩ := scan_flaw h
    rw [Nat.zero_add]
    refine ⟨isValid_iff.2 ⟨used, more, happend, rfl⟩, ?_⟩
    obtain ⟨c, rest, rfl⟩ := List.exists_cons_of_ne_nil hne
    rw [hsize, happend, width_append]
    exact Nat.lt_add_of_pos_right (width_cons_pos c rest)

/-- A character of two bytes, within a token. -/
def halfText : String := "a='½' "

def halfTokens : List Token :=
  [⟨.name "a", 0, ['a']⟩, ⟨.eq, 1, ['=']⟩, ⟨.text "½", 2, ['\'', '½', '\'']⟩]

/-- The flaw shows behind the two bytes. -/
def flawedText : String := "'½'!"

theorem cuts_no_character_half :
    tokens halfText = .ok halfTokens ∧ walk halfText = some (.ok (halfTokens.map piece)) ∧
      slice halfText.toList 2 6 = some ['\'', '½', '\''] ∧
      tokens (String.ofList ['\'', '½', '\'']) = .ok [⟨.text "½", 0, ['\'', '½', '\'']⟩] ∧
      (∃ b, halfText.toUTF8.data.toList[6]? = some b ∧ isSpace (Char.ofUInt8 b) = true) ∧
      (∃ outcome, step halfText.toList 2 = some outcome) ∧
      tokens flawedText = .error (4, .loneBang) ∧ (⟨4⟩ : String.Pos.Raw).IsValid flawedText := by
  have htokens : tokens halfText = .ok halfTokens := tokens_eq_ok_of_toOption (by decide +kernel)
  have hflaw : tokens flawedText = .error (4, .loneBang) := by
    have hread : (match tokens flawedText with
        | .error (o, .loneBang) => o == 4
        | .error _ => false
        | .ok _ => false) = true := by decide +kernel
    generalize tokens flawedText = read at hread ⊢
    split at hread
    · rw [beq_iff_eq.1 hread]
    · cases hread
    · cases hread
  obtain ⟨-, -, hwalk, hsteps, hspans, -⟩ := cuts_no_character halfText
  obtain ⟨-, -, -, -, -, hflaws⟩ := cuts_no_character flawedText
  obtain ⟨-, -, halone, hgaps⟩ := hspans halfTokens htokens
  obtain ⟨-, hvalid, -, hslice, hread⟩ :=
    halone ⟨.text "½", 2, ['\'', '½', '\'']⟩ (by decide)
  obtain ⟨outcome, hstep, -⟩ := hsteps 2 hvalid (by decide +kernel)
  rw [htokens] at hwalk
  exact ⟨htokens, hwalk, hslice, hread, hgaps 6 (by decide +kernel) (by decide +kernel),
    ⟨outcome, hstep⟩, hflaw, (hflaws 4 _ hflaw).1⟩

end Watchpost.Token
