import Watchpost.Pattern.Reader

/-! Reading a text that is closed behind.

A text that is read by itself is read in the same way when a parenthesis and a dollar sign follow
it, up to them (`Framed`). There is one thing that may happen to these: a comment that the text
ends in takes them in. -/
namespace Watchpost.Pattern

/-- What closes a group and a whole pattern. -/
def closing : List Char := [')', '$']

/-- What is left of a text and what is left of it when it is closed. -/
def Left (rest more : List Char) : Prop := more = rest ++ closing ∨ (rest = [] ∧ more = [])

theorem Left.cons_of {c : Char} {rest more : List Char} (h : Left (c :: rest) more) :
    more = c :: (rest ++ closing) := by
  rcases h with h | ⟨h, -⟩
  · exact h
  · cases h

/-- A text that is closed is what is left of it, closed. -/
theorem left_append (rest : List Char) : Left rest (rest ++ closing) := .inl rfl

/-- Whatever is left, one text is left of both, or nothing is. -/
theorem Left.split {rest more : List Char} (h : Left rest more) :
    (rest = [] ∧ (more = closing ∨ more = [])) ∨
      ∃ c cs, rest = c :: cs ∧ more = c :: (cs ++ closing) := by
  cases rest with
  | nil =>
    rcases h with rfl | ⟨-, rfl⟩
    · exact .inl ⟨rfl, .inl rfl⟩
    · exact .inl ⟨rfl, .inr rfl⟩
  | cons c cs => exact .inr ⟨c, cs, rfl, h.cons_of⟩

/-- A character that closes nothing begins both, or none of them. -/
theorem Left.begins {rest more : List Char} (h : Left rest more) {c : Char} (hc : c ≠ ')') :
    (∃ text, rest = c :: text ∧ more = c :: (text ++ closing)) ∨
      (∀ text, rest ≠ c :: text) ∧ ∀ text, more ≠ c :: text := by
  have hnil (text : List Char) : [] ≠ c :: text := (List.cons_ne_nil c text).symm
  rcases h.split with ⟨rfl, rfl | rfl⟩ | ⟨d, text, rfl, rfl⟩
  · exact .inr ⟨hnil, fun _ heq => hc (List.cons.inj heq).1.symm⟩
  · exact .inr ⟨hnil, hnil⟩
  · by_cases hd : d = c
    · subst hd
      exact .inl ⟨text, rfl, rfl⟩
    · exact .inr ⟨fun _ heq => hd (List.cons.inj heq).1, fun _ heq => hd (List.cons.inj heq).1⟩

/-- A reader that reads a closed text as it reads the text. -/
def Framed {α : Type} (read : List Char → Option (α × List Char)) : Prop :=
  ∀ ⦃cs more rest : List Char⦄ ⦃x : α⦄, Left cs more → read cs = some (x, rest) →
    ∃ left, read more = some (x, left) ∧ Left rest left

/-- Readers one after the other read a closed text as the text, if each of them does. -/
theorem Framed.bind {α β : Type} {read : List Char → Option (α × List Char)}
    {next : α → List Char → Option (β × List Char)} (hread : Framed read)
    (hnext : ∀ x, Framed (next x)) :
    Framed fun cs => (read cs).bind fun out => next out.1 out.2 := by
  intro cs more rest y hleft h
  obtain ⟨⟨x, between⟩, hx, hy⟩ := Option.bind_eq_some_iff.1 h
  obtain ⟨after, hafter, hleft'⟩ := hread hleft hx
  obtain ⟨left, hnext', hrest⟩ := hnext x hleft' hy
  exact ⟨left, Option.bind_eq_some_iff.2 ⟨(x, after), hafter, hnext'⟩, hrest⟩

/-- What is settled by what was read before. -/
theorem framed_settled {α β : Type} (found : Option α) (f : α → β) :
    Framed fun cs => found.map fun x => (f x, cs) := by
  intro cs more rest y hleft h
  obtain ⟨x, hx, heq⟩ := Option.map_eq_some_iff.1 h
  cases heq
  exact ⟨more, by rw [hx]; rfl, hleft⟩

/-! ### Layout -/

/-- Behind blanks and comments the same is left, unless a comment takes in what closes. -/
theorem dropLayout_left (inComment : Bool) (cs : List Char) :
    Left (dropLayout inComment cs) (dropLayout inComment (cs ++ closing)) := by
  induction cs generalizing inComment with
  | nil =>
    cases inComment with
    | true => exact .inr ⟨rfl, rfl⟩
    | false => exact .inl rfl
  | cons c cs ih =>
    rw [List.cons_append, dropLayout, dropLayout]
    split
    · exact ih _
    · split
      · exact ih _
      · split
        · exact ih _
        · exact left_append (c :: cs)

/-- Skipping leaves the same, whether or not layout is skipped. -/
theorem Left.skip {cs more : List Char} (h : Left cs more) (flags : Flags) :
    Left (skip flags cs) (skip flags more) := by
  unfold Pattern.skip
  split
  · rcases h with rfl | ⟨rfl, rfl⟩
    · exact dropLayout_left false cs
    · exact .inr ⟨rfl, rfl⟩
  · exact h

theorem skip_closing (flags : Flags) : skip flags closing = closing := by
  unfold skip
  split <;> rfl

theorem Framed.skip {α : Type} {read : List Char → Option (α × List Char)} (h : Framed read)
    (flags : Flags) : Framed fun cs => read (skip flags cs) :=
  fun _ _ _ _ hleft => h (hleft.skip flags)

/-- What is collected up to a character is collected in a closed text too, as the character stands
before what closes it. -/
theorem collect_closing {flags : Flags} {accept : Char → Bool} {inComment : Bool} {cs : List Char}
    {taken left : List Char} {c : Char} (h : collect flags accept inComment cs = (taken, c :: left)) :
    collect flags accept inComment (cs ++ closing) = (taken, c :: (left ++ closing)) := by
  induction cs generalizing inComment taken with
  | nil => cases h
  | cons d cs ih =>
    rw [collect] at h
    rw [List.cons_append, collect]
    split
    · next hcomment =>
      rw [if_pos hcomment] at h
      exact ih h
    · next hcomment =>
      rw [if_neg hcomment] at h
      split
      · next hblank =>
        rw [if_pos hblank] at h
        exact ih h
      · next hblank =>
        rw [if_neg hblank] at h
        split
        · next hhash =>
          rw [if_pos hhash] at h
          exact ih h
        · next hhash =>
          rw [if_neg hhash] at h
          split
          · next haccept =>
            rw [if_pos haccept] at h
            dsimp only at h ⊢
            obtain ⟨hfirst, hrest⟩ := Prod.mk.inj h
            subst hfirst
            have hnext : collect flags accept false cs =
                ((collect flags accept false cs).1, c :: left) := Prod.ext rfl hrest
            rw [ih hnext]
          · next haccept =>
            rw [if_neg haccept] at h
            cases h
            rfl

/-! ### Escapes -/

namespace Escape

/-- Digits that are counted are all in the text, so none is looked for behind it. -/
theorem framed_readFixedHex (flags : Flags) (n value : Nat) :
    Framed (readFixedHex flags n value) := by
  induction n generalizing value with
  | zero =>
    intro cs more rest x hleft h
    cases h
    exact ⟨more, rfl, hleft⟩
  | succ n ih =>
    intro cs more rest x hleft h
    cases cs with
    | nil => cases h
    | cons c cs =>
      rw [hleft.cons_of]
      rw [readFixedHex] at h ⊢
      obtain ⟨d, hd, h⟩ := Option.bind_eq_some_iff.1 h
      rw [hd]
      exact ih _ ((left_append cs).skip flags) h

/-- Digits in braces end with the brace. -/
theorem framed_readBracedHex (flags : Flags) : Framed (readBracedHex flags) := by
  intro cs more rest x hleft h
  unfold readBracedHex at h
  split at h
  · cases h
  · next digits after hne hcollect =>
    cases h
    cases cs with
    | nil => cases hcollect
    | cons c cs =>
      rw [hleft.cons_of]
      have hagain := collect_closing hcollect
      refine ⟨skip flags (after ++ closing), ?_, (left_append after).skip flags⟩
      unfold readBracedHex
      rw [List.cons_append] at hagain
      rw [hagain]
      cases digits with
      | nil => exact absurd rfl hne
      | cons d digits => rfl
  · cases h

theorem framed_ofHex {read : List Char → Option (Nat × List Char)} (byte : Bool)
    (h : Framed read) : Framed fun cs => ofHex? byte (read cs) :=
  h.bind fun n => framed_settled (charOfNumber? n) fun c => Escape.char c byte

/-- The first character decides how a hexadecimal number is written. -/
theorem readHex?_eq (flags : Flags) (digits : Nat) {cs rest : List Char} {c : Char}
    (h : skip flags cs = c :: rest) : readHex? flags digits cs =
      if c = '{' then ofHex? false (readBracedHex flags rest)
      else ofHex? (digits == 2) (readFixedHex flags digits 0 (c :: rest)) := by
  unfold readHex?
  rw [h]
  split
  · next heq =>
    cases heq
    rfl
  · next hne =>
    refine (if_neg fun hc => ?_).symm
    subst hc
    exact hne rest rfl

/-- No hexadecimal number is made of what closes a text. -/
theorem framed_readHex (flags : Flags) {digits : Nat} (hdigits : 0 < digits) :
    Framed (readHex? flags digits) := by
  intro cs more rest x hleft h
  rcases (hleft.skip flags).split with ⟨hcs, -⟩ | ⟨c, after, hcs, hmore⟩
  · -- Nothing is left to be read as digits.
    obtain ⟨n, rfl⟩ : ∃ n, digits = n + 1 := ⟨digits - 1, by omega⟩
    unfold readHex? at h
    rw [hcs] at h
    cases h
  · rw [readHex?_eq flags digits hcs] at h
    rw [readHex?_eq flags digits hmore]
    split at h
    · next hbrace =>
      rw [if_pos hbrace]
      exact framed_ofHex false (framed_readBracedHex flags) (left_append after) h
    · next hbrace =>
      rw [if_neg hbrace]
      exact framed_ofHex _ (framed_readFixedHex flags digits 0) (left_append (c :: after)) h

/-- The name of a property is one character or stands in braces. -/
theorem readProperty?_eq (flags : Flags) (negated : Bool) {cs rest : List Char} {c : Char}
    (h : skip flags cs = c :: rest) : readProperty? flags negated cs =
      if c = '{' then
        match collect flags (· != '}') false rest with
        | (name, '}' :: left) => (flags.propertySet? negated name).map fun s => (Escape.set s, left)
        | _ => none
      else if c = '\\' then none
      else (flags.propertySet? negated [c]).map fun s => (Escape.set s, skip flags rest) := by
  unfold readProperty?
  rw [h]
  split
  · next heq =>
    cases heq
    rfl
  · next heq =>
    cases heq
    rfl
  · next d left hbrace hslash heq =>
    cases heq
    rw [if_neg hbrace, if_neg hslash]
  · next heq => cases heq

theorem framed_readProperty (flags : Flags) (negated : Bool) :
    Framed (readProperty? flags negated) := by
  intro cs more rest x hleft h
  rcases (hleft.skip flags).split with ⟨hcs, -⟩ | ⟨c, after, hcs, hmore⟩
  · unfold readProperty? at h
    rw [hcs] at h
    cases h
  · rw [readProperty?_eq flags negated hcs] at h
    rw [readProperty?_eq flags negated hmore]
    split at h
    · next hbrace =>
      rw [if_pos hbrace]
      split at h
      · next name left hcollect =>
        rw [collect_closing hcollect]
        exact framed_settled _ Escape.set (left_append left) h
      · cases h
    · next hbrace =>
      rw [if_neg hbrace]
      split at h
      · cases h
      · next hslash =>
        rw [if_neg hslash]
        exact framed_settled _ Escape.set ((left_append after).skip flags) h

/-- The characters that names of edges are made of. -/
def inEdge (c : Char) : Bool := Text.isAsciiLetter c || c == '-'

/-- A brace behind a boundary may begin the name of an edge or a repetition. -/
theorem readBoundary?_braced (flags : Flags) {inner rest : List Char} {c : Char}
    (h : skip flags inner = c :: rest) : readBoundary? flags ('{' :: inner) =
      if inEdge c then
        match collect flags inEdge false inner with
        | (name, '}' :: left) =>
          (edge? (String.ofList name)).map fun l => (.look (.word l flags.unicode), left)
        | _ => none
      else some (.look (.word .boundary flags.unicode), '{' :: inner) := by
  unfold readBoundary?
  split
  · next heq =>
    cases heq
    rw [h]
    rfl
  · next hne => exact absurd rfl (hne inner)

theorem readBoundary?_end (flags : Flags) {inner : List Char} (h : skip flags inner = []) :
    readBoundary? flags ('{' :: inner) = none := by
  unfold readBoundary?
  split
  · next heq =>
    cases heq
    rw [h]
  · next hne => exact absurd rfl (hne inner)

/-- A boundary that is not told apart by a name. -/
theorem readBoundary?_plain (flags : Flags) {cs : List Char} (h : ∀ inner, cs ≠ '{' :: inner) :
    readBoundary? flags cs = some (.look (.word .boundary flags.unicode), cs) := by
  unfold readBoundary?
  split
  · next inner => exact absurd rfl (h inner)
  · rfl

/-- A boundary is read in the same way, named or not. -/
theorem framed_readBoundary (flags : Flags) : Framed (readBoundary? flags) := by
  intro cs more rest x hleft h
  rcases hleft.begins (c := '{') (by decide) with ⟨inner, rfl, rfl⟩ | ⟨hcs, hmore⟩
  · rcases ((left_append inner).skip flags).split with ⟨hcs, -⟩ | ⟨d, after, hcs, hmore⟩
    · rw [readBoundary?_end flags hcs] at h
      cases h
    · rw [readBoundary?_braced flags hcs] at h
      rw [readBoundary?_braced flags hmore]
      split at h
      · next hname =>
        rw [if_pos hname]
        split at h
        · next name left hcollect =>
          rw [collect_closing hcollect]
          exact framed_settled _ (fun l => Escape.look (.word l flags.unicode)) (left_append left) h
        · cases h
      · next hname =>
        cases h
        rw [if_neg hname]
        exact ⟨_, rfl, left_append _⟩
  · rw [readBoundary?_plain flags hcs] at h
    cases h
    exact ⟨more, readBoundary?_plain flags hmore, hleft⟩

/-- **What follows a backslash is read in the same way.** -/
theorem framed_read (flags : Flags) : Framed (read? flags) := by
  intro cs more rest x hleft h
  cases cs with
  | nil => cases h
  | cons c cs =>
    rw [hleft.cons_of]
    have hcs := left_append cs
    unfold read? at h ⊢
    dsimp only at h ⊢
    split at h
    · next hplain =>
      cases h
      rw [if_pos hplain]
      exact ⟨_, rfl, hcs⟩
    · next hplain =>
      rw [if_neg hplain]
      split at h
      · exact framed_readHex flags (by decide) hcs h
      · exact framed_readHex flags (by decide) hcs h
      · exact framed_readHex flags (by decide) hcs h
      · exact framed_readProperty flags false hcs h
      · exact framed_readProperty flags true hcs h
      · cases h
        exact ⟨_, rfl, hcs⟩
      · cases h
        exact ⟨_, rfl, hcs⟩
      · exact framed_readBoundary flags hcs h
      · cases h
        exact ⟨_, rfl, hcs⟩
      · cases h
        exact ⟨_, rfl, hcs⟩
      · cases h
        exact ⟨_, rfl, hcs⟩
      · split at h
        · next control hcontrol =>
          cases h
          exact ⟨_, rfl, hcs⟩
        · exact framed_settled (flags.letterSet? c) Escape.set hcs h

end Escape

/-! ### Repetitions -/

theorem dropWhile_blank_closing (cs : List Char) :
    (cs ++ closing).dropWhile Text.isBlank = cs.dropWhile Text.isBlank ++ closing := by
  rw [List.dropWhile_append]
  split
  · next h =>
    rw [List.isEmpty_iff.1 h]
    rfl
  · rfl

/-- A count before a character is the same in a closed text. -/
theorem readCount?_closing {flags : Flags} {cs rest : List Char} {n : Nat} {c : Char}
    (h : readCount? flags cs = some (n, c :: rest)) :
    readCount? flags (cs ++ closing) = some (n, c :: (rest ++ closing)) := by
  unfold readCount? at h ⊢
  rw [dropWhile_blank_closing]
  generalize cs.dropWhile Text.isBlank = text at h ⊢
  generalize hcollect : collect flags (fun c => '0' ≤ c && c ≤ '9') false text = read at h
  obtain ⟨digits, left⟩ := read
  dsimp only at h
  split at h
  · cases h
  · next hfits =>
    obtain ⟨hn, hskip⟩ := Prod.mk.inj (Option.some.inj h)
    cases left with
    | nil =>
      rw [List.dropWhile_nil] at hskip
      unfold skip at hskip
      split at hskip <;> cases hskip
    | cons d left =>
      rw [collect_closing hcollect]
      dsimp only
      rw [if_neg hfits, ← List.cons_append, dropWhile_blank_closing, hn]
      have hleft := (left_append ((d :: left).dropWhile Text.isBlank)).skip flags
      rw [hskip] at hleft
      rw [hleft.cons_of]

/-- The bounds after the first one. -/
def readMost? (flags : Flags) (least : Nat) (cs : List Char) :
    Option ((Nat × Option Nat) × List Char) :=
  (readCount? flags cs).bind fun (most, rest) =>
    match rest with
    | '}' :: rest => if least ≤ most then some ((least, some most), rest) else none
    | _ => none

/-- A second bound ends with its brace. -/
theorem framed_readMost (flags : Flags) (least : Nat) : Framed (readMost? flags least) := by
  intro cs more rest x hleft h
  obtain ⟨⟨most, after⟩, hcount, h⟩ := Option.bind_eq_some_iff.1 h
  dsimp only at h
  split at h
  · next rest' =>
    split at h
    · next hle =>
      cases h
      cases cs with
      | nil => cases hcount
      | cons c cs =>
        rw [hleft.cons_of, ← List.cons_append]
        refine ⟨rest ++ closing, ?_, left_append rest⟩
        rw [readMost?, readCount?_closing hcount]
        exact if_pos hle
    · cases h
  · cases h

/-- What follows the comma between two bounds, where the second one may be missing. -/
def readUpTo? (flags : Flags) (least : Nat) (cs : List Char) :
    Option ((Nat × Option Nat) × List Char) :=
  match skip flags cs with
  | '}' :: rest => some ((least, none), rest)
  | rest => readMost? flags least rest

/-- Behind the comma stands a brace or a second bound. -/
theorem readUpTo?_eq (flags : Flags) (least : Nat) {cs rest : List Char} {c : Char}
    (h : skip flags cs = c :: rest) : readUpTo? flags least cs =
      if c = '}' then some ((least, none), rest) else readMost? flags least (c :: rest) := by
  unfold readUpTo?
  rw [h]
  split
  · next heq =>
    cases heq
    rfl
  · next hne =>
    refine (if_neg fun hc => ?_).symm
    subst hc
    exact hne rest rfl

theorem framed_readUpTo (flags : Flags) (least : Nat) : Framed (readUpTo? flags least) := by
  intro cs more rest x hleft h
  rcases (hleft.skip flags).split with ⟨hcs, -⟩ | ⟨c, after, hcs, hmore⟩
  · unfold readUpTo? at h
    rw [hcs] at h
    cases h
  · rw [readUpTo?_eq flags least hcs] at h
    rw [readUpTo?_eq flags least hmore]
    split at h
    · next hbrace =>
      cases h
      rw [if_pos hbrace]
      exact ⟨_, rfl, left_append rest⟩
    · next hbrace =>
      rw [if_neg hbrace]
      exact framed_readMost flags least (left_append (c :: after)) h

/-- The bounds of a repetition, by what follows the first one. -/
theorem readBounds?_eq (flags : Flags) (cs : List Char) : readBounds? flags cs =
    (readCount? flags (skip flags cs)).bind fun (least, rest) =>
      match rest with
      | '}' :: rest => some ((least, some least), rest)
      | ',' :: rest => readUpTo? flags least rest
      | _ => none := rfl

/-- **The bounds of a repetition are read in the same way.** -/
theorem framed_readBounds (flags : Flags) : Framed (readBounds? flags) := by
  intro cs more rest x hleft h
  rw [readBounds?_eq] at h
  obtain ⟨⟨least, after⟩, hcount, h⟩ := Option.bind_eq_some_iff.1 h
  have hcount' {c : Char} {after : List Char}
      (hcount : readCount? flags (skip flags cs) = some (least, c :: after)) :
      readCount? flags (skip flags more) = some (least, c :: (after ++ closing)) := by
    rcases (hleft.skip flags).split with ⟨hcs, -⟩ | ⟨d, text, hcs, hmore⟩
    · rw [hcs] at hcount
      cases hcount
    · rw [hcs] at hcount
      rw [hmore]
      exact readCount?_closing hcount
  rw [readBounds?_eq]
  dsimp only at h
  split at h
  · cases h
    rw [hcount' hcount]
    exact ⟨_, rfl, left_append rest⟩
  · next text =>
    rw [hcount' hcount]
    exact framed_readUpTo flags least (left_append text) h
  · cases h

theorem readLazyMark_plain {cs : List Char} (h : ∀ text, cs ≠ '?' :: text) :
    readLazyMark cs = (false, cs) := by
  unfold readLazyMark
  split
  · exact absurd rfl (h _)
  · rfl

/-- What closes a text is no question mark, so it makes no repetition lazy. -/
theorem readLazyMark_left {cs more : List Char} (h : Left cs more) :
    (readLazyMark more).1 = (readLazyMark cs).1 ∧
      Left (readLazyMark cs).2 (readLazyMark more).2 := by
  rcases h.begins (c := '?') (by decide) with ⟨text, rfl, rfl⟩ | ⟨hcs, hmore⟩
  · exact ⟨rfl, left_append text⟩
  · rw [readLazyMark_plain hcs, readLazyMark_plain hmore]
    exact ⟨rfl, h⟩

/-! ### Groups -/

/-- Flags end with a character of the text itself, which is left. -/
theorem readFlags?_closing {flags flags' : Flags} {on : Bool} {read read' cs rest : List Char}
    (h : readFlags? flags on read cs = some (flags', read', rest)) :
    readFlags? flags on read (cs ++ closing) = some (flags', read', rest ++ closing) ∧ rest ≠ [] := by
  induction cs generalizing flags on read with
  | nil => cases h
  | cons c cs ih =>
    rw [readFlags?] at h
    rw [List.cons_append, readFlags?]
    split at h
    · next hend =>
      rw [if_pos hend]
      split at h
      · cases h
      · next hhyphen =>
        cases h
        exact ⟨if_neg hhyphen, List.cons_ne_nil c cs⟩
    · next hend =>
      rw [if_neg hend]
      split at h
      · cases h
      · next hnew =>
        rw [if_neg hnew]
        split at h
        · next hhyphen =>
          rw [if_pos hhyphen]
          exact ih h
        · next hhyphen =>
          obtain ⟨next, hnext, h⟩ := Option.bind_eq_some_iff.1 h
          rw [if_neg hhyphen, hnext]
          exact ih h

/-- A name ends with a bracket of the text itself. -/
theorem readName?_closing {cs name rest : List Char} (h : readName? cs = some (name, rest)) :
    readName? (cs ++ closing) = some (name, rest ++ closing) := by
  unfold readName? at h
  split at h
  · next first more after htake hdrop =>
    have hne : (cs.dropWhile (· != '>')).isEmpty = false := by rw [hdrop]; rfl
    have hless : (cs.takeWhile (· != '>')).length ≠ cs.length := by
      intro hlen
      have hsum := congrArg List.length (List.takeWhile_append_dropWhile (p := (· != '>')) (l := cs))
      rw [List.length_append, hlen, hdrop, List.length_cons] at hsum
      omega
    have htake' : (cs ++ closing).takeWhile (· != '>') = first :: more := by
      rw [List.takeWhile_append, if_neg hless, htake]
    have hdrop' : (cs ++ closing).dropWhile (· != '>') = '>' :: (after ++ closing) := by
      rw [List.dropWhile_append, hne, if_neg Bool.false_ne_true, hdrop]
      rfl
    unfold readName?
    rw [htake', hdrop']
    split at h
    · next hname =>
      cases h
      exact if_pos hname
    · cases h
  · cases h

/-- Flags, up to the end of what sets them or the beginning of the group they are set for. -/
def readSettings? (flags : Flags) (cs : List Char) : Option (Opening × List Char) :=
  (readFlags? flags true [] cs).bind fun (flags, read, rest) =>
    match rest with
    | ':' :: rest => some (.group flags, rest)
    | _ :: rest => if read.isEmpty then none else some (.set flags, rest)
    | [] => none

/-- Flags that are set are set in the same way, for a group or for what follows. -/
theorem framed_readSettings (flags : Flags) : Framed (readSettings? flags) := by
  intro cs more rest x hleft h
  obtain ⟨⟨flags', read, after⟩, hread, hset⟩ := Option.bind_eq_some_iff.1 h
  cases cs with
  | nil => cases hread
  | cons c cs =>
    obtain ⟨hmore, -⟩ := readFlags?_closing hread
    rw [hleft.cons_of, ← List.cons_append, readSettings?, hmore]
    clear h
    dsimp only at hset
    split at hset
    · cases hset
      exact ⟨_, rfl, left_append rest⟩
    · next d text hcolon =>
      split at hset
      · cases hset
      · next hempty =>
        cases hset
        refine ⟨rest ++ closing, ?_, left_append rest⟩
        rw [Option.bind_some]
        dsimp only [List.cons_append]
        split
        · next heq =>
          cases heq
          exact (hcolon rfl).elim
        · next heq =>
          cases heq
          exact if_neg hempty
        · next heq => cases heq
    · cases hset

section
variable (flags : Flags) {cs : List Char}

def readNamed? (cs : List Char) : Option (Opening × List Char) :=
  (readName? cs).map fun (name, rest) => (.noted (some name), rest)

/-- Without a question mark a group is one that is noted. -/
theorem readOpening?_plain (h : ∀ text, skip flags cs ≠ '?' :: text) :
    readOpening? flags cs = some (.noted none, skip flags cs) := by
  unfold readOpening?
  dsimp only
  split <;> first | rfl | exact absurd ‹_› (h _)

/-- An angle bracket begins a name, unless it looks behind. -/
theorem readOpening?_named {c : Char} {text : List Char} (h : skip flags cs = '?' :: '<' :: c :: text)
    (hequals : c ≠ '=') (hbang : c ≠ '!') : readOpening? flags cs = readNamed? (c :: text) := by
  unfold readOpening?
  dsimp only
  rw [h]
  split
  · next heq => cases heq
  · next heq => cases heq
  · next heq =>
    cases heq
    exact absurd rfl hequals
  · next heq =>
    cases heq
    exact absurd rfl hbang
  · next heq => cases heq
  · next heq =>
    cases heq
    rfl
  · next hangle heq =>
    cases heq
    exact absurd rfl (hangle _)
  · next hmark => exact absurd rfl (hmark _)

/-- All else behind a question mark are flags. -/
theorem readOpening?_settings {c : Char} {text : List Char} (h : skip flags cs = '?' :: c :: text)
    (hequals : c ≠ '=') (hbang : c ≠ '!') (hangle : c ≠ '<') (hP : c ≠ 'P') :
    readOpening? flags cs = readSettings? flags (c :: text) := by
  unfold readOpening?
  dsimp only
  rw [h]
  split
  · next heq =>
    cases heq
    exact absurd rfl hequals
  · next heq =>
    cases heq
    exact absurd rfl hbang
  · next heq =>
    cases heq
    exact absurd rfl hangle
  · next heq =>
    cases heq
    exact absurd rfl hangle
  · next heq =>
    cases heq
    exact absurd rfl hP
  · next heq =>
    cases heq
    exact absurd rfl hangle
  · next heq =>
    cases heq
    rfl
  · next hmark => exact absurd rfl (hmark _)

theorem framed_readNamed : Framed readNamed? := by
  intro cs more rest x hleft h
  obtain ⟨⟨name, after⟩, hname, heq⟩ := Option.map_eq_some_iff.1 h
  cases heq
  cases cs with
  | nil => cases hname
  | cons c cs =>
    rw [hleft.cons_of, ← List.cons_append]
    exact ⟨_, by rw [readNamed?, readName?_closing hname]; rfl, left_append rest⟩

/-- What follows a question mark, where something is read. -/
theorem readOpening?_mark {text rest : List Char} {x : Opening}
    (hcs : skip flags cs = '?' :: text) (h : readOpening? flags cs = some (x, rest)) :
    (∃ name, text = 'P' :: '<' :: name ∧ readNamed? name = some (x, rest)) ∨
      (∃ c name, text = '<' :: c :: name ∧ c ≠ '=' ∧ c ≠ '!' ∧
        readNamed? (c :: name) = some (x, rest)) ∨
      ∃ c settings, text = c :: settings ∧ c ≠ '=' ∧ c ≠ '!' ∧ c ≠ '<' ∧ c ≠ 'P' ∧
        readSettings? flags text = some (x, rest) := by
  unfold readOpening? at h
  dsimp only at h
  rw [hcs] at h
  split at h
  · cases h
  · cases h
  · cases h
  · cases h
  · next name heq =>
    cases heq
    exact .inl ⟨name, rfl, h⟩
  · next name hequals hbang heq =>
    cases heq
    cases name with
    | nil => cases h
    | cons c name =>
      refine .inr (.inl ⟨c, name, rfl, ?_, ?_, h⟩)
      · rintro rfl
        exact hequals name rfl
      · rintro rfl
        exact hbang name rfl
  · next settings hequals hbang _ _ _ hangle heq =>
    cases heq
    cases text with
    | nil => cases h
    | cons c settings =>
      refine .inr (.inr ⟨c, settings, rfl, ?_, ?_, ?_, ?_, h⟩)
      · rintro rfl
        exact hequals settings rfl
      · rintro rfl
        exact hbang settings rfl
      · rintro rfl
        exact hangle settings rfl
      · -- There is no such flag.
        rintro rfl
        cases h
  · next hmark => exact absurd rfl (hmark text)

end

/-- **The opening of a group is read in the same way.** -/
theorem framed_readOpening (flags : Flags) : Framed (readOpening? flags) := by
  intro cs more rest x hleft h
  have hskip := hleft.skip flags
  rcases hskip.begins (c := '?') (by decide) with ⟨text, hcs, hmore⟩ | ⟨hcs, hmore⟩
  · rcases readOpening?_mark flags hcs h with ⟨name, rfl, hread⟩ |
      ⟨c, name, rfl, hequals, hbang, hread⟩ |
      ⟨c, settings, rfl, hequals, hbang, hangle, hP, hread⟩
    · obtain ⟨left, hnamed, hrest⟩ := framed_readNamed (left_append name) hread
      refine ⟨left, ?_, hrest⟩
      unfold readOpening?
      rw [hmore]
      exact hnamed
    · rw [readOpening?_named flags hmore hequals hbang]
      exact framed_readNamed (left_append (c :: name)) hread
    · rw [readOpening?_settings flags hmore hequals hbang hangle hP]
      exact framed_readSettings flags (left_append (c :: settings)) hread
  · rw [readOpening?_plain flags hcs] at h
    cases h
    exact ⟨_, readOpening?_plain flags hmore, hskip⟩

end Watchpost.Pattern
