import Watchpost.Proofs.Pattern.Closing

/-! Brackets in a text that is closed behind.

A bracket holds characters, ranges, sets with names and other brackets, with operations between
them; each of these is read in the same way when the text around is closed
(`Bracket.framed_read`). -/
namespace Watchpost.Pattern

theorem length_dropLayout_le (inComment : Bool) (cs : List Char) :
    (dropLayout inComment cs).length ≤ cs.length := by
  induction cs generalizing inComment with
  | nil => exact Nat.le_refl 0
  | cons c cs ih =>
    rw [dropLayout]
    split
    · exact Nat.le_succ_of_le (ih _)
    · split
      · exact Nat.le_succ_of_le (ih _)
      · split
        · exact Nat.le_succ_of_le (ih _)
        · exact Nat.le_refl _

theorem length_skip_le (flags : Flags) (cs : List Char) : (skip flags cs).length ≤ cs.length := by
  unfold skip
  split
  · exact length_dropLayout_le false cs
  · exact Nat.le_refl _

namespace Bracket

theorem leadingHyphens_stop (flags : Flags) (n : Nat) (items : List Item) {cs : List Char}
    (h : ∀ rest, cs ≠ '-' :: rest) : leadingHyphens flags n items cs = (items, cs) := by
  unfold leadingHyphens
  split
  · exact absurd rfl (h _)
  · rfl

/-- Hyphens in front are items of their own, as many as the text begins with. -/
theorem leadingHyphens_closing {flags : Flags} {n m : Nat} {items items' : List Item}
    {cs rest : List Char} {c : Char} (hn : cs.length ≤ n) (hm : (cs ++ closing).length ≤ m)
    (h : leadingHyphens flags n items cs = (items', c :: rest)) :
    leadingHyphens flags m items (cs ++ closing) = (items', c :: (rest ++ closing)) := by
  induction n generalizing m items cs with
  | zero =>
    obtain rfl := List.length_eq_zero_iff.1 (Nat.le_zero.1 hn)
    cases h
  | succ n ih =>
    rcases (left_append cs).begins (c := '-') (by decide) with ⟨text, rfl, -⟩ | ⟨hcs, hmore⟩
    · rw [leadingHyphens] at h
      rw [List.length_append, List.length_cons] at hm
      obtain ⟨k, rfl⟩ : ∃ k, m = k + 1 := ⟨m - 1, by omega⟩
      rw [List.cons_append, leadingHyphens]
      have hless := length_skip_le flags text
      have hlength : closing.length = 2 := rfl
      rcases (left_append text).skip flags with hskip | ⟨hnil, -⟩
      · rw [hskip]
        refine ih (Nat.le_trans hless (Nat.le_of_succ_le_succ hn)) ?_ h
        rw [List.length_append]
        omega
      · rw [hnil, leadingHyphens_stop flags n _ fun _ heq => by cases heq] at h
        cases h
    · rw [leadingHyphens_stop flags _ items hcs] at h
      cases h
      exact leadingHyphens_stop flags m _ hmore

/-- Whether a circumflex comes first, and what follows. -/
def circumflex (flags : Flags) (cs : List Char) : Bool × List Char :=
  match skip flags cs with
  | '^' :: rest => (true, skip flags rest)
  | cs => (false, cs)

/-- The front of a bracket after the circumflex. -/
def openItems? (flags : Flags) (negated : Bool) (cs : List Char) : Option (Bracket × List Char) :=
  let (items, cs) := leadingHyphens flags cs.length [] cs
  match items, cs with
  | [], ']' :: rest => some (⟨negated, none, [⟨.single ']', 0⟩]⟩, skip flags rest)
  | items, cs => if cs.isEmpty then none else some (⟨negated, none, items⟩, cs)

theorem open?_eq (flags : Flags) (cs : List Char) :
    open? flags cs = openItems? flags (circumflex flags cs).1 (circumflex flags cs).2 := rfl

/-- A circumflex negates a closed text as it negates the text. -/
theorem circumflex_left (flags : Flags) {cs more : List Char} (h : Left cs more) :
    (circumflex flags more).1 = (circumflex flags cs).1 ∧
      Left (circumflex flags cs).2 (circumflex flags more).2 := by
  have hplain {cs : List Char} (h : ∀ rest, skip flags cs ≠ '^' :: rest) :
      circumflex flags cs = (false, skip flags cs) := by
    unfold circumflex
    split
    · exact absurd ‹_› (h _)
    · rfl
  rcases (h.skip flags).begins (c := '^') (by decide) with ⟨rest, hcs, hmore⟩ | ⟨hcs, hmore⟩
  · unfold circumflex
    rw [hcs, hmore]
    exact ⟨rfl, (left_append rest).skip flags⟩
  · rw [hplain hmore, hplain hcs]
    exact ⟨rfl, h.skip flags⟩

theorem framed_openItems (flags : Flags) (negated : Bool) : Framed (openItems? flags negated) := by
  intro cs more rest b hleft h
  unfold openItems? at h
  generalize hread : leadingHyphens flags cs.length [] cs = read at h
  obtain ⟨items, text⟩ := read
  have hclosing {c : Char} {rest : List Char} (htext : text = c :: rest) :
      leadingHyphens flags more.length [] more = (items, c :: (rest ++ closing)) := by
    subst htext
    cases cs with
    | nil => cases hread
    | cons d cs =>
      rw [hleft.cons_of, ← List.cons_append]
      exact leadingHyphens_closing (Nat.le_refl _) (Nat.le_refl _) hread
  unfold openItems?
  dsimp only at h
  split at h
  · next text =>
    cases h
    rw [hclosing rfl]
    exact ⟨_, rfl, (left_append text).skip flags⟩
  · next hplain =>
    split at h
    · cases h
    · next hne =>
      cases h
      cases rest with
      | nil => exact absurd rfl hne
      | cons d text =>
        rw [hclosing rfl]
        refine ⟨d :: text ++ closing, ?_, left_append (d :: text)⟩
        dsimp only
        split
        · next heq =>
          cases heq
          exact (hplain _ rfl rfl).elim
        · rfl

/-- **What opens brackets is read in the same way**, with all that stands for itself behind it. -/
theorem framed_open (flags : Flags) : Framed (open? flags) := by
  intro cs more rest b hleft h
  obtain ⟨hnegated, hrest⟩ := circumflex_left flags hleft
  rw [open?_eq] at h ⊢
  rw [hnegated]
  exact framed_openItems flags _ hrest h

/-- The name of an ASCII set after its first colon and circumflex. -/
def asciiName? (flags : Flags) (negated : Bool) (cs : List Char) : Option (CharSet × List Char) :=
  match cs.dropWhile (· != ':') with
  | ':' :: ']' :: left =>
    (Flags.asciiSet? (String.ofList (cs.takeWhile (· != ':')))).bind fun s =>
      (flags.settle? negated s).map fun s => (s, left)
  | _ => none

/-- Nothing of what closes a text belongs to the name of a set. -/
theorem asciiName?_closing (flags : Flags) (negated : Bool) (cs : List Char) :
    asciiName? flags negated (cs ++ closing) =
      (asciiName? flags negated cs).map fun out => (out.1, out.2 ++ closing) := by
  unfold asciiName?
  rw [List.dropWhile_append, List.takeWhile_append]
  have hlength := congrArg List.length (List.takeWhile_append_dropWhile (p := (· != ':')) (l := cs))
  cases hdrop : cs.dropWhile (· != ':') with
  | nil => rfl
  | cons c rest =>
    rw [List.length_append, hdrop, List.length_cons] at hlength
    rw [if_neg (by rw [List.isEmpty_cons]; exact Bool.false_ne_true), if_neg (by omega)]
    cases rest with
    | nil =>
      simp only [List.cons_append, List.nil_append, closing]
      split
      · next heq => cases heq
      · rfl
    | cons d rest =>
      simp only [List.cons_append]
      by_cases hends : c = ':' ∧ d = ']'
      · obtain ⟨rfl, rfl⟩ := hends
        cases hset : Flags.asciiSet? (String.ofList (cs.takeWhile (· != ':'))) with
        | none => rfl
        | some s =>
          simp only [Option.bind_some, Option.map_map]
          rfl
      · split
        · next heq =>
          cases heq
          exact absurd ⟨rfl, rfl⟩ hends
        · split
          · next heq =>
            cases heq
            exact absurd ⟨rfl, rfl⟩ hends
          · rfl

/-- Whether the name of a set is negated, and the name. -/
def asciiFront (cs : List Char) : Bool × List Char :=
  match cs with
  | '^' :: rest => (true, rest)
  | rest => (false, rest)

theorem asciiFront_closing (cs : List Char) :
    asciiFront (cs ++ closing) = ((asciiFront cs).1, (asciiFront cs).2 ++ closing) := by
  have hplain {cs : List Char} (h : ∀ rest, cs ≠ '^' :: rest) : asciiFront cs = (false, cs) := by
    unfold asciiFront
    split
    · exact absurd rfl (h _)
    · rfl
  rcases (left_append cs).begins (c := '^') (by decide) with ⟨rest, rfl, -⟩ | ⟨hcs, hmore⟩
  · rfl
  · rw [hplain hmore, hplain hcs]

theorem asciiSet?_colon (flags : Flags) (cs : List Char) :
    asciiSet? flags (':' :: cs) = asciiName? flags (asciiFront cs).1 (asciiFront cs).2 := rfl

/-- A named set is told by its own colons. -/
theorem asciiSet?_closing (flags : Flags) (cs : List Char) : asciiSet? flags (cs ++ closing) =
    (asciiSet? flags cs).map fun out => (out.1, out.2 ++ closing) := by
  have hnone {cs : List Char} (h : ∀ rest, cs ≠ ':' :: rest) : asciiSet? flags cs = none := by
    unfold asciiSet?
    split
    · exact absurd rfl (h _)
    · rfl
  rcases (left_append cs).begins (c := ':') (by decide) with ⟨rest, rfl, -⟩ | ⟨hcs, hmore⟩
  · rw [List.cons_append, asciiSet?_colon, asciiSet?_colon, asciiFront_closing, asciiName?_closing]
  · rw [hnone hmore, hnone hcs]
    rfl

theorem isAsciiSet_closing (cs : List Char) : isAsciiSet (cs ++ closing) = isAsciiSet cs := by
  rw [isAsciiSet, isAsciiSet, asciiSet?_closing, Option.isSome_map]

/-- A member of brackets is a character or an escape. -/
theorem framed_readMember (flags : Flags) : Framed (readMember? flags) := by
  intro cs more rest x hleft h
  cases cs with
  | nil => cases h
  | cons c cs =>
    rw [hleft.cons_of]
    by_cases hslash : c = '\\'
    · subst hslash
      exact Escape.framed_read flags (left_append cs) h
    · have hplain (cs : List Char) : readMember? flags (c :: cs) = some (.char c false, cs) := by
        unfold readMember?
        split
        · next heq => cases heq
        · next heq => exact absurd (List.cons.inj heq).1 hslash
        · next heq =>
          cases heq
          rfl
      rw [hplain] at h
      cases h
      exact ⟨_, hplain _, left_append rest⟩

/-- What a hyphen stands before, if that makes it stand for itself. -/
def standsAlone (next : Option Char) : Bool := next == some ']' || next == some '-'

theorem standsAlone_blank {c : Char} (h : Text.isBlank c = true) : standsAlone (some c) = false := by
  rw [standsAlone, Bool.or_eq_false_iff]
  constructor
  · refine beq_eq_false_iff_ne.2 fun heq => ?_
    cases heq
    exact absurd h (by decide)
  · refine beq_eq_false_iff_ne.2 fun heq => ?_
    cases heq
    exact absurd h (by decide)

/-- What follows blanks and the front of a comment. -/
def beyondBlanks (cs : List Char) : List Char :=
  match cs.dropWhile Text.isBlank with
  | '#' :: more => more.dropWhile Text.isBlank
  | more => more

theorem beyondBlanks_plain {cs : List Char} (h : ∀ more, cs.dropWhile Text.isBlank ≠ '#' :: more) :
    beyondBlanks cs = cs.dropWhile Text.isBlank := by
  unfold beyondBlanks
  split
  · exact absurd ‹_› (h _)
  · rfl

theorem beyondBlanks_closing (cs : List Char) :
    beyondBlanks (cs ++ closing) = beyondBlanks cs ++ closing := by
  have hleft := left_append (cs.dropWhile Text.isBlank)
  rw [← dropWhile_blank_closing] at hleft
  rcases hleft.begins (c := '#') (by decide) with ⟨more, hcs, hmore⟩ | ⟨hcs, hmore⟩
  · unfold beyondBlanks
    rw [hcs, hmore]
    exact dropWhile_blank_closing more
  · rw [beyondBlanks_plain hcs, beyondBlanks_plain hmore, dropWhile_blank_closing]

/-- Whether a hyphen stands alone is told by what follows it in the text. -/
theorem standsAlone_closing (flags : Flags) (cs : List Char) :
    standsAlone (afterHyphen flags (cs ++ closing)) = standsAlone (afterHyphen flags cs) := by
  unfold afterHyphen
  split
  · change standsAlone ((beyondBlanks (cs ++ closing)).head? <|> (cs ++ closing).head?) =
      standsAlone ((beyondBlanks cs).head? <|> cs.head?)
    rw [beyondBlanks_closing]
    cases hbeyond : beyondBlanks cs with
    | cons c text => rfl
    | nil =>
      -- There are only blanks, or a comment begins after them.
      cases cs with
      | nil => rfl
      | cons c cs =>
        change false = standsAlone (some c)
        by_cases hblank : Text.isBlank c = true
        · exact (standsAlone_blank hblank).symm
        · have hdrop : (c :: cs).dropWhile Text.isBlank = c :: cs :=
            List.dropWhile_cons_of_neg hblank
          by_cases hhash : c = '#'
          · subst hhash
            rfl
          · rw [beyondBlanks_plain (by
              rw [hdrop]
              exact fun more heq => hhash (List.cons.inj heq).1), hdrop] at hbeyond
            cases hbeyond
  · cases cs with
    | nil => rfl
    | cons c cs => rfl

/-! ### Items of brackets -/

/-- What follows the first member of an item and a hyphen. -/
def readRange? (flags : Flags) (first : Escape) (cs : List Char) : Option (CharSet × List Char) :=
  if standsAlone (afterHyphen flags cs) then (memberSet? flags first).map fun s => (s, '-' :: cs)
  else
    (readMember? flags (skip flags cs)).bind fun (last, rest) =>
      match first, last with
      | .char lo _, .char hi _ =>
        if lo ≤ hi && admits flags lo && admits flags hi then some (.range lo hi, rest) else none
      | _, _ => none

theorem readItem?_eq (flags : Flags) (cs : List Char) : readItem? flags cs =
    (readMember? flags cs).bind fun (first, rest) =>
      match skip flags rest with
      | [] => none
      | '-' :: rest => readRange? flags first rest
      | rest => (memberSet? flags first).map fun s => (s, rest) := rfl

theorem skip_nil (flags : Flags) : skip flags [] = [] := by
  unfold skip
  split <;> rfl

theorem readRange?_nil (flags : Flags) (first : Escape) : readRange? flags first [] = none := by
  have hafter : afterHyphen flags [] = none := by
    unfold afterHyphen
    split <;> rfl
  rw [readRange?, hafter, skip_nil]
  rfl

/-- The end of a range stands in the text, if there is one. -/
theorem framed_readRange (flags : Flags) (first : Escape) : Framed (readRange? flags first) := by
  intro cs more rest s hleft h
  rcases hleft with rfl | ⟨rfl, -⟩
  · unfold readRange? at h ⊢
    rw [standsAlone_closing]
    split at h
    · next halone =>
      rw [if_pos halone]
      exact framed_settled _ id (left_append ('-' :: cs)) h
    · next halone =>
      rw [if_neg halone]
      obtain ⟨⟨last, after⟩, hlast, h⟩ := Option.bind_eq_some_iff.1 h
      obtain ⟨left, hmore, hrest⟩ := (framed_readMember flags).skip flags (left_append cs) hlast
      dsimp only at h hmore
      rw [hmore, Option.bind_some]
      cases first with
      | char lo byte =>
        cases last with
        | char hi byte' =>
          dsimp only at h ⊢
          split at h
          · next hrange =>
            cases h
            exact ⟨left, if_pos hrange, hrest⟩
          · cases h
        | set t => cases h
        | look l => cases h
      | set t => cases h
      | look l => cases h
  · rw [readRange?_nil] at h
    cases h

/-- **An item of brackets is read in the same way.** -/
theorem framed_readItem (flags : Flags) : Framed (readItem? flags) := by
  intro cs more rest s hleft h
  rw [readItem?_eq] at h ⊢
  obtain ⟨⟨first, after⟩, hfirst, h⟩ := Option.bind_eq_some_iff.1 h
  obtain ⟨left, hmore, hrest⟩ := framed_readMember flags hleft hfirst
  rw [hmore, Option.bind_some]
  dsimp only at h ⊢
  rcases (hrest.skip flags).split with ⟨hafter, -⟩ | ⟨c, text, hafter, hleft'⟩
  · rw [hafter] at h
    cases h
  · rw [hafter] at h
    rw [hleft']
    split at h
    · next heq => cases heq
    · next text' heq =>
      cases heq
      exact framed_readRange flags first (left_append text) h
    · next hplain hhyphen =>
      split
      · next heq => cases heq
      · next heq =>
        cases heq
        exact absurd rfl (hhyphen _)
      · exact framed_settled _ id (left_append (c :: text)) h

/-! ### Whole brackets -/

/-- A text that begins with an item: with neither a bracket nor an operation. -/
structure BeginsItem (cs : List Char) : Prop where
  notOpening : ∀ rest, cs ≠ '[' :: rest
  notClosing : ∀ rest, cs ≠ ']' :: rest
  noOperation : ∀ d ∈ ['&', '-', '~'], ∀ rest, cs ≠ d :: d :: rest

/-- No operation begins with the last character of a text that is closed. -/
theorem BeginsItem.closed {c : Char} {text : List Char} (h : BeginsItem (c :: text)) :
    BeginsItem (c :: (text ++ closing)) where
  notOpening rest heq := h.notOpening text (congrArg (· :: text) (List.cons.inj heq).1)
  notClosing rest heq := h.notClosing text (congrArg (· :: text) (List.cons.inj heq).1)
  noOperation d hd rest heq := by
    cases text with
    | nil =>
      have hlast : ')' = d := (List.cons.inj (List.cons.inj heq).2).1
      rw [← hlast] at hd
      exact absurd hd (by decide)
    | cons e text =>
      cases heq
      exact h.noOperation _ hd text rfl

/-- Where an item begins, it is read and added to the innermost brackets. -/
theorem readOpen?_item {flags : Flags} {n : Nat} {b : Bracket} {outer : List Bracket}
    {cs text : List Char} {c : Char} (hskip : skip flags cs = c :: text)
    (h : BeginsItem (c :: text)) : readOpen? flags (n + 1) b outer cs =
      (readItem? flags (c :: text)).bind fun out =>
        readOpen? flags n (b.add ⟨out.1, 0⟩) outer out.2 := by
  rw [readOpen?]
  dsimp only
  rw [hskip]
  split
  · next heq => cases heq
  · next heq => exact absurd heq (h.notOpening _)
  · next heq => exact absurd heq (h.notClosing _)
  · next heq => exact absurd heq (h.noOperation _ (by decide) _)
  · next heq => exact absurd heq (h.noOperation _ (by decide) _)
  · next heq => exact absurd heq (h.noOperation _ (by decide) _)
  · rfl

/-- **Brackets are read in the same way**: they are closed in the text itself. The induction is on
the fuel of the text; the closed text may have more. -/
theorem readOpen?_closing {flags : Flags} {n m : Nat} {b : Bracket} {outer : List Bracket}
    {cs more rest : List Char} {item : Item} (hle : n ≤ m) (hleft : Left cs more)
    (h : readOpen? flags n b outer cs = some (item, rest)) :
    readOpen? flags m b outer more = some (item, rest ++ closing) := by
  induction n generalizing m b outer cs more with
  | zero => cases h
  | succ n ih =>
    obtain ⟨k, rfl⟩ : ∃ k, m = k + 1 := ⟨m - 1, by omega⟩
    have hk : n ≤ k := Nat.le_of_succ_le_succ hle
    rcases (hleft.skip flags).split with ⟨hcs, -⟩ | ⟨c, text, hcs, hmore⟩
    · rw [readOpen?] at h
      dsimp only at h
      rw [hcs] at h
      cases h
    · by_cases hitem : BeginsItem (c :: text)
      · rw [readOpen?_item hcs hitem] at h
        obtain ⟨⟨s, after⟩, hs, h⟩ := Option.bind_eq_some_iff.1 h
        obtain ⟨left, hs', hrest⟩ := framed_readItem flags (left_append (c :: text)) hs
        rw [readOpen?_item hmore hitem.closed, ← List.cons_append, hs']
        exact ih hk hrest h
      rw [readOpen?] at h ⊢
      dsimp only at h ⊢
      rw [hcs] at h
      rw [hmore]
      split at h
      · next heq => cases heq
      · next text heq =>
        cases heq
        split at h
        · next hset =>
          obtain ⟨⟨s, after⟩, hs, h⟩ := Option.bind_eq_some_iff.1 h
          have hset' : isAsciiSet (text ++ closing) = true := by
            rw [isAsciiSet_closing]
            exact hset
          simp only [hset', if_true, asciiSet?_closing, hs, Option.map_some, Option.bind_some]
          exact ih hk (left_append after) h
        · next hset =>
          obtain ⟨⟨inner, after⟩, hopen, h⟩ := Option.bind_eq_some_iff.1 h
          obtain ⟨left, hopen', hrest⟩ := framed_open flags (left_append text) hopen
          have hset' : ¬isAsciiSet (text ++ closing) = true := by
            rw [isAsciiSet_closing]
            exact hset
          simp only [hset', hopen', Option.bind_some]
          exact ih hk hrest h
      · next text heq =>
        cases heq
        obtain ⟨s, hs, h⟩ := Option.bind_eq_some_iff.1 h
        simp only [hs, Option.bind_some]
        cases outer with
        | nil =>
          cases h
          rfl
        | cons o outer => exact ih hk (left_append text) h
      · next heq =>
        cases heq
        exact ih hk (left_append _) h
      · next heq =>
        cases heq
        exact ih hk (left_append _) h
      · next heq =>
        cases heq
        exact ih hk (left_append _) h
      · next hne hopening hclosing hboth hminus htilde =>
        refine absurd ⟨hopening, hclosing, fun d hd rest heq => ?_⟩ hitem
        simp only [List.mem_cons, List.not_mem_nil, or_false] at hd
        rcases hd with rfl | rfl | rfl
        · exact hboth rest heq
        · exact hminus rest heq
        · exact htilde rest heq

/-- **A bracket is read in the same way.** -/
theorem framed_read (flags : Flags) : Framed (read? flags) := by
  intro cs more rest item hleft h
  unfold read? at h ⊢
  obtain ⟨⟨b, after⟩, hopen, h⟩ := Option.bind_eq_some_iff.1 h
  obtain ⟨left, hopen', hrest⟩ := framed_open flags hleft hopen
  rw [hopen']
  have hle : cs.length + 1 ≤ more.length + 1 := by
    rcases hleft with rfl | ⟨rfl, -⟩
    · rw [List.length_append]
      omega
    · exact Nat.succ_le_succ (Nat.zero_le _)
  exact ⟨rest ++ closing, readOpen?_closing hle hrest h, left_append rest⟩

end Bracket
end Watchpost.Pattern
