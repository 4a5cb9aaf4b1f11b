import Watchpost.Proofs.Condition.Grammar

/-! What is read is what the grammar spells.

Each reader takes from the front of the tokens something that spells what it gives back
(`Sound`), and takes all of it, unless what follows would go on with it (`Complete`). -/
namespace Watchpost.Condition

open Grammar

/-! ### Tokens -/

/-- A keyword is written in one way, but for case. -/
theorem isKeyword_unique {t : Token} {word other : String} (h : t.isKeyword word = true)
    (hne : word.toList.map Double.lower ≠ other.toList.map Double.lower) :
    t.isKeyword other = false := by
  unfold Token.isKeyword Token.sameWord at *
  split at h
  · next text hkind =>
    refine Bool.eq_false_iff.2 fun hother => hne ?_
    exact (eq_of_beq h).trans (eq_of_beq hother).symm
  · cases h

/-- A keyword is a plain name: what stands in quotes is none. -/
theorem exists_name_of_isKeyword {t : Token} {word : String} (h : t.isKeyword word = true) :
    ∃ text, t.kind = .name text := by
  unfold Token.isKeyword at h
  split at h
  · next text hkind => exact ⟨text, hkind⟩
  · cases h

/-- No token of another kind is a keyword. -/
theorem isKeyword_of_kind {t : Token} {kind : Token.Kind} (h : t.kind = kind)
    (hname : ∀ text, kind ≠ .name text) (word : String) : t.isKeyword word = false := by
  refine Bool.eq_false_iff.2 fun hword => ?_
  obtain ⟨text, hkind⟩ := exists_name_of_isKeyword hword
  exact hname text (h.symm.trans hkind)

/-- What names a column is no reserved word. -/
theorem Grammar.Names.isKeyword {t : Token} {name word : String} (h : Names t name)
    (hword : word ∈ reserved) : t.isKeyword word = false := by
  cases h with
  | plain hkind hfree =>
    unfold Token.isKeyword
    rw [hkind]
    exact hfree word hword
  | quoted hkind => exact isKeyword_of_kind hkind (fun _ h => by cases h) word

theorem isKind_cons (kind : Token.Kind) (t : Token) (rest : List Token) :
    isKind kind (t :: rest) = true ↔ t.kind = kind := beq_iff_eq

theorem isKind_ne {t : Token} {kind other : Token.Kind} (h : t.kind = kind) (hne : kind ≠ other)
    (rest : List Token) : isKind other (t :: rest) = false :=
  beq_eq_false_iff_ne.2 (h ▸ hne)

/-! ### Columns -/

/-- An identifier is one token that names a column. -/
theorem identifier_eq_ok_iff {finish : Nat} {ts rest : List Token} {name : String} :
    identifier finish ts = .ok (name, rest) ↔ ∃ t, ts = t :: rest ∧ Names t name := by
  constructor
  · intro h
    unfold identifier at h
    split at h
    · cases h
    · next t us =>
      split at h
      · next text hkind =>
        split at h
        · cases h
        · next hfree =>
          cases h
          refine ⟨t, rfl, .plain hkind fun word hword => ?_⟩
          exact Bool.eq_false_iff.2 fun hsame => hfree (List.any_eq_true.2 ⟨word, hword, hsame⟩)
      · next text hkind =>
        cases h
        exact ⟨t, rfl, .quoted hkind⟩
      · cases h
  · rintro ⟨t, rfl, h⟩
    unfold identifier
    cases h with
    | plain hkind hfree =>
      have hnone : reserved.any (Token.sameWord · name) = false := by
        rw [List.any_eq_false]
        exact fun word hword => Bool.eq_false_iff.1 (hfree word hword)
      simp only [hkind, hnone, Bool.false_eq_true, if_false]
    | quoted hkind => simp only [hkind]

/-- Behind the first name there is nothing, or a dot and the rest of a column. Of the names the
last one counts. -/
theorem qualified_sound {finish : Nat} {name last : String} {ts rest : List Token}
    (h : qualified finish name ts = .ok (last, rest)) :
    (last = name ∧ rest = ts) ∨
      ∃ dot us, ts = dot :: (us ++ rest) ∧ dot.kind = .dot ∧ Column us last := by
  fun_induction qualified finish name ts with
  | case1 name =>
    cases h
    exact .inl ⟨rfl, rfl⟩
  | case2 name t hdot => cases h
  | case3 name t hdot u after next tail hid ih =>
    obtain ⟨v, hv, hnames⟩ := identifier_eq_ok_iff.1 hid
    cases hv
    rcases ih h with ⟨rfl, rfl⟩ | ⟨dot, us, rfl, hdot', hcolumn⟩
    · exact .inr ⟨t, [u], rfl, hdot, .last hnames⟩
    · exact .inr ⟨t, u :: dot :: us, rfl, hdot, .qualified hnames hdot' hcolumn⟩
  | case4 name t hdot u after e hid => cases h
  | case5 name t rest' hdot =>
    cases h
    exact .inl ⟨rfl, rfl⟩

theorem qualified_stop {finish : Nat} {name : String} {rest : List Token}
    (h : isKind .dot rest = false) : qualified finish name rest = .ok (name, rest) := by
  cases rest with
  | nil =>
    unfold qualified
    rfl
  | cons t rest =>
    have hkind : t.kind ≠ .dot := fun hdot => by
      rw [(isKind_cons .dot t rest).2 hdot] at h
      cases h
    unfold qualified
    exact if_neg hkind

/-- A column behind a dot is read to its end, which is where no dot follows. -/
theorem qualified_complete {finish : Nat} {name last : String} {dot : Token}
    {us rest : List Token} (hdot : dot.kind = .dot) (h : Column us last)
    (hstop : isKind .dot rest = false) :
    qualified finish name (dot :: (us ++ rest)) = .ok (last, rest) := by
  induction h generalizing name dot with
  | @last t last hnames =>
    have hid : identifier finish (t :: rest) = .ok (last, rest) :=
      identifier_eq_ok_iff.2 ⟨t, rfl, hnames⟩
    simp only [List.singleton_append]
    rw [qualified, if_pos hdot]
    simp only [hid]
    exact qualified_stop hstop
  | @qualified t dot' ts qualifier last hnames hdot' hrest ih =>
    have hid : identifier finish (t :: dot' :: (ts ++ rest)) = .ok (qualifier, dot' :: (ts ++ rest)) :=
      identifier_eq_ok_iff.2 ⟨t, rfl, hnames⟩
    simp only [List.cons_append]
    rw [qualified, if_pos hdot]
    simp only [hid]
    exact ih hdot'

/-- What is read as a column spells it. -/
theorem column_sound {finish : Nat} {ts rest : List Token} {name : String}
    (h : column finish ts = .ok (name, rest)) : ∃ used, ts = used ++ rest ∧ Column used name := by
  unfold column at h
  split at h
  · next first tail hid =>
    obtain ⟨t, rfl, hnames⟩ := identifier_eq_ok_iff.1 hid
    rcases qualified_sound h with ⟨rfl, rfl⟩ | ⟨dot, us, rfl, hdot, hcolumn⟩
    · exact ⟨[t], rfl, .last hnames⟩
    · exact ⟨t :: dot :: us, rfl, .qualified hnames hdot hcolumn⟩
  · cases h

/-- A column is read, and no more, unless a dot goes on with it. -/
theorem column_complete {finish : Nat} {used rest : List Token} {name : String}
    (h : Column used name) (hstop : isKind .dot rest = false) :
    column finish (used ++ rest) = .ok (name, rest) := by
  unfold column
  cases h with
  | @last t name hnames =>
    have hid : identifier finish (t :: rest) = .ok (name, rest) :=
      identifier_eq_ok_iff.2 ⟨t, rfl, hnames⟩
    simp only [List.singleton_append, hid]
    exact qualified_stop hstop
  | @qualified t dot ts qualifier name hnames hdot hrest =>
    have hid : identifier finish (t :: dot :: (ts ++ rest)) = .ok (qualifier, dot :: (ts ++ rest)) :=
      identifier_eq_ok_iff.2 ⟨t, rfl, hnames⟩
    simp only [List.cons_append, hid]
    exact qualified_complete hdot hrest hstop

/-! ### Literals -/

/-- A literal is one token that spells it. -/
theorem literal_eq_ok_iff {finish : Nat} {ts rest : List Token} {l : Literal} :
    literal finish ts = .ok (l, rest) ↔ ∃ t, ts = t :: rest ∧ Spells t.kind l := by
  constructor
  · intro h
    unfold literal at h
    split at h
    · cases h
    · next t us =>
      split at h
      · next s hkind =>
        cases h
        exact ⟨t, rfl, hkind ▸ .text s⟩
      · next i hkind =>
        cases h
        exact ⟨t, rfl, hkind ▸ .integer i⟩
      · next d hkind =>
        cases h
        exact ⟨t, rfl, hkind ▸ .float d⟩
      · cases h
      · cases h
  · rintro ⟨t, rfl, h⟩
    unfold literal
    generalize hkind : t.kind = kind at h
    cases h with
    | text s => simp only [hkind]
    | integer i => simp only [hkind]
    | float d => simp only [hkind]

/-- Behind a literal of a list stands what closes the list, or a comma and more literals up to
there. -/
theorem moreLiterals_sound {finish : Nat} {soFar ls : List Literal} {ts rest : List Token}
    (h : moreLiterals finish soFar ts = .ok (ls, rest)) :
    ∃ closing, closing.kind = .closing ∧ ((ts = closing :: rest ∧ ls = soFar.reverse) ∨
      ∃ comma us more, ts = comma :: (us ++ closing :: rest) ∧ comma.kind = .comma ∧
        Literals us more ∧ ls = soFar.reverse ++ more) := by
  fun_induction moreLiterals finish soFar ts with
  | case1 soFar => cases h
  | case2 soFar t us hclosing =>
    cases h
    exact ⟨t, hclosing, .inl ⟨rfl, rfl⟩⟩
  | case3 soFar t hclosing hcomma => cases h
  | case4 soFar t hclosing hcomma u after l tail hl ih =>
    obtain ⟨v, hv, hspells⟩ := literal_eq_ok_iff.1 hl
    cases hv
    obtain ⟨closing, hkind, ⟨rfl, rfl⟩ | ⟨comma, us, more, rfl, hcomma', hmore, rfl⟩⟩ := ih h
    · refine ⟨closing, hkind, .inr ⟨t, [u], [l], rfl, hcomma, .last hspells, ?_⟩⟩
      rw [List.reverse_cons]
    · refine ⟨closing, hkind, .inr ⟨t, u :: comma :: us, l :: more, rfl, hcomma,
        .more hspells hcomma' hmore, ?_⟩⟩
      rw [List.reverse_cons, List.append_assoc]
      rfl
  | case5 soFar t hclosing hcomma u after e hl => cases h
  | case6 soFar t us hclosing hcomma => cases h

theorem moreLiterals_closing {finish : Nat} {soFar : List Literal} {closing : Token}
    {rest : List Token} (h : closing.kind = .closing) :
    moreLiterals finish soFar (closing :: rest) = .ok (soFar.reverse, rest) := by
  unfold moreLiterals
  exact if_pos h

theorem moreLiterals_complete {finish : Nat} {soFar ls : List Literal} {comma closing : Token}
    {us rest : List Token} (hcomma : comma.kind = .comma) (h : Literals us ls)
    (hclosing : closing.kind = .closing) :
    moreLiterals finish soFar (comma :: (us ++ closing :: rest)) =
      .ok (soFar.reverse ++ ls, rest) := by
  have hcomma' {t : Token} (ht : t.kind = .comma) : ¬t.kind = .closing := by
    rw [ht]
    exact Token.Kind.noConfusion
  induction h generalizing soFar comma with
  | @last t l hspells =>
    have hl : literal finish (t :: closing :: rest) = .ok (l, closing :: rest) :=
      literal_eq_ok_iff.2 ⟨t, rfl, hspells⟩
    simp only [List.singleton_append]
    rw [moreLiterals, if_neg (hcomma' hcomma), if_pos hcomma]
    simp only [hl]
    rw [moreLiterals_closing hclosing, List.reverse_cons]
  | @more t comma' ts l ls hspells hcomma'' hrest ih =>
    have hl : literal finish (t :: comma' :: (ts ++ closing :: rest)) =
        .ok (l, comma' :: (ts ++ closing :: rest)) := literal_eq_ok_iff.2 ⟨t, rfl, hspells⟩
    simp only [List.cons_append]
    rw [moreLiterals, if_neg (hcomma' hcomma), if_pos hcomma]
    simp only [hl]
    rw [ih hcomma'', List.reverse_cons, List.append_assoc]
    rfl

theorem Grammar.Spells.ne_closing {kind : Token.Kind} {l : Literal} (h : Spells kind l) :
    kind ≠ .closing := by
  cases h <;> exact Token.Kind.noConfusion

/-- A list of literals stands in parentheses and is not empty. -/
theorem literals_sound {finish : Nat} {ts rest : List Token} {ls : List Literal}
    (h : literals finish ts = .ok (ls, rest)) :
    ∃ opening us closing, ts = opening :: (us ++ closing :: rest) ∧ opening.kind = .opening ∧
      Literals us ls ∧ closing.kind = .closing := by
  unfold literals at h
  split at h
  · cases h
  · next t us =>
    split at h
    · cases h
    · next hopening =>
      split at h
      · cases h
      · split at h
        · next l tail hl =>
          obtain ⟨v, rfl, hspells⟩ := literal_eq_ok_iff.1 hl
          obtain ⟨closing, hkind, ⟨rfl, rfl⟩ | ⟨comma, us, more, rfl, hcomma, hmore, rfl⟩⟩ :=
            moreLiterals_sound h
          · exact ⟨t, [v], closing, rfl, Decidable.of_not_not hopening, .last hspells, hkind⟩
          · exact ⟨t, v :: comma :: us, closing, rfl, Decidable.of_not_not hopening,
              .more hspells hcomma hmore, hkind⟩
        · cases h

/-- A list is read up to its closing parenthesis, whatever follows that. -/
theorem literals_complete {finish : Nat} {opening closing : Token} {us rest : List Token}
    {ls : List Literal} (hopening : opening.kind = .opening) (h : Literals us ls)
    (hclosing : closing.kind = .closing) :
    literals finish (opening :: (us ++ closing :: rest)) = .ok (ls, rest) := by
  unfold literals
  simp only [hopening, ne_eq, not_true_eq_false, if_false]
  cases h with
  | @last t l hspells =>
    have hl : literal finish (t :: closing :: rest) = .ok (l, closing :: rest) :=
      literal_eq_ok_iff.2 ⟨t, rfl, hspells⟩
    simp only [List.singleton_append, isKind_ne rfl hspells.ne_closing, Bool.false_eq_true,
      if_false, hl]
    exact moreLiterals_closing hclosing
  | @more t comma ts l ls hspells hcomma hrest =>
    have hl : literal finish (t :: comma :: (ts ++ closing :: rest)) =
        .ok (l, comma :: (ts ++ closing :: rest)) := literal_eq_ok_iff.2 ⟨t, rfl, hspells⟩
    simp only [List.cons_append, isKind_ne rfl hspells.ne_closing, Bool.false_eq_true,
      if_false, hl]
    exact moreLiterals_complete hcomma hrest hclosing

/-! ### Single conditions -/

/-- The pattern of a `LIKE` is one text, and that text can be read as a pattern. -/
theorem likePattern_eq_ok_iff {finish : Nat} {ts rest : List Token} {pattern : Like} :
    likePattern finish ts = .ok (pattern, rest) ↔
      ∃ t source, ts = t :: rest ∧ t.kind = .text source ∧ Like.read? source = some pattern := by
  constructor
  · intro h
    unfold likePattern at h
    split at h
    · next source tail hl =>
      split at h
      · next p hp =>
        cases h
        obtain ⟨t, rfl, hspells⟩ := literal_eq_ok_iff.1 hl
        generalize hkind : t.kind = kind at hspells
        cases hspells
        exact ⟨t, source, rfl, hkind, hp⟩
      · cases h
    · cases h
    · cases h
  · rintro ⟨t, source, rfl, hkind, hp⟩
    have hl : literal finish (t :: rest) = .ok (.text source, rest) :=
      literal_eq_ok_iff.2 ⟨t, rfl, hkind ▸ .text source⟩
    unfold likePattern
    simp only [hl, hp]

theorem comparison?_name {t : Token} {word : String} (h : t.isKeyword word = true) :
    comparison? t.kind = none := by
  obtain ⟨text, hkind⟩ := exists_name_of_isKeyword h
  rw [hkind]
  rfl

/-- What follows a `NOT` that may be there. -/
theorem test_word (finish : Nat) (field : String) {ns : List Token} {negated : Bool}
    (hn : Negation ns negated) {t : Token} (hnot : t.isKeyword "NOT" = false)
    (hnone : comparison? t.kind = none) (rest : List Token)
    (hword : t.isKeyword "IN" = true ∨ t.isKeyword "LIKE" = true) :
    test finish field (ns ++ t :: rest) =
      if t.isKeyword "IN" then
        match literals finish rest with
        | .ok (ls, rest) => .ok (.among field ls negated, rest)
        | .error e => .error e
      else match likePattern finish rest with
        | .ok (pattern, rest) => .ok (.like field pattern negated, rest)
        | .error e => .error e := by
  have hlike (h : ¬t.isKeyword "IN" = true) : t.isKeyword "LIKE" = true := hword.resolve_left h
  cases hn with
  | absent =>
    simp only [List.nil_append, test, hnone, hnot, Bool.false_eq_true, if_false, nextIs,
      List.head?_cons, Option.any_some, List.drop_one, List.tail_cons]
    split
    · rfl
    · next hin =>
      refine (if_pos (hlike hin)).trans ?_
      cases likePattern finish rest with
      | ok read => rfl
      | error e => rfl
  | @present s hs =>
    simp only [List.singleton_append, test, comparison?_name hs, hs, if_true, nextIs,
      List.head?_cons, Option.any_some, List.drop_one, List.tail_cons]
    split
    · rfl
    · next hin =>
      refine (if_pos (hlike hin)).trans ?_
      cases likePattern finish rest with
      | ok read => rfl
      | error e => rfl

/-- A test is read, and no more, whatever follows. -/
theorem test_complete {finish : Nat} {field : String} {used : List Token} {c : Condition}
    (h : Test field used c) (rest : List Token) :
    test finish field (used ++ rest) = .ok (c, rest) := by
  cases h with
  | @compare t u comparison l hcomparison hl =>
    have hliteral : literal finish (u :: rest) = .ok (l, rest) :=
      literal_eq_ok_iff.2 ⟨u, rfl, hl⟩
    simp only [List.cons_append, List.nil_append, test, hcomparison, hliteral]
  | @among ns ts t opening closing ls negated hn hin hopening hls hclosing =>
    have hnot : t.isKeyword "NOT" = false := isKeyword_unique hin (by decide)
    have hlist : literals finish (opening :: (ts ++ closing :: rest)) = .ok (ls, rest) :=
      literals_complete hopening hls hclosing
    have happend : ns ++ t :: opening :: (ts ++ [closing]) ++ rest =
        ns ++ t :: (opening :: (ts ++ closing :: rest)) := by
      simp only [List.append_assoc, List.cons_append, List.nil_append]
    rw [happend, test_word finish field hn hnot (comparison?_name hin) _ (.inl hin), if_pos hin]
    simp only [hlist]
  | @like ns t u source pattern negated hn hlike hu hpattern =>
    have hnot : t.isKeyword "NOT" = false := isKeyword_unique hlike (by decide)
    have hin : t.isKeyword "IN" = false := isKeyword_unique hlike (by decide)
    have hread : likePattern finish (u :: rest) = .ok (pattern, rest) :=
      likePattern_eq_ok_iff.2 ⟨u, source, rfl, hu, hpattern⟩
    have happend : ns ++ [t, u] ++ rest = ns ++ t :: (u :: rest) := by
      simp only [List.append_assoc, List.cons_append, List.nil_append]
    rw [happend, test_word finish field hn hnot (comparison?_name hlike) _ (.inr hlike), hin]
    simp only [Bool.false_eq_true, if_false, hread]

theorem nextIs_eq_true_iff {word : String} {ts : List Token} :
    nextIs word ts = true ↔ ∃ t rest, ts = t :: rest ∧ t.isKeyword word = true := by
  cases ts with
  | nil => exact ⟨fun h => (Bool.false_ne_true h).elim, fun ⟨_, _, h, _⟩ => by cases h⟩
  | cons t rest =>
    constructor
    · exact fun h => ⟨t, rest, rfl, h⟩
    · rintro ⟨_, _, heq, h⟩
      cases heq
      exact h

/-- What is read behind a column is a test of it. -/
theorem test_sound {finish : Nat} {field : String} {ts rest : List Token} {c : Condition}
    (h : test finish field ts = .ok (c, rest)) :
    ∃ used, ts = used ++ rest ∧ Test field used c := by
  unfold test at h
  split at h
  · cases h
  · next t us =>
    split at h
    · next comparison hcomparison =>
      split at h
      · next l tail hl =>
        cases h
        obtain ⟨u, rfl, hspells⟩ := literal_eq_ok_iff.1 hl
        exact ⟨[t, u], rfl, .compare hcomparison hspells⟩
      · cases h
    · -- The word that is looked at is the second one if there is a `NOT`.
      have hword : ∃ ns negated, Negation ns negated ∧ negated = t.isKeyword "NOT" ∧
          t :: us = ns ++ (if t.isKeyword "NOT" = true then us else t :: us) := by
        cases hnot : t.isKeyword "NOT" with
        | true => exact ⟨[t], true, .present hnot, rfl, rfl⟩
        | false => exact ⟨[], false, .absent, rfl, rfl⟩
      obtain ⟨ns, negated, hn, hnot, heq⟩ := hword
      dsimp only at h
      rw [← hnot] at h heq
      generalize (if negated = true then us else t :: us) = inner at h heq
      rw [heq]
      split at h
      · next hin =>
        obtain ⟨v, tail, rfl, hv⟩ := nextIs_eq_true_iff.1 hin
        split at h
        · next ls after hls =>
          cases h
          obtain ⟨opening, ts, closing, htail, hopening, hspells, hclosing⟩ := literals_sound hls
          rw [List.drop_one, List.tail_cons] at htail
          refine ⟨_, ?_, .among hn hv hopening hspells hclosing⟩
          simp only [htail, List.append_assoc, List.cons_append, List.nil_append]
        · cases h
      · split at h
        · next hlike =>
          obtain ⟨v, tail, rfl, hv⟩ := nextIs_eq_true_iff.1 hlike
          split at h
          · next pattern after hpattern =>
            cases h
            obtain ⟨u, source, htail, hu, hread⟩ := likePattern_eq_ok_iff.1 hpattern
            rw [List.drop_one, List.tail_cons] at htail
            refine ⟨_, ?_, .like hn hv hu hread⟩
            simp only [htail, List.append_assoc, List.cons_append, List.nil_append]
          · cases h
        · split at h
          · cases h
          · split at h <;> cases h

/-! ### Connectives -/

/-- What is read spells what comes out, for lists of tokens of a bounded length. -/
def Sound (bound : Nat) (read : Reads Condition) (Spelled : Spelling) : Prop :=
  ∀ ⦃ts rest : List Token⦄ ⦃c : Condition⦄, ts.length ≤ bound → read ts = .ok (c, rest) →
    ∃ used, ts = used ++ rest ∧ Spelled used c

/-- What spells something is read, and no more, if what follows lets the reader stop. -/
def Complete (bound : Nat) (read : Reads Condition) (Spelled : Spelling)
    (Stops : List Token → Prop) : Prop :=
  ∀ ⦃used rest : List Token⦄ ⦃c : Condition⦄, (used ++ rest).length ≤ bound → Spelled used c →
    Stops rest → read (used ++ rest) = .ok (c, rest)

/-- What holds of longer lists of tokens holds of shorter ones. -/
theorem Sound.mono {bound less : Nat} {read : Reads Condition} {Spelled : Spelling}
    (h : Sound bound read Spelled) (hle : less ≤ bound) : Sound less read Spelled :=
  fun _ _ _ hlen => h (Nat.le_trans hlen hle)

theorem Complete.mono {bound less : Nat} {read : Reads Condition} {Spelled : Spelling}
    {Stops : List Token → Prop} (h : Complete bound read Spelled Stops) (hle : less ≤ bound) :
    Complete less read Spelled Stops := fun _ _ _ hlen => h (Nat.le_trans hlen hle)

/-- Nothing is spelled without a token. -/
def Inhabits (Spelled : Spelling) : Prop :=
  ∀ ⦃ts : List Token⦄ ⦃c : Condition⦄, Spelled ts c → ts ≠ []

section
variable {word : String} {join : Condition → Condition → Condition} {part : Reads Condition}
  {Part : Spelling}

/-- Parts that were read are joined to those before them, from the left. -/
theorem chain_sound {soFar : List Condition} {fuel : Nat} {ts rest : List Token} {c : Condition}
    (hpart : Sound fuel part Part) (hne : Inhabits Part) (hlen : ts.length ≤ fuel)
    (h : chain word join part soFar fuel ts = .ok (c, rest)) :
    ∃ used cs, ts = used ++ rest ∧ Parts word Part used cs ∧ Joined join (soFar.reverse ++ cs) c := by
  induction fuel generalizing soFar ts with
  | zero =>
    -- There are no tokens left, so the last part was read of nothing.
    cases List.length_eq_zero_iff.1 (Nat.le_zero.1 hlen)
    obtain ⟨used, hused, hspelled⟩ := hpart hlen h
    exact absurd (List.append_eq_nil_iff.1 hused.symm).1 (hne hspelled)
  | succ fuel ih =>
    rw [chain] at h
    split at h
    · cases h
    · next first tail hfirst =>
      obtain ⟨used, rfl, hspelled⟩ := hpart hlen hfirst
      split at h
      · next hword =>
        obtain ⟨t, after, rfl, ht⟩ := nextIs_eq_true_iff.1 hword
        rw [List.drop_one, List.tail_cons] at h
        rw [List.length_append, List.length_cons] at hlen
        obtain ⟨more, cs, rfl, hparts, hjoined⟩ :=
          ih (hpart.mono (Nat.le_succ fuel)) (by omega) h
        refine ⟨used ++ t :: more, first :: cs, ?_, .more hspelled ht hparts, ?_⟩
        · rw [List.append_assoc, List.cons_append]
        · rw [List.reverse_cons, List.append_assoc] at hjoined
          exact hjoined
      · cases h
        refine ⟨used, [first], rfl, .last hspelled, ?_⟩
        rw [← List.reverse_cons]
        exact (joined_iff first (List.reverse_ne_nil_iff.2 (List.cons_ne_nil _ _))).2 rfl

/-- A chain is read to its end, if its word lets the part before it stop and none follows. -/
theorem chain_complete {Stops : List Token → Prop} {soFar cs : List Condition} {fuel : Nat}
    {used rest : List Token} {c : Condition} (hpart : Complete fuel part Part Stops)
    (hne : Inhabits Part) (hgoes : ∀ t after, t.isKeyword word = true → Stops (t :: after))
    (hlen : (used ++ rest).length ≤ fuel) (h : Parts word Part used cs)
    (hjoined : Joined join (soFar.reverse ++ cs) c) (hstops : Stops rest)
    (hnext : nextIs word rest = false) :
    chain word join part soFar fuel (used ++ rest) = .ok (c, rest) := by
  induction h generalizing soFar fuel with
  | @last ts first hspelled =>
    have hpos := List.length_pos_iff.2 (hne hspelled)
    cases fuel with
    | zero =>
      rw [List.length_append] at hlen
      omega
    | succ fuel =>
      rw [chain, hpart hlen hspelled hstops]
      dsimp only
      rw [hnext, if_neg Bool.false_ne_true]
      rw [← List.reverse_cons, joined_iff first] at hjoined
      · rw [hjoined]
      · exact List.reverse_ne_nil_iff.2 (List.cons_ne_nil _ _)
  | @more ts us t first cs hspelled hword hrest ih =>
    cases fuel with
    | zero =>
      rw [List.length_append, List.length_append, List.length_cons] at hlen
      omega
    | succ fuel =>
      rw [List.append_assoc, List.cons_append] at hlen ⊢
      rw [chain, hpart hlen hspelled (hgoes t _ hword)]
      dsimp only
      rw [if_pos (nextIs_eq_true_iff.2 ⟨t, us ++ rest, rfl, hword⟩), List.drop_one, List.tail_cons]
      refine ih (hpart.mono (Nat.le_succ fuel)) ?_ ?_
      · rw [List.length_append, List.length_cons] at hlen
        omega
      · rw [List.reverse_cons, List.append_assoc]
        exact hjoined

theorem Grammar.Parts.ne_nil {ts : List Token} {cs : List Condition} (h : Parts word Part ts cs)
    (hne : Inhabits Part) : ts ≠ [] := by
  cases h with
  | last h => exact hne h
  | more h hword hrest => exact List.append_ne_nil_of_right_ne_nil _ (List.cons_ne_nil _ _)

theorem inhabits_chain (hne : Inhabits Part) : Inhabits (Chain word join Part) :=
  fun _ _ ⟨_, hparts, _⟩ => hparts.ne_nil hne

theorem sound_chain {fuel : Nat} (hpart : Sound fuel part Part) (hne : Inhabits Part) :
    Sound fuel (chain word join part [] fuel) (Chain word join Part) := by
  intro ts rest c hlen h
  obtain ⟨used, cs, hts, hparts, hjoined⟩ := chain_sound hpart hne hlen h
  exact ⟨used, hts, cs, hparts, hjoined⟩

theorem complete_chain {Stops : List Token → Prop} {fuel : Nat}
    (hpart : Complete fuel part Part Stops) (hne : Inhabits Part)
    (hgoes : ∀ t after, t.isKeyword word = true → Stops (t :: after)) :
    Complete fuel (chain word join part [] fuel) (Chain word join Part)
      fun rest => Stops rest ∧ nextIs word rest = false := by
  rintro used rest c hlen ⟨cs, hparts, hjoined⟩ ⟨hstops, hnext⟩
  exact chain_complete hpart hne hgoes hlen hparts hjoined hstops hnext

end

/-! ### Levels -/

theorem Grammar.Column.exists_names {ts : List Token} {name : String} (h : Column ts name) :
    ∃ t us first, ts = t :: us ∧ Names t first := by
  cases h with
  | last h => exact ⟨_, _, _, rfl, h⟩
  | qualified h hdot hrest => exact ⟨_, _, _, rfl, h⟩

theorem Grammar.Names.ne_opening {t : Token} {name : String} (h : Names t name) :
    t.kind ≠ .opening := by
  cases h with
  | plain h hfree =>
    rw [h]
    exact Token.Kind.noConfusion
  | quoted h =>
    rw [h]
    exact Token.Kind.noConfusion

/-- No test begins with a dot. -/
theorem Grammar.Test.isKind_dot {field : String} {us : List Token} {c : Condition}
    (h : Test field us c) (rest : List Token) : isKind .dot (us ++ rest) = false := by
  have hword {t : Token} {word : String} (ht : t.isKeyword word = true) (after : List Token) :
      isKind .dot (t :: after) = false := by
    obtain ⟨text, hkind⟩ := exists_name_of_isKeyword ht
    exact isKind_ne hkind Token.Kind.noConfusion after
  have hnegation {ns : List Token} {negated : Bool} (hn : Negation ns negated) {t : Token}
      {word : String} (ht : t.isKeyword word = true) (after : List Token) :
      isKind .dot (ns ++ t :: after) = false := by
    cases hn with
    | absent => exact hword ht after
    | present hs => exact hword hs (t :: after)
  cases h with
  | @compare t u comparison l hcomparison hl =>
    refine isKind_ne rfl (fun hdot => ?_) ([u] ++ rest)
    rw [hdot] at hcomparison
    cases hcomparison
  | among hn hin hopening hls hclosing =>
    rw [List.append_assoc]
    exact hnegation hn hin _
  | like hn hlike hu hpattern =>
    rw [List.append_assoc]
    exact hnegation hn hlike _

/-- A condition without connectives begins with a parenthesis or with a column. -/
theorem inhabits_primary (Nested : Spelling) : Inhabits (Primary Nested) := by
  intro ts c h
  cases h with
  | nested => exact List.cons_ne_nil _ _
  | single h htest =>
    obtain ⟨t, us, first, rfl, -⟩ := h.exists_names
    exact List.cons_ne_nil _ _

/-- What is read as one part is a condition in parentheses or a test. A `NOT` in front is refused. -/
theorem sound_primary {finish bound : Nat} {nested : Option (Reads Condition)} {Nested : Spelling}
    (hnested : ∀ inner ∈ nested, Sound bound inner Nested) :
    Sound bound (primary finish nested) (Primary Nested) := by
  intro ts rest c hlen h
  unfold primary at h
  split at h
  · cases h
  · next t us =>
    split at h
    · next hopening =>
      split at h
      · cases h
      · next inner =>
        split at h
        · cases h
        · next tail hinner =>
          have hbound : us.length ≤ bound := Nat.le_of_succ_le hlen
          obtain ⟨used, rfl, hspelled⟩ := hnested inner rfl hbound hinner
          split at h
          · next hclosing =>
            cases h
            cases tail with
            | nil => cases hclosing
            | cons v after =>
              have hkind := (isKind_cons .closing v after).1 hclosing
              refine ⟨_, ?_, .nested hopening hspelled hkind⟩
              simp only [List.cons_append, List.append_assoc, List.nil_append, List.drop_one,
                List.tail_cons]
          · cases h
    · split at h
      · cases h
      · split at h
        · next field tail hcolumn =>
          obtain ⟨names, hts, hspelled⟩ := column_sound hcolumn
          obtain ⟨used, rfl, htest⟩ := test_sound h
          refine ⟨names ++ used, ?_, .single hspelled htest⟩
          rw [hts, List.append_assoc]
        · cases h

/-- One part is read, and no more, whatever follows. -/
theorem complete_primary {finish bound : Nat} {nested : Option (Reads Condition)}
    {Nested : Spelling} {Stops : List Token → Prop}
    (hnested : ∀ {ts c}, Nested ts c → ∃ inner, nested = some inner ∧ Complete bound inner Nested Stops)
    (hstops : ∀ {t after}, t.kind = .closing → Stops (t :: after)) :
    Complete bound (primary finish nested) (Primary Nested) fun _ => True := by
  intro used rest c hlen h _
  cases h with
  | @nested opening closing ts c hopening h hclosing =>
    obtain ⟨inner, hinner, hcomplete⟩ := hnested h
    have happend : opening :: (ts ++ [closing]) ++ rest = opening :: (ts ++ closing :: rest) := by
      simp only [List.cons_append, List.append_assoc, List.nil_append]
    rw [happend] at hlen ⊢
    have hread := hcomplete (Nat.le_of_succ_le hlen) h (hstops hclosing)
    simp only [primary, hopening, if_true, hinner, hread, (isKind_cons .closing closing rest).2 hclosing,
      List.drop_one, List.tail_cons]
  | @single ts us field c h htest =>
    obtain ⟨t, names, first, rfl, hnames⟩ := h.exists_names
    have hcolumn : column finish (t :: names ++ (us ++ rest)) = .ok (field, us ++ rest) :=
      column_complete h (htest.isKind_dot rest)
    have hnot : t.isKeyword "NOT" = false := hnames.isKeyword (by decide)
    rw [List.append_assoc]
    rw [List.cons_append] at hcolumn ⊢
    simp only [primary, hnames.ne_opening, if_false, hnot, Bool.false_eq_true, hcolumn]
    exact test_complete htest rest

/-- What may follow a condition: no connective. -/
def Ends (rest : List Token) : Prop := nextIs "AND" rest = false ∧ nextIs "OR" rest = false

theorem sound_disjunction {fuel : Nat} {part : Reads Condition} {Part : Spelling}
    (hpart : Sound fuel part Part) (hne : Inhabits Part) :
    Sound fuel (disjunction fuel part) (Disjunction Part) :=
  sound_chain (sound_chain hpart hne) (inhabits_chain hne)

/-- `AND` and `OR` both end what is before them, so each chain finds its end. -/
theorem complete_disjunction {fuel : Nat} {part : Reads Condition} {Part : Spelling}
    (hpart : Complete fuel part Part fun _ => True) (hne : Inhabits Part) :
    Complete fuel (disjunction fuel part) (Disjunction Part) Ends := by
  have hand : Complete fuel (chain "AND" .both part [] fuel) (Chain "AND" .both Part)
      fun rest => True ∧ nextIs "AND" rest = false :=
    complete_chain hpart hne fun _ _ _ => trivial
  have hor : Complete fuel (disjunction fuel part) (Disjunction Part)
      fun rest => (True ∧ nextIs "AND" rest = false) ∧ nextIs "OR" rest = false :=
    complete_chain hand (inhabits_chain hne) fun _ _ hword =>
      ⟨trivial, isKeyword_unique hword (by decide)⟩
  exact fun _ _ _ hlen h hends => hor hlen h ⟨⟨trivial, hends.1⟩, hends.2⟩

theorem ends_cons {t : Token} {kind : Token.Kind} (h : t.kind = kind)
    (hname : ∀ text, kind ≠ .name text) (rest : List Token) : Ends (t :: rest) :=
  ⟨isKeyword_of_kind h hname "AND", isKeyword_of_kind h hname "OR"⟩

/-- **At every level, what is read is what is spelled.** -/
theorem sound_expression (finish fuel levels : Nat) :
    Sound fuel (expression finish fuel levels) (Expression levels) := by
  induction levels with
  | zero =>
    exact sound_disjunction (sound_primary fun inner h => by cases h) (inhabits_primary _)
  | succ levels ih =>
    refine sound_disjunction (sound_primary fun inner h => ?_) (inhabits_primary _)
    cases h
    exact ih

/-- **At every level, what is spelled is read**, and no more, unless a connective goes on with it. -/
theorem complete_expression (finish fuel levels : Nat) :
    Complete fuel (expression finish fuel levels) (Expression levels) Ends := by
  have hclosing {t : Token} {after : List Token} (h : t.kind = .closing) : Ends (t :: after) :=
    ends_cons h (fun _ => Token.Kind.noConfusion) after
  induction levels with
  | zero =>
    have hnone : False → ∃ inner, none = some inner ∧
        Complete fuel inner (fun (_ : List Token) (_ : Condition) => False) Ends := False.elim
    exact complete_disjunction (complete_primary (fun h => hnone h) hclosing) (inhabits_primary _)
  | succ levels ih =>
    exact complete_disjunction (complete_primary (fun _ => ⟨_, rfl, ih⟩) hclosing)
      (inhabits_primary _)

end Watchpost.Condition
