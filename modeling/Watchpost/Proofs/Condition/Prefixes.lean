import Watchpost.Proofs.Condition.Reading

/-! Where reading fails.

A reader that fails points at the first token that nothing goes on with: the tokens before it are
the beginning of something that is spelled, and whatever begins with them and that token is not
read (`Blames`). For this a reader must not look past the first token after what it takes
(`Settled`). Both are carried from each reader to the ones that call it, up to whole expressions
(`blames_expression`). -/
namespace Watchpost.Condition

open Grammar

/-! ### Places -/

/-- The byte that the first token begins at, or the end of the text if there is none. -/
def place (finish : Nat) (ts : List Token) : Nat := (ts.head?.map (·.offset)).getD finish

/-- A place in a list of tokens up to which it is `Good`, and `Bad` with one more token. -/
def Parted (finish : Nat) (Good Bad : List Token → Prop) (ts : List Token) (o : Nat) : Prop :=
  ∃ used rest, ts = used ++ rest ∧ o = place finish rest ∧ Good used ∧
    ∀ t ∈ rest.head?, Bad (used ++ [t])

section
variable {finish o : Nat} {Good Bad Good' Bad' : List Token → Prop} {ts : List Token}

/-- The place before the first token. -/
theorem Parted.start (hplace : o = place finish ts) (hgood : Good [])
    (hbad : ∀ t us, ts = t :: us → Bad [t]) : Parted finish Good Bad ts o := by
  refine ⟨[], ts, rfl, hplace, hgood, fun t ht => ?_⟩
  obtain ⟨us, rfl⟩ := List.head?_eq_some_iff.1 ht
  exact hbad t us rfl

/-- The place behind tokens that were read. -/
theorem Parted.after (pre : List Token) (h : Parted finish Good Bad ts o)
    (hgood : ∀ us, Good us → Good' (pre ++ us))
    (hbad : ∀ us, (∀ more, (us ++ more).head? = ts.head?) → Bad us → Bad' (pre ++ us)) :
    Parted finish Good' Bad' (pre ++ ts) o := by
  obtain ⟨used, rest, rfl, hplace, hused, hnext⟩ := h
  refine ⟨pre ++ used, rest, (List.append_assoc pre used rest).symm, hplace, hgood used hused,
    fun t ht => ?_⟩
  obtain ⟨us, rfl⟩ := List.head?_eq_some_iff.1 ht
  rw [List.append_assoc]
  refine hbad (used ++ [t]) (fun more => ?_) (hnext t ht)
  cases used <;> rfl

theorem Parted.mono (h : Parted finish Good Bad ts o) (hgood : ∀ us, Good us → Good' us)
    (hbad : ∀ us, (∀ more, (us ++ more).head? = ts.head?) → Bad us → Bad' us) :
    Parted finish Good' Bad' ts o := by
  have hafter : Parted finish Good' Bad' ([] ++ ts) o := h.after [] hgood hbad
  exact hafter

end

/-! ### Blame -/

/-- What something that is spelled may begin with. -/
def Opens {α : Type} (Spelled : List Token → α → Prop) (us : List Token) : Prop :=
  ∃ more x, Spelled (us ++ more) x

/-- Nothing that begins so is read, with however much fuel. -/
def Blocks {β : Type} (read : Nat → List Token → Except Fault β) (us : List Token) : Prop :=
  ∀ ⦃fuel : Nat⦄ ⦃more : List Token⦄, (us ++ more).length ≤ fuel →
    ∃ e, read fuel (us ++ more) = .error e

/-- A flaw is shown at the first token that nothing goes on with. -/
def Blames {α β : Type} (finish : Nat) (read : Nat → List Token → Except Fault β)
    (Spelled : List Token → α → Prop) : Prop :=
  ∀ ⦃fuel : Nat⦄ ⦃ts : List Token⦄ ⦃o : Nat⦄ ⦃flaw : Flaw⦄, ts.length ≤ fuel →
    read fuel ts = .error (.at o flaw) → Parted finish (Opens Spelled) (Blocks read) ts o

/-- What is read stays so whatever comes after the first token that follows it. -/
def Settled {α : Type} (read : Nat → Reads α) (Spelled : List Token → α → Prop) : Prop :=
  ∀ ⦃fuel : Nat⦄ ⦃ts rest : List Token⦄ ⦃x : α⦄, ts.length ≤ fuel → read fuel ts = .ok (x, rest) →
    ∃ used, ts = used ++ rest ∧ Spelled used x ∧ ∀ ⦃fuel : Nat⦄ ⦃after : List Token⦄,
      after.head? = rest.head? → (used ++ after).length ≤ fuel →
      read fuel (used ++ after) = .ok (x, after)

/-! ### Single tokens -/

/-- A token on its own, to go on with. -/
def loose (kind : Token.Kind) : Token := ⟨kind, 0, []⟩

/-- A reader that takes one token blames that token. -/
theorem blames_token {α : Type} {finish : Nat} {read : Reads α} {Takes : Token → α → Prop}
    (hiff : ∀ ⦃ts rest x⦄, read ts = .ok (x, rest) ↔ ∃ t, ts = t :: rest ∧ Takes t x)
    (hplace : ∀ ⦃ts o flaw⦄, read ts = .error (.at o flaw) → o = place finish ts)
    (hex : ∃ t x, Takes t x) : Blames finish (fun _ => read) fun us x => ∃ t, us = [t] ∧ Takes t x := by
  intro fuel ts o flaw _ h
  obtain ⟨sample, x, hsample⟩ := hex
  refine .start (hplace h) ⟨[sample], x, sample, rfl, hsample⟩ ?_
  rintro t us rfl _ more _
  dsimp only at h ⊢
  cases hread : read ([t] ++ more) with
  | error e => exact ⟨e, rfl⟩
  | ok out =>
    obtain ⟨y, rest⟩ := out
    obtain ⟨u, heq, htakes⟩ := hiff.1 hread
    cases heq
    rw [hiff.2 ⟨t, rfl, htakes⟩] at h
    cases h

theorem names_loose : Names (loose (.name "a")) "a" := .plain rfl (by decide)

theorem blames_identifier (finish : Nat) :
    Blames finish (fun _ => identifier finish) fun us name => ∃ t, us = [t] ∧ Names t name := by
  refine blames_token (fun _ _ _ => identifier_eq_ok_iff) (fun ts o flaw h => ?_)
    ⟨_, _, names_loose⟩
  unfold identifier at h
  split at h
  · cases h
    rfl
  · split at h
    · split at h
      · cases h
        rfl
      · cases h
    · cases h
    · cases h
      rfl

theorem literal_place {finish : Nat} {ts : List Token} {o : Nat} {flaw : Flaw}
    (h : literal finish ts = .error (.at o flaw)) : o = place finish ts := by
  unfold literal at h
  split at h
  · cases h
    rfl
  · split at h
    · cases h
    · cases h
    · cases h
    · cases h
      rfl
    · cases h
      rfl

theorem blames_literal (finish : Nat) :
    Blames finish (fun _ => literal finish) fun us l => ∃ t, us = [t] ∧ Spells t.kind l :=
  blames_token (fun _ _ _ => literal_eq_ok_iff) (fun _ _ _ => literal_place)
    ⟨loose (.integer 1), _, .integer 1⟩

theorem exists_pattern : ∃ pattern, Like.read? "a" = some pattern :=
  Option.isSome_iff_exists.1 (by decide +kernel)

theorem blames_likePattern (finish : Nat) :
    Blames finish (fun _ => likePattern finish) fun us pattern =>
      ∃ t, us = [t] ∧ ∃ source, t.kind = .text source ∧ Like.read? source = some pattern := by
  obtain ⟨pattern, hpattern⟩ := exists_pattern
  refine blames_token (fun _ _ _ => ?_) (fun ts o flaw h => ?_)
    ⟨loose (.text "a"), pattern, "a", rfl, hpattern⟩
  · rw [likePattern_eq_ok_iff]
    exact exists_congr fun t => exists_and_left
  · unfold likePattern at h
    split at h
    · split at h <;> cases h
    · cases h
      rfl
    · next e hl =>
      cases h
      exact literal_place hl

/-! ### Columns -/

theorem qualified_error {finish : Nat} {name : String} {t u : Token} {us ts : List Token} {e : Fault}
    (ht : t.kind = .dot) (hhead : us.head? = (u :: ts).head?) (h : identifier finish us = .error e) :
    qualified finish name (t :: us) = .error e := by
  obtain ⟨after, rfl⟩ := List.head?_eq_some_iff.1 hhead
  rw [qualified, if_pos ht]
  simp only [h]

/-- The names after the first one are blamed for the lists that begin with a dot. -/
theorem qualified_blamed {finish : Nat} {name : String} {ts : List Token} {o : Nat} {flaw : Flaw}
    (h : qualified finish name ts = .error (.at o flaw)) :
    Parted finish (Opens fun us last => ∃ dot vs, us = dot :: vs ∧ dot.kind = .dot ∧ Column vs last)
      (fun us => ∀ name more, ∃ e, qualified finish name (us ++ more) = .error e) ts o := by
  fun_induction qualified finish name ts with
  | case1 name => cases h
  | case2 name t hdot =>
    cases h
    exact ⟨[t], [], rfl, rfl, ⟨[_], _, t, _, rfl, hdot, .last names_loose⟩, fun _ h => by cases h⟩
  | case3 name t hdot u after next tail hid ih =>
    obtain ⟨v, hv, hnames⟩ := identifier_eq_ok_iff.1 hid
    cases hv
    refine Parted.after [t, u] (ih h) ?_ ?_
    · rintro us ⟨more, last, dot, vs, hvs, hdot', hcolumn⟩
      refine ⟨more, last, t, u :: dot :: vs, ?_, hdot, .qualified hnames hdot' hcolumn⟩
      rw [List.append_assoc, hvs]
      rfl
    · intro us _ hus name' more
      have hread : identifier finish (u :: (us ++ more)) = .ok (next, us ++ more) :=
        identifier_eq_ok_iff.2 ⟨u, rfl, hnames⟩
      obtain ⟨e, he⟩ := hus next more
      refine ⟨e, ?_⟩
      simp only [List.cons_append, List.nil_append]
      rw [qualified, if_pos hdot]
      simp only [hread]
      exact he
  | case4 name t hdot u after e hid =>
    cases h
    refine Parted.after [t] (blames_identifier finish (Nat.le_refl _) hid) ?_ ?_
    · rintro us ⟨more, last, v, hv, hnames⟩
      exact ⟨more, last, t, [v], congrArg (t :: ·) hv, hdot, .last hnames⟩
    · intro us hhead hus name' more
      obtain ⟨e, he⟩ := hus (Nat.le_refl (us ++ more).length)
      exact ⟨e, qualified_error hdot (hhead more) he⟩
  | case5 name t rest hdot => cases h

theorem blames_column (finish : Nat) : Blames finish (fun _ => column finish) Column := by
  intro fuel ts o flaw hlen h
  dsimp only [column] at h
  split at h
  · next name rest hid =>
    obtain ⟨t, rfl, hnames⟩ := identifier_eq_ok_iff.1 hid
    refine Parted.after [t] (qualified_blamed h) ?_ ?_
    · rintro us ⟨more, last, dot, vs, hvs, hdot, hcolumn⟩
      refine ⟨more, last, ?_⟩
      rw [List.append_assoc, hvs]
      exact .qualified hnames hdot hcolumn
    · intro us _ hus fuel more _
      have hread : identifier finish (t :: (us ++ more)) = .ok (name, us ++ more) :=
        identifier_eq_ok_iff.2 ⟨t, rfl, hnames⟩
      obtain ⟨e, he⟩ := hus name more
      refine ⟨e, ?_⟩
      simp only [List.cons_append, List.nil_append, column, hread, he]
  · next e hid =>
    cases h
    refine (blames_identifier finish hlen hid).mono ?_ ?_
    · rintro us ⟨more, name, t, ht, hnames⟩
      exact ⟨more, name, ht ▸ .last hnames⟩
    · intro us _ hus fuel more hmore
      obtain ⟨e, he⟩ := hus hmore
      exact ⟨e, by simp only [column, he]⟩

theorem qualified_stops {finish : Nat} {name last : String} {ts rest : List Token}
    (h : qualified finish name ts = .ok (last, rest)) : isKind .dot rest = false := by
  fun_induction qualified finish name ts with
  | case1 name =>
    cases h
    rfl
  | case2 name t hdot => cases h
  | case3 name t hdot u after next tail hid ih => exact ih h
  | case4 name t hdot u after e hid => cases h
  | case5 name t us hdot =>
    cases h
    exact beq_eq_false_iff_ne.2 hdot

theorem settled_column (finish : Nat) : Settled (fun _ => column finish) Column := by
  intro fuel ts rest name _ h
  obtain ⟨used, hused, hcolumn⟩ := column_sound h
  have hstops : isKind .dot rest = false := by
    dsimp only [column] at h
    split at h
    · exact qualified_stops h
    · cases h
  refine ⟨used, hused, hcolumn, fun fuel after hhead _ => column_complete hcolumn ?_⟩
  rw [isKind, hhead]
  exact hstops

/-! ### Lists of literals -/

/-- Literals with a closing parenthesis behind them. -/
def Closed (us : List Token) (ls : List Literal) : Prop :=
  ∃ ts closing, us = ts ++ [closing] ∧ Literals ts ls ∧ closing.kind = .closing

/-- A list of literals in parentheses. -/
def Listed (us : List Token) (ls : List Literal) : Prop :=
  ∃ opening ts, us = opening :: ts ∧ opening.kind = .opening ∧ Closed ts ls

theorem Closed.more {t comma : Token} {l : Literal} {us : List Token} {ls : List Literal}
    (ht : Spells t.kind l) (hcomma : comma.kind = .comma) (h : Closed us ls) :
    Closed (t :: comma :: us) (l :: ls) := by
  obtain ⟨ts, closing, rfl, hls, hclosing⟩ := h
  exact ⟨t :: comma :: ts, closing, rfl, .more ht hcomma hls, hclosing⟩

theorem closed_last {t closing : Token} {l : Literal} (ht : Spells t.kind l)
    (hclosing : closing.kind = .closing) : Closed [t, closing] [l] :=
  ⟨[t], closing, rfl, .last ht, hclosing⟩

theorem moreLiterals_error {finish : Nat} {soFar : List Literal} {t u : Token} {us ts : List Token}
    {e : Fault} (hclosing : ¬t.kind = .closing) (hcomma : t.kind = .comma)
    (hhead : us.head? = (u :: ts).head?) (h : literal finish us = .error e) :
    moreLiterals finish soFar (t :: us) = .error e := by
  obtain ⟨after, rfl⟩ := List.head?_eq_some_iff.1 hhead
  rw [moreLiterals, if_neg hclosing, if_pos hcomma]
  simp only [h]

/-- What follows a literal in a list is blamed for how it goes on with that literal. -/
theorem moreLiterals_blamed {finish : Nat} {soFar : List Literal} {ts : List Token} {o : Nat}
    {flaw : Flaw} (h : moreLiterals finish soFar ts = .error (.at o flaw)) :
    Parted finish (fun us => ∀ t l, Spells t.kind l → Opens Closed (t :: us))
      (fun us => ∀ soFar more, ∃ e, moreLiterals finish soFar (us ++ more) = .error e) ts o := by
  have hclosing : (loose .closing).kind = .closing := rfl
  have hsample : Spells (loose (.integer 1)).kind (.integer 1) := .integer 1
  fun_induction moreLiterals finish soFar ts with
  | case1 soFar =>
    cases h
    exact ⟨[], [], rfl, rfl, fun t l ht => ⟨[loose .closing], _, closed_last ht hclosing⟩,
      fun _ h => by cases h⟩
  | case2 soFar t us hkind => cases h
  | case3 soFar t hkind hcomma =>
    cases h
    refine ⟨[t], [], rfl, rfl, fun v l hv => ?_, fun _ h => by cases h⟩
    exact ⟨[loose (.integer 1), loose .closing], _, .more hv hcomma (closed_last hsample hclosing)⟩
  | case4 soFar t hkind hcomma u after l tail hl ih =>
    obtain ⟨v, hv, hspells⟩ := literal_eq_ok_iff.1 hl
    cases hv
    refine Parted.after [t, u] (ih h) ?_ ?_
    · intro us hus w k hw
      obtain ⟨more, ls, hclosed⟩ := hus u l hspells
      exact ⟨more, _, .more hw hcomma hclosed⟩
    · intro us _ hus soFar' more
      have hread : literal finish (u :: (us ++ more)) = .ok (l, us ++ more) :=
        literal_eq_ok_iff.2 ⟨u, rfl, hspells⟩
      obtain ⟨e, he⟩ := hus (l :: soFar') more
      refine ⟨e, ?_⟩
      simp only [List.cons_append, List.nil_append]
      rw [moreLiterals, if_neg hkind, if_pos hcomma]
      simp only [hread]
      exact he
  | case5 soFar t hkind hcomma u after e hl =>
    cases h
    refine Parted.after [t] (blames_literal finish (Nat.le_refl _) hl) ?_ ?_
    · rintro us ⟨more, l, v, hv, hspells⟩ w k hw
      refine ⟨more ++ [loose .closing], [k, l], ?_⟩
      have happend : w :: ([t] ++ us) ++ (more ++ [loose .closing]) =
          w :: t :: ((us ++ more) ++ [loose .closing]) := by
        simp only [List.cons_append, List.nil_append, List.append_assoc]
      rw [happend, hv]
      exact .more hw hcomma (closed_last hspells hclosing)
    · intro us hhead hus soFar' more
      obtain ⟨e, he⟩ := hus (Nat.le_refl (us ++ more).length)
      exact ⟨e, moreLiterals_error hkind hcomma (hhead more) he⟩
  | case6 soFar t us hkind hcomma =>
    cases h
    refine .start rfl (fun v l hv => ⟨[loose .closing], _, closed_last hv hclosing⟩) ?_
    rintro t us heq soFar' more
    cases heq
    refine ⟨.at (place finish (t :: more)) .listRunsOn, ?_⟩
    unfold moreLiterals
    exact (if_neg hkind).trans (if_neg hcomma)

/-- A list is read by its literals if it has any. -/
theorem literals_opening (finish : Nat) {t : Token} {rest : List Token} (ht : t.kind = .opening)
    (hrest : isKind .closing rest = false) :
    literals finish (t :: rest) = match literal finish rest with
      | .ok (l, rest) => moreLiterals finish [l] rest
      | .error e => .error e := by
  have hclosing : ¬isKind .closing rest = true := Bool.eq_false_iff.1 hrest
  unfold literals
  exact (if_neg (not_not_intro ht)).trans (if_neg hclosing)

theorem literals_blamed {finish : Nat} {ts : List Token} {o : Nat} {flaw : Flaw}
    (h : literals finish ts = .error (.at o flaw)) :
    Parted finish (Opens Listed) (fun us => ∀ more, ∃ e, literals finish (us ++ more) = .error e)
      ts o := by
  have hsample : Closed [loose (.integer 1), loose .closing] [.integer 1] :=
    closed_last (.integer 1) rfl
  unfold literals at h
  split at h
  · cases h
    exact .start rfl ⟨[_, _, _], _, loose .opening, _, rfl, rfl, hsample⟩ fun _ _ h => by cases h
  · next t us =>
    split at h
    · next hopening =>
      cases h
      refine .start rfl ⟨[_, _, _], _, loose .opening, _, rfl, rfl, hsample⟩ ?_
      rintro t us heq more
      cases heq
      exact ⟨_, if_pos hopening⟩
    · next hopening =>
      have hkind : t.kind = .opening := Decidable.of_not_not hopening
      split at h
      · next hclosing =>
        cases h
        refine ⟨[t], us, rfl, rfl, ⟨_, _, t, _, rfl, hkind, hsample⟩, fun u hu more => ?_⟩
        have hnext : isKind .closing (u :: more) = true := by
          rw [isKind, List.head?_cons, ← Option.mem_def.1 hu]
          exact hclosing
        refine ⟨.at (place finish (u :: more)) .emptyList, ?_⟩
        rw [List.append_assoc, List.singleton_append]
        unfold literals
        exact (if_neg hopening).trans (if_pos hnext)
      · next hclosing =>
        split at h
        · next l rest hl =>
          obtain ⟨v, rfl, hspells⟩ := literal_eq_ok_iff.1 hl
          refine Parted.after [t, v] (moreLiterals_blamed h) ?_ ?_
          · intro us hus
            obtain ⟨more, ls, hclosed⟩ := hus v l hspells
            exact ⟨more, ls, t, _, rfl, hkind, hclosed⟩
          · intro us _ hus more
            have hread : literal finish (v :: (us ++ more)) = .ok (l, us ++ more) :=
              literal_eq_ok_iff.2 ⟨v, rfl, hspells⟩
            obtain ⟨e, he⟩ := hus [l] more
            refine ⟨e, ?_⟩
            rw [List.append_assoc, List.cons_append, List.cons_append, List.nil_append,
              literals_opening finish hkind (isKind_ne rfl hspells.ne_closing _), hread]
            exact he
        · next e hl =>
          cases h
          refine Parted.after [t] (blames_literal finish (Nat.le_refl _) hl) ?_ ?_
          · rintro us ⟨more, l, v, hv, hspells⟩
            refine ⟨more ++ [loose .closing], [l], t, us ++ more ++ [loose .closing], ?_, hkind, ?_⟩
            · simp only [List.cons_append, List.nil_append, List.append_assoc]
            · rw [hv]
              exact closed_last hspells rfl
          · intro us hhead hus more
            obtain ⟨e, he⟩ := hus (Nat.le_refl (us ++ more).length)
            have hnext : isKind .closing (us ++ more) = false := by
              rw [isKind, hhead]
              exact Bool.eq_false_iff.2 hclosing
            refine ⟨e, ?_⟩
            rw [List.append_assoc, List.singleton_append, literals_opening finish hkind hnext]
            simp only [he]

/-! ### Single conditions -/

theorem test_loose (field : String) :
    Test field [loose .eq, loose (.integer 1)] (.compare field .eq (.integer 1)) :=
  .compare rfl (.integer 1)

theorem nextIs_cons (word : String) (t : Token) (rest : List Token) :
    nextIs word (t :: rest) = t.isKeyword word := rfl

/-- That no test of a field begins with some tokens. -/
abbrev Untested (finish : Nat) (field : String) (us : List Token) : Prop :=
  ∀ more, ∃ e, test finish field (us ++ more) = .error e

section
variable {finish : Nat} {field : String} {ns tail : List Token} {negated : Bool} {t : Token}
  {o : Nat} {flaw : Flaw}

theorem test_in_blamed (hn : Negation ns negated) (hin : t.isKeyword "IN" = true)
    (h : literals finish tail = .error (.at o flaw)) :
    Parted finish (Opens (Test field)) (Untested finish field) (ns ++ t :: tail) o := by
  rw [List.append_cons]
  refine Parted.after _ (literals_blamed h) ?_ ?_
  · rintro us ⟨more, ls, opening, ts, hus, hopening, vs, closing, rfl, hspells, hclosing⟩
    refine ⟨more, .among field ls negated, ?_⟩
    rw [List.append_assoc, hus, List.append_assoc]
    exact .among hn hin hopening hspells hclosing
  · intro us _ hus more
    obtain ⟨e, he⟩ := hus more
    refine ⟨e, ?_⟩
    rw [List.append_assoc, List.append_assoc, List.singleton_append,
      test_word finish field hn (isKeyword_unique hin (by decide)) (comparison?_name hin) _
        (.inl hin), if_pos hin]
    simp only [he]

theorem test_like_blamed (hn : Negation ns negated) (hlike : t.isKeyword "LIKE" = true)
    (h : likePattern finish tail = .error (.at o flaw)) :
    Parted finish (Opens (Test field)) (Untested finish field) (ns ++ t :: tail) o := by
  rw [List.append_cons]
  refine Parted.after _ (blames_likePattern finish (Nat.le_refl _) h) ?_ ?_
  · rintro us ⟨more, pattern, u, hus, source, hu, hread⟩
    refine ⟨more, .like field pattern negated, ?_⟩
    rw [List.append_assoc, hus, List.append_assoc]
    exact .like hn hlike hu hread
  · intro us _ hus more
    obtain ⟨e, he⟩ := hus (Nat.le_refl (us ++ more).length)
    refine ⟨e, ?_⟩
    rw [List.append_assoc, List.append_assoc, List.singleton_append,
      test_word finish field hn (isKeyword_unique hlike (by decide)) (comparison?_name hlike) _
        (.inr hlike), isKeyword_unique hlike (by decide), if_neg Bool.false_ne_true]
    simp only [he]

/-- After a `NOT` with neither word behind it, what follows the `NOT` is wrong. -/
theorem test_not_blamed (hnot : t.isKeyword "NOT" = true) (hin : nextIs "IN" tail = false)
    (hlike : nextIs "LIKE" tail = false) :
    Parted finish (Opens (Test field)) (Untested finish field) (t :: tail) (place finish tail) := by
  refine ⟨[t], tail, rfl, rfl, ?_, fun u hu more => ?_⟩
  · exact ⟨[loose (.name "IN"), loose .opening, loose (.integer 1), loose .closing], _,
      .among (.present hnot) (by decide) rfl (.last (.integer 1)) rfl⟩
  · have hnext (word : String) : nextIs word (u :: more) = nextIs word tail := by
      rw [nextIs, nextIs, Option.mem_def.1 hu]
      rfl
    rw [List.append_assoc]
    simp only [List.singleton_append, test, comparison?_name hnot, hnot, if_true, hnext, hin,
      hlike, Bool.false_eq_true, if_false]
    exact ⟨_, rfl⟩

/-- A token that is no operator is wrong itself. -/
theorem test_other_blamed (hnone : comparison? t.kind = none) (hnot : t.isKeyword "NOT" = false)
    (hin : t.isKeyword "IN" = false) (hlike : t.isKeyword "LIKE" = false) :
    Parted finish (Opens (Test field)) (Untested finish field) (t :: tail)
      (place finish (t :: tail)) := by
  refine .start rfl ⟨_, _, test_loose field⟩ ?_
  rintro t us heq more
  cases heq
  simp only [List.singleton_append, test, hnone, hnot, nextIs_cons, hin, hlike, Bool.false_eq_true,
    if_false]
  split <;> exact ⟨_, rfl⟩

end

theorem test_blamed {finish : Nat} {field : String} {ts : List Token} {o : Nat} {flaw : Flaw}
    (h : test finish field ts = .error (.at o flaw)) :
    Parted finish (Opens (Test field)) (Untested finish field) ts o := by
  unfold test at h
  split at h
  · cases h
    exact .start rfl ⟨_, _, test_loose field⟩ fun _ _ h => by cases h
  · next t us =>
    split at h
    · next comparison hcomparison =>
      split at h
      · cases h
      · next e hl =>
        cases h
        refine Parted.after [t] (blames_literal finish (Nat.le_refl _) hl) ?_ ?_
        · rintro us ⟨more, l, u, hu, hspells⟩
          refine ⟨more, .compare field comparison l, ?_⟩
          rw [List.append_assoc, hu]
          exact .compare hcomparison hspells
        · intro us _ hus more
          obtain ⟨e, he⟩ := hus (Nat.le_refl (us ++ more).length)
          refine ⟨e, ?_⟩
          rw [List.append_assoc, List.singleton_append]
          simp only [test, hcomparison, he]
    · next hnone =>
      have hword : ∃ ns negated, Negation ns negated ∧ negated = t.isKeyword "NOT" ∧
          t :: us = ns ++ (if t.isKeyword "NOT" = true then us else t :: us) := by
        cases hnot : t.isKeyword "NOT" with
        | true => exact ⟨[t], true, .present hnot, rfl, rfl⟩
        | false => exact ⟨[], false, .absent, rfl, rfl⟩
      obtain ⟨ns, negated, hn, hnot, heq⟩ := hword
      dsimp only at h
      rw [← hnot] at h heq
      generalize (if negated = true then us else t :: us) = inner at h heq
      rw [heq]
      split at h
      · next hin =>
        obtain ⟨v, tail, rfl, hv⟩ := nextIs_eq_true_iff.1 hin
        split at h
        · cases h
        · next e hls =>
          cases h
          exact test_in_blamed hn hv hls
      · next hin =>
        split at h
        · next hlike =>
          obtain ⟨v, tail, rfl, hv⟩ := nextIs_eq_true_iff.1 hlike
          split at h
          · cases h
          · next e hpattern =>
            cases h
            exact test_like_blamed hn hv hpattern
        · next hlike =>
          rw [Bool.not_eq_true] at hin hlike
          cases hn with
          | absent =>
            obtain rfl : inner = t :: us := heq.symm
            rw [if_neg Bool.false_ne_true] at h
            obtain rfl : o = place finish (t :: us) := by split at h <;> cases h <;> rfl
            exact test_other_blamed hnone hnot.symm hin hlike
          | @present w hw =>
            cases h
            exact test_not_blamed hw hin hlike

/-! ### Connectives -/

/-- What follows what is read. -/
def Stopping (bound : Nat) (read : Reads Condition) (Stops : List Token → Prop) : Prop :=
  ∀ ⦃ts rest : List Token⦄ ⦃c : Condition⦄, ts.length ≤ bound → read ts = .ok (c, rest) → Stops rest

theorem Stopping.mono {bound less : Nat} {read : Reads Condition} {Stops : List Token → Prop}
    (h : Stopping bound read Stops) (hle : less ≤ bound) : Stopping less read Stops :=
  fun _ _ _ hlen => h (Nat.le_trans hlen hle)

/-- What is spelled is settled if the first token after it says whether it ends. -/
theorem settled_of_complete {read : Nat → Reads Condition} {Spelled : Spelling}
    {Stops : List Token → Prop} (hsound : ∀ fuel, Sound fuel (read fuel) Spelled)
    (hcomplete : ∀ fuel, Complete fuel (read fuel) Spelled Stops)
    (hstopping : ∀ fuel, Stopping fuel (read fuel) Stops)
    (hhead : ∀ {rest after : List Token}, after.head? = rest.head? → Stops rest → Stops after) :
    Settled read Spelled := by
  intro fuel ts rest c hlen h
  obtain ⟨used, hused, hspelled⟩ := hsound fuel hlen h
  exact ⟨used, hused, hspelled, fun fuel after hafter hle =>
    hcomplete fuel hle hspelled (hhead hafter (hstopping _ hlen h))⟩

section
variable {word : String} {join : Condition → Condition → Condition} {Part : Spelling}

theorem chain_stops {part : Reads Condition} {Stops : List Token → Prop} {soFar : List Condition}
    {fuel : Nat} {ts rest : List Token} {c : Condition} (hpart : Sound fuel part Part)
    (hstopping : Stopping fuel part Stops) (hlen : ts.length ≤ fuel)
    (h : chain word join part soFar fuel ts = .ok (c, rest)) :
    Stops rest ∧ nextIs word rest = false := by
  induction fuel generalizing soFar ts with
  | zero =>
    refine ⟨hstopping hlen h, ?_⟩
    obtain ⟨used, hused, -⟩ := hpart hlen h
    cases List.length_eq_zero_iff.1 (Nat.le_zero.1 hlen)
    rw [(List.append_eq_nil_iff.1 hused.symm).2]
    rfl
  | succ fuel ih =>
    rw [chain] at h
    split at h
    · cases h
    · next first tail hfirst =>
      split at h
      · next hword =>
        obtain ⟨used, rfl, -⟩ := hpart hlen hfirst
        obtain ⟨t, after, rfl, ht⟩ := nextIs_eq_true_iff.1 hword
        rw [List.length_append, List.length_cons] at hlen
        rw [List.drop_one, List.tail_cons] at h
        exact ih (hpart.mono (Nat.le_succ fuel)) (hstopping.mono (Nat.le_succ fuel)) (by omega) h
      · next hword =>
        cases h
        exact ⟨hstopping hlen hfirst, Bool.eq_false_iff.2 hword⟩

theorem stopping_chain {part : Reads Condition} {Stops : List Token → Prop} {fuel : Nat}
    (hpart : Sound fuel part Part) (hstopping : Stopping fuel part Stops) :
    Stopping fuel (chain word join part [] fuel) fun rest =>
      Stops rest ∧ nextIs word rest = false :=
  fun _ _ _ hlen h => chain_stops hpart hstopping hlen h

theorem chain_error {part : Reads Condition} {ts : List Token} {e : Fault}
    (h : part ts = .error e) (soFar : List Condition) (fuel : Nat) :
    chain word join part soFar fuel ts = .error e := by
  cases fuel with
  | zero => exact h
  | succ fuel => rw [chain, h]

/-- Parts spell a chain: there is a tree over them. -/
theorem Grammar.Parts.chain {ts : List Token} {cs : List Condition} (h : Parts word Part ts cs) :
    ∃ c, Chain word join Part ts c := by
  cases h with
  | @last ts c hpart => exact ⟨_, [c], .last hpart, (joined_iff c (List.cons_ne_nil _ _)).2 rfl⟩
  | @more ts us t c cs hpart hword hrest =>
    exact ⟨_, c :: cs, .more hpart hword hrest, (joined_iff c (List.cons_ne_nil _ _)).2 rfl⟩

variable {finish : Nat} {part : Nat → Reads Condition}

theorem chain_blamed (hpart : Blames finish part Part) (hsettled : Settled part Part)
    {soFar : List Condition} {fuel n : Nat} {ts : List Token} {o : Nat} {flaw : Flaw}
    (hlen : ts.length ≤ n) (hle : n ≤ fuel)
    (h : chain word join (part fuel) soFar n ts = .error (.at o flaw)) :
    Parted finish (Opens (Parts word Part))
      (fun us => ∀ ⦃fuel n : Nat⦄ ⦃more : List Token⦄, (us ++ more).length ≤ n → n ≤ fuel →
        ∀ soFar, ∃ e, chain word join (part fuel) soFar n (us ++ more) = .error e) ts o := by
  have hfirst {ts : List Token} (hlen : ts.length ≤ fuel) (h : part fuel ts = .error (.at o flaw)) :
      Parted finish (Opens (Parts word Part))
        (fun us => ∀ ⦃fuel n : Nat⦄ ⦃more : List Token⦄, (us ++ more).length ≤ n → n ≤ fuel →
          ∀ soFar, ∃ e, chain word join (part fuel) soFar n (us ++ more) = .error e) ts o := by
    refine (hpart hlen h).mono ?_ ?_
    · rintro us ⟨more, c, hspelled⟩
      exact ⟨more, [c], .last hspelled⟩
    · intro us _ hus fuel n more hlen hle soFar
      obtain ⟨e, he⟩ := hus (Nat.le_trans hlen hle)
      exact ⟨e, chain_error he soFar n⟩
  induction n generalizing soFar ts with
  | zero => exact hfirst (Nat.le_trans hlen hle) h
  | succ n ih =>
    rw [chain] at h
    split at h
    · next e he =>
      cases h
      exact hfirst (Nat.le_trans hlen hle) he
    · next c rest hread =>
      obtain ⟨used, rfl, hspelled, hagain⟩ := hsettled (Nat.le_trans hlen hle) hread
      split at h
      · next hword =>
        obtain ⟨t, after, rfl, ht⟩ := nextIs_eq_true_iff.1 hword
        rw [List.length_append, List.length_cons] at hlen
        rw [List.drop_one, List.tail_cons] at h
        rw [List.append_cons]
        refine Parted.after _ (ih (by omega) (Nat.le_of_succ_le hle) h) ?_ ?_
        · rintro us ⟨more, cs, hparts⟩
          refine ⟨more, c :: cs, ?_⟩
          rw [List.append_assoc, List.append_assoc]
          exact .more hspelled ht hparts
        · intro us _ hus fuel' n' more hlen' hle' soFar'
          rw [List.append_assoc, List.append_assoc, List.singleton_append] at hlen' ⊢
          have hnext : part fuel' (used ++ t :: (us ++ more)) = .ok (c, t :: (us ++ more)) :=
            hagain rfl (Nat.le_trans hlen' hle')
          rw [List.length_append, List.length_cons] at hlen'
          obtain ⟨k, rfl⟩ : ∃ k, n' = k + 1 := ⟨n' - 1, by omega⟩
          have hless : (us ++ more).length ≤ k := by omega
          obtain ⟨e, he⟩ := hus hless (Nat.le_of_succ_le hle') (c :: soFar')
          refine ⟨e, ?_⟩
          rw [chain, hnext]
          dsimp only
          rw [nextIs_cons, ht, if_pos rfl, List.drop_one, List.tail_cons]
          exact he
      · cases h

theorem blames_chain (hpart : Blames finish part Part) (hsettled : Settled part Part) :
    Blames finish (fun fuel => chain word join (part fuel) [] fuel) (Chain word join Part) := by
  intro fuel ts o flaw hlen h
  refine (chain_blamed hpart hsettled hlen (Nat.le_refl fuel) h).mono ?_ ?_
  · rintro us ⟨more, cs, hparts⟩
    obtain ⟨c, hc⟩ : ∃ c, Chain word join Part (us ++ more) c := hparts.chain
    exact ⟨more, c, hc⟩
  · exact fun us _ hus fuel more hlen => hus hlen (Nat.le_refl fuel) []

end

/-! ### Levels -/

theorem primary_loose (Nested : Spelling) : ∃ c, Primary Nested [loose (.name "a"), loose .eq,
    loose (.integer 1)] c := ⟨_, .single (.last names_loose) (test_loose "a")⟩

section
variable {finish : Nat} {nested : Option (Reads Condition)} {t : Token} {rest : List Token}

theorem primary_column {field : String} {left : List Token} (hopening : ¬t.kind = .opening)
    (hnot : ¬t.isKeyword "NOT" = true) (h : column finish (t :: rest) = .ok (field, left)) :
    primary finish nested (t :: rest) = test finish field left := by
  unfold primary
  dsimp only
  rw [if_neg hopening, if_neg hnot, h]

theorem primary_error {e : Fault} (hopening : ¬t.kind = .opening)
    (hnot : ¬t.isKeyword "NOT" = true) (h : column finish (t :: rest) = .error e) :
    primary finish nested (t :: rest) = .error e := by
  unfold primary
  dsimp only
  rw [if_neg hopening, if_neg hnot, h]

end

section
variable {finish : Nat} {Nested : Spelling} {t : Token} {rest tail : List Token} {o : Nat} {flaw : Flaw}

/-- What is wrong inside of parentheses is wrong. -/
theorem nested_blamed {inner : Nat → Reads Condition} (hopening : t.kind = .opening)
    (h : Parted finish (Opens Nested) (Blocks inner) rest o) :
    Parted finish (Opens (Primary Nested)) (Blocks fun fuel => primary finish (some (inner fuel)))
      (t :: rest) o := by
  refine Parted.after [t] h ?_ ?_
  · rintro us ⟨more, c, hspelled⟩
    refine ⟨more ++ [loose .closing], c, ?_⟩
    rw [← List.append_assoc, List.append_assoc [t] us more]
    exact .nested hopening hspelled rfl
  · intro us _ hus fuel more hlen
    obtain ⟨e, he⟩ := hus (Nat.le_of_succ_le hlen)
    refine ⟨e, ?_⟩
    rw [List.append_assoc]
    simp only [List.singleton_append, primary, hopening, if_true, he]

/-- A token that stands where a parenthesis has to be closed is wrong. -/
theorem unclosed_blamed {inner : Nat → Reads Condition} {used : List Token} {c : Condition}
    (hopening : t.kind = .opening) (hspelled : Nested used c)
    (hagain : ∀ ⦃fuel : Nat⦄ ⦃after : List Token⦄, after.head? = tail.head? →
      (used ++ after).length ≤ fuel → inner fuel (used ++ after) = .ok (c, after))
    (hclosing : isKind .closing tail = false) :
    Parted finish (Opens (Primary Nested)) (Blocks fun fuel => primary finish (some (inner fuel)))
      (t :: (used ++ tail)) (place finish tail) := by
  refine ⟨t :: used, tail, rfl, rfl, ?_, fun u hu fuel more hlen => ?_⟩
  · exact ⟨[loose .closing], c, .nested hopening hspelled rfl⟩
  · rw [Option.mem_def] at hu
    rw [List.append_assoc, List.cons_append] at hlen ⊢
    have hnext : inner fuel (used ++ ([u] ++ more)) = .ok (c, [u] ++ more) :=
      hagain hu.symm (Nat.le_of_succ_le hlen)
    have hkind : isKind .closing ([u] ++ more) = false := by
      rw [isKind, List.singleton_append, List.head?_cons, ← hu]
      exact hclosing
    refine ⟨.at (place finish ([u] ++ more)) .expectedClosing, ?_⟩
    simp only [primary, hopening, if_true, hnext, hkind, Bool.false_eq_true, if_false]
    rfl

variable {nested : Nat → Option (Reads Condition)}

/-- What is wrong with the test of a column is wrong. -/
theorem tested_blamed {field : String} (hopening : ¬t.kind = .opening)
    (hnot : ¬t.isKeyword "NOT" = true) (hcolumn : column finish (t :: rest) = .ok (field, tail))
    (h : test finish field tail = .error (.at o flaw)) :
    Parted finish (Opens (Primary Nested)) (Blocks fun fuel => primary finish (nested fuel))
      (t :: rest) o := by
  obtain ⟨names, hts, hspelled, hagain⟩ := settled_column finish (Nat.le_refl _) hcolumn
  rw [hts]
  refine Parted.after names (test_blamed h) ?_ ?_
  · rintro us ⟨more, c, htest⟩
    refine ⟨more, c, ?_⟩
    rw [List.append_assoc]
    exact .single hspelled htest
  · intro us hhead hus fuel more _
    obtain ⟨e, he⟩ := hus more
    have hnext : column finish (names ++ (us ++ more)) = .ok (field, us ++ more) :=
      hagain (hhead more) (Nat.le_refl _)
    obtain ⟨v, vs, first, rfl, -⟩ := hspelled.exists_names
    cases hts
    refine ⟨e, ?_⟩
    rw [List.append_assoc]
    exact (primary_column hopening hnot hnext).trans he

/-- What is wrong with the name of a column is wrong. -/
theorem misnamed_blamed (hopening : ¬t.kind = .opening) (hnot : ¬t.isKeyword "NOT" = true)
    (h : column finish (t :: rest) = .error (.at o flaw)) :
    Parted finish (Opens (Primary Nested)) (Blocks fun fuel => primary finish (nested fuel))
      (t :: rest) o := by
  refine (blames_column finish (Nat.le_refl _) h).mono ?_ ?_
  · rintro us ⟨more, field, hspelled⟩
    refine ⟨more ++ [loose .eq, loose (.integer 1)], .compare field .eq (.integer 1), ?_⟩
    rw [← List.append_assoc]
    exact .single hspelled (test_loose field)
  · intro us hhead hus fuel more hlen
    obtain ⟨e, he⟩ := hus hlen
    obtain ⟨after, hafter⟩ := List.head?_eq_some_iff.1 (hhead more)
    refine ⟨e, ?_⟩
    dsimp only at he ⊢
    rw [hafter] at he ⊢
    exact primary_error hopening hnot he

end

theorem blames_primary {finish : Nat} (nested : Option (Nat → Reads Condition)) {Nested : Spelling}
    (hblames : ∀ inner ∈ nested, Blames finish inner Nested)
    (hsettled : ∀ inner ∈ nested, Settled inner Nested) :
    Blames finish (fun fuel => primary finish (nested.map (· fuel))) (Primary Nested) := by
  obtain ⟨sample, hsample⟩ := primary_loose Nested
  intro fuel ts o flaw hlen h
  cases ts with
  | nil =>
    cases h
    exact .start rfl ⟨_, _, hsample⟩ fun _ _ h => by cases h
  | cons t rest =>
    dsimp only [primary] at h
    split at h
    · next hopening =>
      cases nested with
      | none =>
        cases h
        refine .start rfl ⟨_, _, hsample⟩ ?_
        rintro t us heq fuel more _
        cases heq
        exact ⟨_, if_pos hopening⟩
      | some inner =>
        have hinner : rest.length ≤ fuel := Nat.le_of_succ_le hlen
        dsimp only [Option.map_some] at h
        split at h
        · next e he =>
          cases h
          exact nested_blamed hopening (hblames inner rfl hinner he)
        · next c tail hread =>
          obtain ⟨used, rfl, hspelled, hagain⟩ := hsettled inner rfl hinner hread
          split at h
          · cases h
          · next hclosing =>
            cases h
            exact unclosed_blamed hopening hspelled hagain (Bool.eq_false_iff.2 hclosing)
    · next hopening =>
      split at h
      · next hnot =>
        cases h
        refine .start rfl ⟨_, _, hsample⟩ ?_
        rintro t us heq fuel more _
        cases heq
        exact ⟨_, (if_neg hopening).trans (if_pos hnot)⟩
      · next hnot =>
        split at h
        · next field tail hcolumn => exact tested_blamed hopening hnot hcolumn h
        · next e hcolumn =>
          cases h
          exact misnamed_blamed hopening hnot hcolumn

theorem stopping_disjunction {fuel : Nat} {part : Reads Condition} {Part : Spelling}
    (hpart : Sound fuel part Part) (hne : Inhabits Part) :
    Stopping fuel (disjunction fuel part) Ends := by
  have hand : Stopping fuel (chain "AND" .both part [] fuel) fun rest =>
      True ∧ nextIs "AND" rest = false := stopping_chain hpart fun _ _ _ _ _ => trivial
  intro ts rest c hlen h
  obtain ⟨⟨-, hnextAnd⟩, hnextOr⟩ := stopping_chain (sound_chain hpart hne) hand hlen h
  exact ⟨hnextAnd, hnextOr⟩

theorem blames_disjunction {finish : Nat} (part : Nat → Reads Condition) {Part : Spelling}
    (hpart : Blames finish part Part) (hsound : ∀ fuel, Sound fuel (part fuel) Part)
    (hcomplete : ∀ fuel, Complete fuel (part fuel) Part fun _ => True) (hne : Inhabits Part) :
    Blames finish (fun fuel => disjunction fuel (part fuel)) (Disjunction Part) := by
  have htrue (fuel : Nat) : Stopping fuel (part fuel) fun _ => True := fun _ _ _ _ _ => trivial
  have hsettled : Settled part Part :=
    settled_of_complete hsound hcomplete htrue fun _ _ => trivial
  have hand : Settled (fun fuel => chain "AND" .both (part fuel) [] fuel) (Chain "AND" .both Part) := by
    refine settled_of_complete (fun fuel => sound_chain (hsound fuel) hne)
      (fun fuel => complete_chain (hcomplete fuel) hne fun _ _ _ => trivial)
      (fun fuel => stopping_chain (hsound fuel) (htrue fuel)) fun hhead hstops => ?_
    rw [nextIs, hhead]
    exact hstops
  exact blames_chain (blames_chain hpart hsettled) hand

theorem settled_expression (finish levels : Nat) :
    Settled (fun fuel => expression finish fuel levels) (Expression levels) := by
  refine settled_of_complete (fun fuel => sound_expression finish fuel levels)
    (fun fuel => complete_expression finish fuel levels) (fun fuel => ?_) fun hhead hends => ?_
  · cases levels with
    | zero =>
      have hsound : Sound fuel (primary finish none) (Primary fun _ _ => False) :=
        sound_primary fun _ h => by cases h
      exact stopping_disjunction hsound (inhabits_primary _)
    | succ levels =>
      have hsound : Sound fuel (primary finish (some (expression finish fuel levels)))
          (Primary (Expression levels)) := by
        refine sound_primary fun inner h => ?_
        cases h
        exact sound_expression finish fuel levels
      exact stopping_disjunction hsound (inhabits_primary _)
  · rw [Ends, nextIs, nextIs, hhead]
    exact hends

/-- **At every level, a flaw is shown at the first token that nothing goes on with.** -/
theorem blames_expression (finish levels : Nat) :
    Blames finish (fun fuel => expression finish fuel levels) (Expression levels) := by
  have hclosing {t : Token} {after : List Token} (h : t.kind = .closing) : Ends (t :: after) :=
    ends_cons h (fun _ => Token.Kind.noConfusion) after
  induction levels with
  | zero =>
    refine blames_disjunction (fun _ => primary finish none) ?_ (fun fuel => ?_) (fun fuel => ?_)
      (inhabits_primary _)
    · exact blames_primary none (fun _ h => by cases h) fun _ h => by cases h
    · exact sound_primary fun _ h => by cases h
    · exact complete_primary (fun h => h.elim) hclosing
  | succ levels ih =>
    refine blames_disjunction (fun fuel => primary finish (some (expression finish fuel levels)))
      ?_ (fun fuel => ?_) (fun fuel => ?_) (inhabits_primary _)
    · refine blames_primary (some fun fuel => expression finish fuel levels) (fun inner h => ?_)
        fun inner h => ?_
      · cases h
        exact ih
      · cases h
        exact settled_expression finish levels
    · refine sound_primary fun inner h => ?_
      cases h
      exact sound_expression finish fuel levels
    · exact complete_primary (fun _ => ⟨_, rfl, complete_expression finish fuel levels⟩) hclosing

end Watchpost.Condition
