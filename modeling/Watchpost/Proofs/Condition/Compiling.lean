import Watchpost.Proofs.Condition.Reading

/-! Texts that are conditions.

A text is read as a condition if and only if it is not too long, can be cut into tokens and the
tokens spell the condition; no tokens spell two (`compile_eq_ok_iff`). -/
namespace Watchpost.Condition

open Grammar

/-! ### What stands between `SELECT` and `FROM` -/

theorem projection_nil : Projection 0 [] where
  free before t after h _ := by
    cases before <;> cases h
  closed := rfl

theorem projection_cons {depth : Nat} {t : Token} {ts : List Token} :
    Projection depth (t :: ts) ↔
      (depth = 0 → t.isKeyword "FROM" = false) ∧ Projection (deepen depth t) ts := by
  constructor
  · intro h
    refine ⟨fun hdepth => h.free [] t ts rfl hdepth, ?_, h.closed⟩
    rintro before u after rfl hdepth
    exact h.free (t :: before) u after rfl hdepth
  · rintro ⟨hfirst, hrest⟩
    refine ⟨fun before u after heq hdepth => ?_, hrest.closed⟩
    cases before with
    | nil =>
      cases heq
      exact hfirst hdepth
    | cons v before =>
      cases heq
      exact hrest.free before u after rfl hdepth

/-- What is dropped is a projection, up to the first `FROM` outside of its parentheses. -/
theorem dropProjection_sound {finish depth : Nat} {ts rest : List Token}
    (h : dropProjection finish depth ts = .ok rest) :
    ∃ ps t, ts = ps ++ t :: rest ∧ Projection depth ps ∧ t.isKeyword "FROM" = true := by
  fun_induction dropProjection finish depth ts with
  | case1 depth => cases h
  | case2 depth t us hopening ih =>
    obtain ⟨ps, u, rfl, hps, hu⟩ := ih h
    refine ⟨t :: ps, u, rfl, projection_cons.2 ⟨fun _ => ?_, ?_⟩, hu⟩
    · exact isKeyword_of_kind hopening (fun _ => Token.Kind.noConfusion) _
    · rw [deepen, if_pos hopening]
      exact hps
  | case3 depth t us hopening hclosing ih =>
    obtain ⟨ps, u, rfl, hps, hu⟩ := ih h
    refine ⟨t :: ps, u, rfl, projection_cons.2 ⟨fun _ => ?_, ?_⟩, hu⟩
    · exact isKeyword_of_kind hclosing (fun _ => Token.Kind.noConfusion) _
    · rw [deepen, if_neg hopening, if_pos hclosing]
      exact hps
  | case4 depth t us hopening hclosing hfrom =>
    cases h
    refine ⟨[], t, rfl, ?_, hfrom.2⟩
    rw [hfrom.1]
    exact projection_nil
  | case5 depth t us hopening hclosing hfrom ih =>
    obtain ⟨ps, u, rfl, hps, hu⟩ := ih h
    refine ⟨t :: ps, u, rfl, projection_cons.2 ⟨fun hdepth => ?_, ?_⟩, hu⟩
    · exact Bool.eq_false_iff.2 fun hword => hfrom ⟨hdepth, hword⟩
    · rw [deepen, if_neg hopening, if_neg hclosing]
      exact hps

/-- A projection is dropped with the `FROM` behind it. -/
theorem dropProjection_complete {finish depth : Nat} {ps rest : List Token} {t : Token}
    (h : Projection depth ps) (ht : t.isKeyword "FROM" = true) :
    dropProjection finish depth (ps ++ t :: rest) = .ok rest := by
  induction ps generalizing depth with
  | nil =>
    obtain ⟨text, hkind⟩ := exists_name_of_isKeyword ht
    have hdepth : depth = 0 := h.closed
    simp only [List.nil_append, dropProjection, hkind, reduceCtorEq, if_false, hdepth, ht, and_self,
      if_true]
  | cons u ps ih =>
    obtain ⟨hfirst, hrest⟩ := projection_cons.1 h
    rw [deepen] at hrest
    rw [List.cons_append, dropProjection]
    split
    · next hopening =>
      rw [if_pos hopening] at hrest
      exact ih hrest
    · next hopening =>
      rw [if_neg hopening] at hrest
      split
      · next hclosing =>
        rw [if_pos hclosing] at hrest
        exact ih hrest
      · next hclosing =>
        rw [if_neg hclosing] at hrest
        split
        · next hfrom =>
          rw [hfirst hfrom.1] at hfrom
          exact absurd hfrom.2 Bool.false_ne_true
        · exact ih hrest

/-! ### What stands between `FROM` and `WHERE` -/

/-- A table is named as a column is. -/
theorem dropTable_eq_ok_iff {finish : Nat} {ts rest : List Token} :
    dropTable finish ts = .ok rest ↔ ∃ name, column finish ts = .ok (name, rest) := by
  unfold dropTable
  constructor
  · intro h
    split at h
    · next name after hcolumn =>
      cases h
      exact ⟨name, hcolumn⟩
    · cases h
    · cases h
  · rintro ⟨name, hcolumn⟩
    rw [hcolumn]

/-- Whether a token may be an alias. -/
def isAlias (t : Token) : Bool :=
  (match t.kind with
    | .name _ | .quotedName _ => true
    | _ => false) && !t.isKeyword "WHERE" && !isClause t

/-- Passes over an alias, if there is one. -/
def dropName : List Token → List Token
  | t :: rest => if isAlias t then rest else t :: rest
  | [] => []

theorem dropAlias_eq (ts : List Token) :
    dropAlias ts = dropName (if nextIs "AS" ts then ts.drop 1 else ts) := by
  unfold dropAlias
  dsimp only
  generalize (if nextIs "AS" ts = true then ts.drop 1 else ts) = us
  cases us with
  | nil => rfl
  | cons t rest => rfl

theorem isAlias_iff {t : Token} : isAlias t = true ↔ IsAlias t := by
  unfold isAlias
  rw [Bool.and_eq_true, Bool.and_eq_true, Bool.not_eq_true', Bool.not_eq_true']
  constructor
  · rintro ⟨⟨hnamed, hwhere⟩, hclause⟩
    refine ⟨?_, hwhere, hclause⟩
    split at hnamed
    · next text hkind => exact ⟨text, .inl hkind⟩
    · next text hkind => exact ⟨text, .inr hkind⟩
    · cases hnamed
  · rintro ⟨⟨text, hkind | hkind⟩, hwhere, hclause⟩
    · exact ⟨⟨by rw [hkind], hwhere⟩, hclause⟩
    · exact ⟨⟨by rw [hkind], hwhere⟩, hclause⟩

/-- A name behind the table is dropped if it may be an alias. -/
theorem dropName_sound (ts : List Token) :
    dropName ts = ts ∨ ∃ t, IsAlias t ∧ ts = t :: dropName ts := by
  cases ts with
  | nil => exact .inl rfl
  | cons t rest =>
    rw [dropName]
    split
    · next h => exact .inr ⟨t, isAlias_iff.1 h, rfl⟩
    · exact .inl rfl

theorem dropName_alias {t : Token} (h : IsAlias t) (rest : List Token) :
    dropName (t :: rest) = rest := if_pos (isAlias_iff.2 h)

theorem dropName_where {t : Token} (h : t.isKeyword "WHERE" = true) (rest : List Token) :
    dropName (t :: rest) = t :: rest := by
  refine if_neg fun halias => ?_
  rw [(isAlias_iff.1 halias).notWhere] at h
  cases h

theorem dropAlias_sound (ts : List Token) : ∃ names, Alias names ∧ ts = names ++ dropAlias ts := by
  rw [dropAlias_eq]
  cases has : nextIs "AS" ts with
  | false =>
    rw [if_neg Bool.false_ne_true]
    rcases dropName_sound ts with heq | ⟨t, ht, heq⟩
    · exact ⟨[], .none, heq.symm⟩
    · exact ⟨[t], .only ht, heq⟩
  | true =>
    obtain ⟨t, us, rfl, ht⟩ := nextIs_eq_true_iff.1 has
    rw [if_pos rfl, List.drop_one, List.tail_cons]
    rcases dropName_sound us with heq | ⟨u, hu, heq⟩
    · exact ⟨[t], .bare ht, congrArg (t :: ·) heq.symm⟩
    · exact ⟨[t, u], .both ht hu, congrArg (t :: ·) heq⟩

/-- An alias is dropped, with or without `AS`: a `WHERE` is none. -/
theorem dropAlias_complete {names rest : List Token} {t : Token} (h : Alias names)
    (ht : t.isKeyword "WHERE" = true) : dropAlias (names ++ t :: rest) = t :: rest := by
  have hnotAs : nextIs "AS" (t :: rest) = false := isKeyword_unique ht (by decide)
  have has {u : Token} (hu : u.isKeyword "AS" = true) (us : List Token) :
      dropAlias (u :: us) = dropName us := by
    rw [dropAlias_eq, if_pos (nextIs_eq_true_iff.2 ⟨u, us, rfl, hu⟩)]
    rfl
  cases h with
  | none =>
    rw [List.nil_append, dropAlias_eq, hnotAs, if_neg Bool.false_ne_true]
    exact dropName_where ht rest
  | @only u hu =>
    rw [List.singleton_append]
    -- An `AS` that is the alias itself is passed over as `AS`.
    cases hword : u.isKeyword "AS" with
    | true =>
      rw [has hword]
      exact dropName_where ht rest
    | false =>
      have hnext : nextIs "AS" (u :: t :: rest) = false := hword
      rw [dropAlias_eq, hnext, if_neg Bool.false_ne_true]
      exact dropName_alias hu (t :: rest)
  | bare hu =>
    rw [List.singleton_append, has hu]
    exact dropName_where ht rest
  | both hu halias =>
    rw [List.cons_append, has hu, List.singleton_append]
    exact dropName_alias halias (t :: rest)

/-! ### Statements -/

/-- What is dropped before a condition is the front of a `SELECT`, or nothing. -/
theorem dropSelect_sound {finish : Nat} {ts rest : List Token}
    (h : dropSelect finish ts = .ok rest) :
    ∃ front, Front front ∧ ts = front ++ rest ∧ (front = [] → nextIs "SELECT" rest = false) := by
  unfold dropSelect at h
  split at h
  · next hselect =>
    obtain ⟨t, us, rfl, ht⟩ := nextIs_eq_true_iff.1 hselect
    rw [List.drop_one, List.tail_cons] at h
    cases hps : dropProjection finish 0 us with
    | error e =>
      rw [hps] at h
      cases h
    | ok ws =>
      rw [hps] at h
      obtain ⟨ps, u, rfl, hprojection, hu⟩ := dropProjection_sound hps
      dsimp only [bind, Except.bind] at h
      cases hcs : dropTable finish ws with
      | error e =>
        rw [hcs] at h
        cases h
      | ok after =>
        rw [hcs] at h
        obtain ⟨table, hcolumn⟩ := dropTable_eq_ok_iff.1 hcs
        obtain ⟨cs, rfl, hspelled⟩ := column_sound hcolumn
        obtain ⟨names, hnames, heq⟩ := dropAlias_sound after
        dsimp only at h
        split at h
        · next v tail hafter =>
          split at h
          · next hwhere =>
            cases h
            refine ⟨_, .select ht hprojection hu hspelled hnames hwhere, ?_, fun h => by cases h⟩
            rw [heq, hafter]
            simp only [List.cons_append, List.append_assoc, List.nil_append]
          · cases h
        · cases h
  · next hselect =>
    cases h
    exact ⟨[], .none, rfl, fun _ => Bool.eq_false_iff.2 hselect⟩

/-- What follows a `WHERE` may begin with anything. -/
theorem dropSelect_complete {finish : Nat} {front rest : List Token} (h : Front front)
    (hrest : front = [] → nextIs "SELECT" rest = false) :
    dropSelect finish (front ++ rest) = .ok rest := by
  cases h with
  | none => rw [List.nil_append, dropSelect, hrest rfl, if_neg Bool.false_ne_true]
  | @select t u v ps cs names table ht hps hu hcs hnames hv =>
    have happend : t :: (ps ++ u :: (cs ++ (names ++ [v]))) ++ rest =
        t :: (ps ++ u :: (cs ++ (names ++ v :: rest))) := by
      simp only [List.cons_append, List.append_assoc, List.nil_append]
    have hnext : nextIs "SELECT" (t :: (ps ++ u :: (cs ++ (names ++ v :: rest)))) = true :=
      nextIs_eq_true_iff.2 ⟨t, _, rfl, ht⟩
    have hprojection : dropProjection finish 0 (ps ++ u :: (cs ++ (names ++ v :: rest))) =
        .ok (cs ++ (names ++ v :: rest)) := dropProjection_complete hps hu
    have hdot : isKind .dot (names ++ v :: rest) = false := by
      have hname {w : Token} {text : String} (hw : w.kind = .name text ∨ w.kind = .quotedName text)
          (after : List Token) : isKind .dot (w :: after) = false := by
        rcases hw with hw | hw
        · exact isKind_ne hw Token.Kind.noConfusion after
        · exact isKind_ne hw Token.Kind.noConfusion after
      have hword {w : Token} {word : String} (hw : w.isKeyword word = true) (after : List Token) :
          isKind .dot (w :: after) = false := by
        obtain ⟨text, hkind⟩ := exists_name_of_isKeyword hw
        exact hname (.inl hkind) after
      cases hnames with
      | none => exact hword hv rest
      | only halias =>
        obtain ⟨text, hkind⟩ := halias.named
        exact hname hkind _
      | bare has => exact hword has _
      | both has halias => exact hword has _
    have htable : dropTable finish (cs ++ (names ++ v :: rest)) = .ok (names ++ v :: rest) :=
      dropTable_eq_ok_iff.2 ⟨table, column_complete hcs hdot⟩
    rw [happend, dropSelect, if_pos hnext, List.drop_one, List.tail_cons, hprojection]
    dsimp only [bind, Except.bind]
    rw [htable]
    dsimp only
    rw [dropAlias_complete hnames hv]
    exact if_pos hv

/-- A spelling that does not begin with `SELECT`. -/
def NoSelect (Spelled : Spelling) : Prop :=
  ∀ ⦃ts : List Token⦄ ⦃c : Condition⦄, Spelled ts c → ∀ rest, nextIs "SELECT" (ts ++ rest) = false

theorem noSelect_primary (Nested : Spelling) : NoSelect (Primary Nested) := by
  intro ts c h rest
  cases h with
  | nested hopening h hclosing =>
    exact isKeyword_of_kind hopening (fun _ => Token.Kind.noConfusion) "SELECT"
  | single h htest =>
    obtain ⟨t, us, first, rfl, hnames⟩ := h.exists_names
    exact hnames.isKeyword (by decide)

theorem noSelect_chain {word : String} {join : Condition → Condition → Condition} {Part : Spelling}
    (h : NoSelect Part) : NoSelect (Chain word join Part) := by
  rintro ts c ⟨cs, hparts, -⟩ rest
  cases hparts with
  | last hpart => exact h hpart rest
  | more hpart hword hrest =>
    rw [List.append_assoc]
    exact h hpart _

/-- No condition begins with `SELECT`, so a front is never taken for a part of one. -/
theorem noSelect_expression (levels : Nat) : NoSelect (Expression levels) := by
  cases levels with
  | zero => exact noSelect_chain (noSelect_chain (noSelect_primary _))
  | succ levels => exact noSelect_chain (noSelect_chain (noSelect_primary _))

theorem inhabits_expression (levels : Nat) : Inhabits (Expression levels) := by
  cases levels with
  | zero => exact inhabits_chain (inhabits_chain (inhabits_primary _))
  | succ levels => exact inhabits_chain (inhabits_chain (inhabits_primary _))

/-- What is read as a statement is one, and nothing is left behind it. -/
theorem statement_sound {finish : Nat} {ts : List Token} {c : Condition}
    (h : statement finish ts = .ok c) : Statement ts c := by
  unfold statement at h
  cases hdrop : dropSelect finish ts with
  | error e =>
    rw [hdrop] at h
    cases h
  | ok us =>
    rw [hdrop] at h
    obtain ⟨front, hfront, rfl, -⟩ := dropSelect_sound hdrop
    dsimp only [bind, Except.bind] at h
    split at h
    · cases h
    · cases hexpression : expression finish us.length maxNesting us with
      | error e =>
        rw [hexpression] at h
        cases h
      | ok read =>
        obtain ⟨d, rest⟩ := read
        rw [hexpression] at h
        obtain ⟨body, rfl, hbody⟩ := sound_expression finish _ maxNesting (Nat.le_refl _) hexpression
        dsimp only at h
        split at h
        · next hend =>
          cases h
          refine .mk hfront hbody ?_
          split at hend
          · next hsemicolon =>
            cases rest with
            | nil => cases hsemicolon
            | cons t after =>
              rw [List.drop_one, List.tail_cons] at hend
              subst hend
              exact .semicolon ((isKind_cons .semicolon t []).1 hsemicolon)
          · rw [hend]
            exact .none
        · cases h

/-- A statement is read, with or without a front. -/
theorem statement_complete {finish : Nat} {ts : List Token} {c : Condition} (h : Statement ts c) :
    statement finish ts = .ok c := by
  obtain @⟨front, body, ending, _, hfront, hbody, hending⟩ := h
  have hends : Ends ending := by
    cases hending with
    | none => exact ⟨rfl, rfl⟩
    | semicolon ht => exact ends_cons ht (fun _ => Token.Kind.noConfusion) []
  have hdrop : dropSelect finish (front ++ (body ++ ending)) = .ok (body ++ ending) :=
    dropSelect_complete hfront fun _ => noSelect_expression maxNesting hbody ending
  have hempty : (body ++ ending).isEmpty = false := by
    rw [List.isEmpty_eq_false_iff]
    exact List.append_ne_nil_of_left_ne_nil (inhabits_expression maxNesting hbody) ending
  have hexpression := complete_expression finish _ maxNesting (Nat.le_refl _) hbody hends
  unfold statement
  rw [hdrop]
  dsimp only [bind, Except.bind]
  rw [hempty, if_neg Bool.false_ne_true, hexpression]
  cases hending with
  | none => rfl
  | @semicolon t ht =>
    have hsemicolon : isKind .semicolon [t] = true := (isKind_cons .semicolon t []).2 ht
    dsimp only
    rw [if_pos hsemicolon]
    rfl

/-- **The texts that are read are those that the grammar spells, and each spells one condition.** -/
theorem compile_eq_ok_iff (text : String) :
    (∀ c, compile text = .ok c ↔
      text.utf8ByteSize ≤ maxBytes ∧ ∃ ts, Token.tokens text = .ok ts ∧ Statement ts c) ∧
    ∀ ts c d, Statement ts c → Statement ts d → c = d := by
  constructor
  · intro c
    unfold compile
    dsimp only
    constructor
    · intro h
      split at h
      · cases h
      · next hsize =>
        split at h
        · next ts hts => exact ⟨Nat.le_of_not_lt hsize, ts, hts, statement_sound h⟩
        · cases h
    · rintro ⟨hsize, ts, hts, h⟩
      rw [if_neg (Nat.not_lt.2 hsize), hts]
      exact statement_complete h
  · intro ts c d hc hd
    have hfirst : statement 0 ts = .ok c := statement_complete hc
    have hsecond : statement 0 ts = .ok d := statement_complete hd
    exact Except.ok.inj (hfirst.symm.trans hsecond)

end Watchpost.Condition
