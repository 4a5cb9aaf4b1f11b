import Watchpost.Proofs.Condition.Compiling
import Watchpost.Proofs.Condition.Prefixes
import Watchpost.Proofs.Condition.Spelling

/-! The token that a text is refused for.

The tokens of a text start at increasing bytes (`tokens_offsets`), so a byte tells a token. The one
that a flaw shows at is the first that is wrong: what is before it can still become a statement, and
with it nothing can (`refused_at_first_wrong`). -/
namespace Watchpost

/-! ### Where tokens start -/

namespace Token

theorem width_ofList (cs : List Char) : (String.ofList cs).utf8ByteSize = width cs := by
  induction cs with
  | nil => rfl
  | cons c cs ih =>
    have hfirst : (String.ofList [c]).utf8ByteSize = c.utf8Size := by simp
    rw [← List.singleton_append, String.ofList_append, String.utf8ByteSize_append, ih, hfirst]
    rfl

theorem utf8ByteSize_eq (text : String) : text.utf8ByteSize = width text.toList := by
  rw [← width_ofList, String.ofList_toList]

theorem scan_offsets {soFar ts : List Token} {offset skip : Nat} {cs : List Char}
    (h : scan soFar offset skip cs = .ok ts) :
    ∃ more, ts = soFar.reverse ++ more ∧ more.Pairwise (·.offset < ·.offset) ∧
      ∀ t ∈ more, offset ≤ t.offset ∧ t.offset < offset + width cs := by
  induction cs generalizing soFar offset skip with
  | nil =>
    rw [scan] at h
    cases h
    exact ⟨[], (List.append_nil _).symm, .nil, fun t ht => by cases ht⟩
  | cons c cs ih =>
    have hwidth : width (c :: cs) = c.utf8Size + width cs := rfl
    have hpos : 0 < c.utf8Size := c.utf8Size_pos
    have hpast {soFar : List Token} {skip : Nat}
        (h : scan soFar (offset + c.utf8Size) skip cs = .ok ts) :
        ∃ more, ts = soFar.reverse ++ more ∧ more.Pairwise (·.offset < ·.offset) ∧
          ∀ t ∈ more, offset < t.offset ∧ t.offset < offset + width (c :: cs) := by
      obtain ⟨more, hts, hsorted, hbounds⟩ := ih h
      refine ⟨more, hts, hsorted, fun t ht => ?_⟩
      have hbound := hbounds t ht
      omega
    have hpassed {skip : Nat} (h : scan soFar (offset + c.utf8Size) skip cs = .ok ts) :
        ∃ more, ts = soFar.reverse ++ more ∧ more.Pairwise (·.offset < ·.offset) ∧
          ∀ t ∈ more, offset ≤ t.offset ∧ t.offset < offset + width (c :: cs) := by
      obtain ⟨more, hts, hsorted, hbounds⟩ := hpast h
      exact ⟨more, hts, hsorted, fun t ht => ⟨Nat.le_of_lt (hbounds t ht).1, (hbounds t ht).2⟩⟩
    cases skip with
    | succ skip => exact hpassed h
    | zero =>
      rw [scan] at h
      split at h
      · exact hpassed h
      · split at h
        · next kind count hfront =>
          obtain ⟨more, rfl, hsorted, hbounds⟩ := hpast h
          refine ⟨⟨kind, offset, c :: cs.take count⟩ :: more, ?_, ?_, ?_⟩
          · rw [List.reverse_cons, List.append_assoc, List.singleton_append]
          · exact .cons (fun t ht => (hbounds t ht).1) hsorted
          · refine List.forall_mem_cons.2 ⟨⟨Nat.le_refl offset, ?_⟩, fun t ht => ?_⟩
            · dsimp only
              omega
            · exact ⟨Nat.le_of_lt (hbounds t ht).1, (hbounds t ht).2⟩
        · cases h

/-- The tokens of a text start one after the other, and before its end. -/
theorem tokens_offsets {text : String} {ts : List Token} (h : tokens text = .ok ts) :
    ts.Pairwise (·.offset < ·.offset) ∧ ∀ t ∈ ts, t.offset < text.utf8ByteSize := by
  obtain ⟨more, rfl, hsorted, hbounds⟩ := scan_offsets h
  refine ⟨hsorted, fun t ht => ?_⟩
  rw [utf8ByteSize_eq, ← Nat.zero_add (width text.toList)]
  exact (hbounds t ht).2

end Token

namespace Condition

open Grammar

section
variable {used rest : List Token} {finish : Nat}

theorem filter_before_place (hsorted : (used ++ rest).Pairwise (·.offset < ·.offset))
    (hfinish : ∀ t ∈ used ++ rest, t.offset < finish) :
    (used ++ rest).filter (·.offset < place finish rest) = used := by
  obtain ⟨-, hrest, hacross⟩ := List.pairwise_append.1 hsorted
  have hused : ∀ t ∈ used, t.offset < place finish rest := by
    intro t ht
    cases rest with
    | nil => exact hfinish t (List.mem_append_left _ ht)
    | cons u rest => exact hacross t ht u List.mem_cons_self
  have hnone : ∀ t ∈ rest, ¬t.offset < place finish rest := by
    intro t ht
    cases rest with
    | nil => cases ht
    | cons u rest =>
      rcases List.mem_cons.1 ht with rfl | ht
      · exact Nat.lt_irrefl _
      · exact Nat.not_lt.2 (Nat.le_of_lt ((List.pairwise_cons.1 hrest).1 t ht))
  rw [List.filter_append, List.filter_eq_self.2, List.filter_eq_nil_iff.2, List.append_nil]
  · exact fun t ht => fun h => hnone t ht (of_decide_eq_true h)
  · exact fun t ht => decide_eq_true (hused t ht)

theorem filter_to_place {t : Token} (hsorted : (used ++ t :: rest).Pairwise (·.offset < ·.offset)) :
    (used ++ t :: rest).filter (·.offset ≤ t.offset) = used ++ [t] := by
  obtain ⟨-, hrest, hacross⟩ := List.pairwise_append.1 hsorted
  have hafter := (List.pairwise_cons.1 hrest).1
  have hfirst : decide (t.offset ≤ t.offset) = true := decide_eq_true (Nat.le_refl _)
  rw [List.filter_append, List.filter_eq_self.2, List.filter_cons, hfirst, if_pos rfl,
    List.filter_eq_nil_iff.2]
  · exact fun u hu h => Nat.not_le.2 (hafter u hu) (of_decide_eq_true h)
  · exact fun u hu => decide_eq_true (Nat.le_of_lt (hacross u hu t List.mem_cons_self))

end

/-! ### What stands before a condition -/

/-- Open parentheses can be closed. -/
theorem projection_closings (depth : Nat) :
    Projection depth (List.replicate depth (loose .closing)) := by
  induction depth with
  | zero => exact projection_nil
  | succ depth ih =>
    rw [List.replicate_succ]
    exact projection_cons.2 ⟨fun h => absurd h (Nat.succ_ne_zero depth), ih⟩

theorem dropProjection_error {finish depth : Nat} {ts : List Token} {e : Fault}
    (h : dropProjection finish depth ts = .error e) :
    e = .at finish .selectWithoutFrom ∧ ∃ more, Projection depth (ts ++ more) := by
  fun_induction dropProjection finish depth ts with
  | case1 depth =>
    cases h
    exact ⟨rfl, _, projection_closings depth⟩
  | case2 depth t us hopening ih =>
    obtain ⟨he, more, hmore⟩ := ih h
    refine ⟨he, more, projection_cons.2 ⟨fun _ => ?_, ?_⟩⟩
    · exact isKeyword_of_kind hopening (fun _ => Token.Kind.noConfusion) _
    · rw [deepen, if_pos hopening]
      exact hmore
  | case3 depth t us hopening hclosing ih =>
    obtain ⟨he, more, hmore⟩ := ih h
    refine ⟨he, more, projection_cons.2 ⟨fun _ => ?_, ?_⟩⟩
    · exact isKeyword_of_kind hclosing (fun _ => Token.Kind.noConfusion) _
    · rw [deepen, if_neg hopening, if_pos hclosing]
      exact hmore
  | case4 depth t us hopening hclosing hfrom => cases h
  | case5 depth t us hopening hclosing hfrom ih =>
    obtain ⟨he, more, hmore⟩ := ih h
    refine ⟨he, more, projection_cons.2 ⟨fun hdepth => ?_, ?_⟩⟩
    · exact Bool.eq_false_iff.2 fun hword => hfrom ⟨hdepth, hword⟩
    · rw [deepen, if_neg hopening, if_neg hclosing]
      exact hmore

theorem dropTable_blamed {finish : Nat} {ts : List Token} {o : Nat} {flaw : Flaw}
    (h : dropTable finish ts = .error (.at o flaw)) :
    Parted finish (Opens Column) (fun us => ∀ more, ∃ e, dropTable finish (us ++ more) = .error e)
      ts o := by
  unfold dropTable at h
  split at h
  · cases h
  · next offset other hcolumn =>
    cases h
    refine (blames_column finish (Nat.le_refl _) hcolumn).mono (fun _ => id) fun us _ hus more => ?_
    obtain ⟨e, he⟩ := hus (Nat.le_refl (us ++ more).length)
    dsimp only at he
    unfold dropTable
    rw [he]
    cases e with
    | «at» offset flaw => exact ⟨_, rfl⟩
    | pattern => exact ⟨_, rfl⟩
  · cases h

theorem dropName_settled {ts rest : List Token} {t : Token} (h : dropName ts = t :: rest) :
    ∃ names, ts = names ++ t :: rest ∧ (names = [] ∨ ∃ u, IsAlias u ∧ names = [u]) ∧
      ∀ more, dropName (names ++ t :: more) = t :: more := by
  cases ts with
  | nil => cases h
  | cons u us =>
    rw [dropName] at h
    split at h
    · next halias =>
      subst h
      exact ⟨[u], rfl, .inr ⟨u, isAlias_iff.1 halias, rfl⟩, fun more => if_pos halias⟩
    · next halias =>
      cases h
      exact ⟨[], rfl, .inl rfl, fun more => if_neg halias⟩

/-- What an alias is does not depend on more than the token after it. -/
theorem dropAlias_settled {ts rest : List Token} {t : Token} (h : dropAlias ts = t :: rest) :
    ∃ names, ts = names ++ t :: rest ∧ Alias names ∧
      ∀ more, dropAlias (names ++ t :: more) = t :: more := by
  rw [dropAlias_eq] at h
  cases has : nextIs "AS" ts with
  | false =>
    rw [has, if_neg Bool.false_ne_true] at h
    obtain ⟨names, rfl, hnames, hagain⟩ := dropName_settled h
    refine ⟨names, rfl, ?_, fun more => ?_⟩
    · rcases hnames with rfl | ⟨u, hu, rfl⟩
      · exact .none
      · exact .only hu
    · have hnext : nextIs "AS" (names ++ t :: more) = false := by
        rw [← has]
        cases names <;> rfl
      rw [dropAlias_eq, hnext, if_neg Bool.false_ne_true]
      exact hagain more
  | true =>
    obtain ⟨u, us, rfl, hu⟩ := nextIs_eq_true_iff.1 has
    rw [has, if_pos rfl, List.drop_one, List.tail_cons] at h
    obtain ⟨names, rfl, hnames, hagain⟩ := dropName_settled h
    refine ⟨u :: names, rfl, ?_, fun more => ?_⟩
    · rcases hnames with rfl | ⟨w, hw, rfl⟩
      · exact .bare hu
      · exact .both hu hw
    · have hnext : nextIs "AS" (u :: names ++ t :: more) = true := hu
      rw [dropAlias_eq, hnext, if_pos rfl]
      exact hagain more

/-- The tokens after `WHERE`, from the end of the table's name on. -/
def dropWhere (finish : Nat) (ts : List Token) : Except Fault (List Token) :=
  match dropAlias ts with
  | t :: rest =>
    if t.isKeyword "WHERE" then .ok rest else flawAt finish (t :: rest) (trailingFlaw t)
  | [] => flawAt finish [] .selectWithoutWhere

theorem dropWhere_blamed {finish : Nat} {ts : List Token} {o : Nat} {flaw : Flaw}
    (h : dropWhere finish ts = .error (.at o flaw)) :
    Parted finish Alias (fun us => ∀ more, ∃ e, dropWhere finish (us ++ more) = .error e) ts o := by
  unfold dropWhere at h
  split at h
  · next t rest hrest =>
    split at h
    · cases h
    · next hwhere =>
      cases h
      obtain ⟨names, rfl, hnames, hagain⟩ := dropAlias_settled hrest
      refine ⟨names, t :: rest, rfl, rfl, hnames, fun u hu more => ?_⟩
      cases hu
      rw [List.append_assoc, List.singleton_append, dropWhere, hagain]
      exact ⟨_, if_neg hwhere⟩
  · next hrest =>
    cases h
    obtain ⟨names, hnames, heq⟩ := dropAlias_sound ts
    rw [hrest, List.append_nil] at heq
    subst heq
    exact ⟨ts, [], (List.append_nil ts).symm, rfl, hnames, fun _ h => by cases h⟩

/-- The tokens after `WHERE`, from the table's name on. -/
def dropFrom (finish : Nat) (ts : List Token) : Except Fault (List Token) :=
  (dropTable finish ts).bind (dropWhere finish)

/-- What stands between `FROM` and a condition. -/
def From (us : List Token) (table : String) : Prop :=
  ∃ cs names v, us = cs ++ (names ++ [v]) ∧ Column cs table ∧ Alias names ∧ v.isKeyword "WHERE" = true

theorem isKeyword_loose (word : String) : (loose (.name word)).isKeyword word = true :=
  beq_self_eq_true _

theorem dropFrom_blamed {finish : Nat} {ts : List Token} {o : Nat} {flaw : Flaw}
    (h : dropFrom finish ts = .error (.at o flaw)) :
    Parted finish (Opens From) (fun us => ∀ more, ∃ e, dropFrom finish (us ++ more) = .error e)
      ts o := by
  unfold dropFrom at h
  cases htable : dropTable finish ts with
  | error e =>
    rw [htable] at h
    cases h
    refine (dropTable_blamed htable).mono ?_ ?_
    · rintro us ⟨more, table, hcs⟩
      refine ⟨more ++ [loose (.name "WHERE")], table, us ++ more, [], _, ?_, hcs, .none,
        isKeyword_loose "WHERE"⟩
      rw [List.nil_append, List.append_assoc]
    · intro us _ hus more
      obtain ⟨e, he⟩ := hus more
      refine ⟨e, ?_⟩
      rw [dropFrom, he]
      rfl
  | ok after =>
    rw [htable] at h
    obtain ⟨table, hcolumn⟩ := dropTable_eq_ok_iff.1 htable
    obtain ⟨cs, rfl, hcs, hagain⟩ := settled_column finish (Nat.le_refl _) hcolumn
    refine Parted.after cs (dropWhere_blamed h) ?_ ?_
    · intro us hnames
      refine ⟨[loose (.name "WHERE")], table, cs, us, _, ?_, hcs, hnames, isKeyword_loose "WHERE"⟩
      rw [List.append_assoc]
    · intro us hhead hus more
      obtain ⟨e, he⟩ := hus more
      have hread : dropTable finish (cs ++ (us ++ more)) = .ok (us ++ more) :=
        dropTable_eq_ok_iff.2 ⟨table, hagain (hhead more) (Nat.le_refl _)⟩
      refine ⟨e, ?_⟩
      rw [List.append_assoc, dropFrom, hread]
      exact he

theorem dropSelect_eq (finish : Nat) (ts : List Token) : dropSelect finish ts =
    if nextIs "SELECT" ts then (dropProjection finish 0 (ts.drop 1)).bind (dropFrom finish)
    else .ok ts := rfl

theorem front_select {t u : Token} {ps us : List Token} {table : String}
    (ht : t.isKeyword "SELECT" = true) (hps : Projection 0 ps) (hu : u.isKeyword "FROM" = true)
    (h : From us table) : Front (t :: (ps ++ u :: us)) := by
  obtain ⟨cs, names, v, rfl, hcs, hnames, hv⟩ := h
  exact .select ht hps hu hcs hnames hv

theorem from_loose : From [loose (.name "a"), loose (.name "WHERE")] "a" :=
  ⟨_, _, _, rfl, .last names_loose, .none, isKeyword_loose "WHERE"⟩

theorem dropSelect_blamed {finish : Nat} {ts : List Token} {o : Nat} {flaw : Flaw}
    (h : dropSelect finish ts = .error (.at o flaw)) :
    Parted finish (fun us => ∃ more, Front (us ++ more))
      (fun us => ∀ more, ∃ e, dropSelect finish (us ++ more) = .error e) ts o := by
  rw [dropSelect_eq] at h
  cases hselect : nextIs "SELECT" ts with
  | false =>
    rw [hselect] at h
    cases h
  | true =>
    obtain ⟨t, us, rfl, ht⟩ := nextIs_eq_true_iff.1 hselect
    rw [hselect, if_pos rfl, List.drop_one, List.tail_cons] at h
    cases hdrop : dropProjection finish 0 us with
    | error e =>
      rw [hdrop] at h
      cases h
      obtain ⟨he, more, hps⟩ := dropProjection_error hdrop
      cases he
      refine ⟨t :: us, [], (List.append_nil _).symm, rfl, ?_, fun _ h => by cases h⟩
      refine ⟨more ++ [loose (.name "FROM"), loose (.name "a"), loose (.name "WHERE")], ?_⟩
      rw [← List.append_assoc]
      exact front_select ht hps (isKeyword_loose "FROM") from_loose
    | ok ws =>
      rw [hdrop] at h
      obtain ⟨ps, u, rfl, hps, hu⟩ := dropProjection_sound hdrop
      rw [List.append_cons, ← List.cons_append]
      refine Parted.after _ (dropFrom_blamed h) ?_ ?_
      · rintro us ⟨more, table, hfrom⟩
        refine ⟨more, ?_⟩
        have happend : t :: (ps ++ [u]) ++ us ++ more = t :: (ps ++ u :: (us ++ more)) := by
          simp only [List.cons_append, List.nil_append, List.append_assoc]
        rw [happend]
        exact front_select ht hps hu hfrom
      · intro us _ hus more
        obtain ⟨e, he⟩ := hus more
        have happend : t :: (ps ++ [u]) ++ us ++ more = t :: (ps ++ u :: (us ++ more)) := by
          simp only [List.cons_append, List.nil_append, List.append_assoc]
        have hread : dropProjection finish 0 (ps ++ u :: (us ++ more)) = .ok (us ++ more) :=
          dropProjection_complete hps hu
        refine ⟨e, ?_⟩
        rw [happend, dropSelect_eq, nextIs_cons, ht, if_pos rfl, List.drop_one, List.tail_cons, hread]
        exact he

/-! ### Statements -/

theorem expression_loose (levels : Nat) :
    ∃ c, Expression levels [loose (.name "a"), loose .eq, loose (.integer 1)] c := by
  cases levels with
  | zero =>
    obtain ⟨c, hc⟩ := primary_loose fun _ _ => False
    obtain ⟨d, hd⟩ := (Parts.last hc : Parts "AND" _ _ _).chain
    exact (Parts.last hd).chain
  | succ levels =>
    obtain ⟨c, hc⟩ := primary_loose (Expression levels)
    obtain ⟨d, hd⟩ := (Parts.last hc : Parts "AND" _ _ _).chain
    exact (Parts.last hd).chain

theorem opens_front {front : List Token} (h : ∃ more, Front (front ++ more)) :
    Opens Statement front := by
  obtain ⟨more, hfront⟩ := h
  obtain ⟨c, hc⟩ := expression_loose maxNesting
  refine ⟨more ++ ([loose (.name "a"), loose .eq, loose (.integer 1)] ++ []), c, ?_⟩
  rw [← List.append_assoc]
  exact .mk hfront hc .none

/-- What follows a condition: an ending, and a token that is wrong. -/
theorem exists_ending {rest tail : List Token} {t : Token}
    (h : (if isKind .semicolon rest then rest.drop 1 else rest) = t :: tail) :
    ∃ ending, rest = ending ++ t :: tail ∧ Ending ending ∧ ∀ more,
      (if isKind .semicolon (ending ++ t :: more) then (ending ++ t :: more).drop 1
        else ending ++ t :: more) = t :: more := by
  split at h
  · next hsemicolon =>
    cases rest with
    | nil => cases hsemicolon
    | cons s after =>
      rw [List.drop_one, List.tail_cons] at h
      subst h
      have hs := (isKind_cons .semicolon s _).1 hsemicolon
      exact ⟨[s], rfl, .semicolon hs, fun more => if_pos ((isKind_cons .semicolon s _).2 hs)⟩
  · next hsemicolon =>
    subst h
    exact ⟨[], rfl, .none, fun more => if_neg hsemicolon⟩

theorem statement_eq (finish : Nat) (ts : List Token) : statement finish ts =
    (dropSelect finish ts).bind fun ts => if ts.isEmpty then flawAt finish [] .nothing else
      (expression finish ts.length maxNesting ts).bind fun (c, rest) =>
        match if isKind .semicolon rest then rest.drop 1 else rest with
        | [] => .ok c
        | t :: rest => flawAt finish (t :: rest) (trailingFlaw t) := rfl

section
variable {finish : Nat} {front us : List Token}

/-- What is wrong with a condition is wrong behind what stands before it. -/
theorem body_blamed {o : Nat} {flaw : Flaw} (hfront : Front front)
    (hagain : ∀ {after : List Token}, after.head? = us.head? →
      dropSelect finish (front ++ after) = .ok after)
    (h : expression finish us.length maxNesting us = .error (.at o flaw)) :
    Parted finish (Opens Statement) (fun us => ∀ more, ∃ e, statement finish (us ++ more) = .error e)
      (front ++ us) o := by
  refine Parted.after front (blames_expression finish maxNesting (Nat.le_refl _) h) ?_ ?_
  · rintro vs ⟨more, c, hbody⟩
    refine ⟨more, c, ?_⟩
    have hspelled := Statement.mk hfront hbody .none
    rw [List.append_nil] at hspelled
    rw [List.append_assoc]
    exact hspelled
  · intro vs hhead hvs more
    obtain ⟨e, he⟩ := hvs (Nat.le_refl (vs ++ more).length)
    rw [List.append_assoc, statement_eq, hagain (hhead more)]
    dsimp only [Except.bind]
    split
    · exact ⟨_, rfl⟩
    · refine ⟨e, ?_⟩
      dsimp only at he
      rw [he]

/-- What follows a condition and its ending is wrong. -/
theorem trailing_blamed {c : Condition} {rest tail : List Token} {t : Token} (hfront : Front front)
    (hagain : ∀ {after : List Token}, after.head? = us.head? →
      dropSelect finish (front ++ after) = .ok after)
    (h : expression finish us.length maxNesting us = .ok (c, rest))
    (hrest : (if isKind .semicolon rest then rest.drop 1 else rest) = t :: tail) :
    Parted finish (Opens Statement) (fun us => ∀ more, ∃ e, statement finish (us ++ more) = .error e)
      (front ++ us) (place finish (t :: tail)) := by
  obtain ⟨body, rfl, hbody, hread⟩ := settled_expression finish maxNesting (Nat.le_refl _) h
  obtain ⟨ending, rfl, hending, hafter⟩ := exists_ending hrest
  refine ⟨front ++ (body ++ ending), t :: tail, ?_, rfl, ⟨[], c, ?_⟩, fun u hu more => ?_⟩
  · simp only [List.append_assoc]
  · rw [List.append_nil]
    exact .mk hfront hbody hending
  · cases hu
    have happend : front ++ (body ++ ending) ++ [t] ++ more =
        front ++ (body ++ (ending ++ t :: more)) := by
      simp only [List.append_assoc, List.singleton_append]
    have hhead : (ending ++ t :: more).head? = (ending ++ t :: tail).head? := by
      cases ending <;> rfl
    have hheads : (body ++ (ending ++ t :: more)).head? =
        (body ++ (ending ++ t :: tail)).head? := by
      cases body with
      | nil => exact hhead
      | cons b body => rfl
    rw [happend, statement_eq, hagain hheads]
    dsimp only [Except.bind]
    split
    · exact ⟨_, rfl⟩
    · have hnext := hread hhead (Nat.le_refl _)
      dsimp only at hnext
      rw [hnext]
      dsimp only
      rw [hafter more]
      exact ⟨_, rfl⟩

end

theorem statement_blamed {finish : Nat} {ts : List Token} {o : Nat} {flaw : Flaw}
    (h : statement finish ts = .error (.at o flaw)) :
    Parted finish (Opens Statement) (fun us => ∀ more, ∃ e, statement finish (us ++ more) = .error e)
      ts o := by
  rw [statement_eq] at h
  cases hdrop : dropSelect finish ts with
  | error e =>
    rw [hdrop] at h
    cases h
    refine (dropSelect_blamed hdrop).mono (fun us => opens_front) fun us _ hus more => ?_
    obtain ⟨e, he⟩ := hus more
    refine ⟨e, ?_⟩
    rw [statement_eq, he]
    rfl
  | ok us =>
    rw [hdrop] at h
    obtain ⟨front, hfront, rfl, hselect⟩ := dropSelect_sound hdrop
    have hagain {after : List Token} (hhead : after.head? = us.head?) :
        dropSelect finish (front ++ after) = .ok after := by
      refine dropSelect_complete hfront fun hnil => ?_
      rw [nextIs, hhead]
      exact hselect hnil
    dsimp only [Except.bind] at h
    split at h
    · next hempty =>
      cases h
      obtain rfl : us = [] := List.isEmpty_iff.1 hempty
      refine ⟨front, [], rfl, rfl, opens_front ⟨[], ?_⟩, fun _ h => by cases h⟩
      rw [List.append_nil]
      exact hfront
    · cases hexpression : expression finish us.length maxNesting us with
      | error e =>
        rw [hexpression] at h
        cases h
        exact body_blamed hfront hagain hexpression
      | ok read =>
        obtain ⟨c, rest⟩ := read
        rw [hexpression] at h
        dsimp only at h
        split at h
        · cases h
        · next t tail hrest =>
          cases h
          exact trailing_blamed hfront hagain hexpression hrest

/-- Tokens that are read as a condition, wherever they are from. -/
def Accepted (ts : List Token) : Prop := ∃ finish c, statement finish ts = .ok c

theorem accepted_iff {ts : List Token} : Accepted ts ↔ ∃ c, Statement ts c :=
  ⟨fun ⟨_, c, h⟩ => ⟨c, statement_sound h⟩, fun ⟨c, h⟩ => ⟨0, c, statement_complete h⟩⟩

/-- **A text is refused at its first wrong token.** The flaw shows where a token starts or at the
end of the text. The tokens before it begin a list that is accepted; with the token that starts
there they begin none, and at the end of the text they are no such list themselves. -/
theorem refused_at_first_wrong {text : String} {ts : List Token} {o : Nat} {flaw : Flaw}
    (hsize : text.utf8ByteSize ≤ maxBytes) (htokens : Token.tokens text = .ok ts)
    (h : compile text = .error (.at o flaw)) :
    ((∃ t ∈ ts, t.offset = o) ∨ o = text.utf8ByteSize) ∧
      (∃ more, Accepted (ts.filter (·.offset < o) ++ more)) ∧
      (∀ t ∈ ts, t.offset = o → ∀ more, ¬Accepted (ts.filter (·.offset ≤ o) ++ more)) ∧
      (o = text.utf8ByteSize → ¬Accepted ts) := by
  obtain ⟨hsorted, hfinish⟩ := Token.tokens_offsets htokens
  have hstatement : statement text.utf8ByteSize ts = .error (.at o flaw) := by
    unfold compile at h
    dsimp only at h
    rw [if_neg (Nat.not_lt.2 hsize), htokens] at h
    exact h
  have hrefused {us : List Token} {e : Fault} (h : statement text.utf8ByteSize us = .error e) :
      ¬Accepted us := by
    intro haccepted
    obtain ⟨c, hc⟩ := accepted_iff.1 haccepted
    rw [statement_complete hc] at h
    cases h
  obtain ⟨used, rest, rfl, rfl, ⟨more, c, hopens⟩, hblocks⟩ := statement_blamed hstatement
  refine ⟨?_, ⟨more, ?_⟩, ?_, fun _ => hrefused hstatement⟩
  · cases rest with
    | nil => exact .inr rfl
    | cons t rest => exact .inl ⟨t, List.mem_append_right _ List.mem_cons_self, rfl⟩
  · rw [filter_before_place hsorted hfinish]
    exact accepted_iff.2 ⟨c, hopens⟩
  · intro t ht hoffset more
    cases rest with
    | nil => exact absurd hoffset (Nat.ne_of_lt (hfinish t ht))
    | cons u rest =>
      obtain ⟨e, he⟩ := hblocks u rfl more
      rw [show place text.utf8ByteSize (u :: rest) = u.offset from rfl, filter_to_place hsorted]
      exact hrefused he

/-- A `NOT` with neither word behind it, inside of parentheses. -/
def misplaced : String := "(a = 1 AND b NOT c)"

def misplacedTokens : List Token :=
  [⟨.opening, 0, ['(']⟩, ⟨.name "a", 1, ['a']⟩, ⟨.eq, 3, ['=']⟩, ⟨.integer 1, 5, ['1']⟩,
    ⟨.name "AND", 7, ['A', 'N', 'D']⟩, ⟨.name "b", 11, ['b']⟩, ⟨.name "NOT", 13, ['N', 'O', 'T']⟩,
    ⟨.name "c", 17, ['c']⟩, ⟨.closing, 18, [')']⟩]

/-- The text is refused at the name after the `NOT`, the eighth token. -/
theorem refused_at_misplaced :
    compile misplaced = .error (.at 17 .expectedInOrLike) ∧
      (∃ more, Accepted (misplacedTokens.take 7 ++ more)) ∧
      ∀ more, ¬Accepted (misplacedTokens.take 8 ++ more) := by
  have hsize : misplaced.utf8ByteSize ≤ maxBytes := by decide +kernel
  have htokens : Token.tokens misplaced = .ok misplacedTokens := by
    have hread : (Token.tokens misplaced).toOption = some misplacedTokens := by decide +kernel
    generalize Token.tokens misplaced = read at hread ⊢
    cases read with
    | error e => cases hread
    | ok ts => rw [Option.some.inj hread]
  have hcompile : compile misplaced = .error (.at 17 .expectedInOrLike) := by
    have hflaw : (match compile misplaced with
        | .error (.at o .expectedInOrLike) => o == 17
        | .error _ => false
        | .ok _ => false) = true := by decide +kernel
    generalize compile misplaced = read at hflaw ⊢
    split at hflaw
    · rw [beq_iff_eq.1 hflaw]
    · cases hflaw
    · cases hflaw
  obtain ⟨-, hbefore, hwith, -⟩ := refused_at_first_wrong hsize htokens hcompile
  have htake : misplacedTokens.filter (·.offset < 17) = misplacedTokens.take 7 := by decide
  have htakes : misplacedTokens.filter (·.offset ≤ 17) = misplacedTokens.take 8 := by decide
  rw [htake] at hbefore
  rw [htakes] at hwith
  exact ⟨hcompile, hbefore, hwith ⟨.name "c", 17, ['c']⟩ (by decide) rfl⟩

end Condition
end Watchpost
