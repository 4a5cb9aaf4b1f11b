import Mathlib.Algebra.BigOperators.Group.List.Basic
import Mathlib.Data.List.Forall2
import Mathlib.Data.Nat.Log
import Watchpost.Condition.Evaluate
import Watchpost.Proofs.Condition.Compiling
import Watchpost.Proofs.Condition.Spelling

/-! Chains and the balanced trees that are built of them.

A balanced tree has the parts of its chain at its ends, in their order (`Arranged`), and it is only
the logarithm of their number higher than they are (`Joined.height_le`). Any other tree with the
same parts in the same order means the same, and so does the one that goes through the chain from
left to right, as it is written (`Written`). -/
namespace Watchpost.Condition

open Grammar

/-! ### Trees over parts -/

/-- A tree with parts at its ends, in their order from left to right. -/
inductive Arranged (join : Condition → Condition → Condition) : List Condition → Condition → Prop where
  | part (c : Condition) : Arranged join [c] c
  | pair {ls rs : List Condition} {l r : Condition} (hl : Arranged join ls l)
      (hr : Arranged join rs r) : Arranged join (ls ++ rs) (join l r)

/-- The height of the tallest of some conditions. -/
def tallest (cs : List Condition) : Nat := (cs.map height).foldr max 0

theorem tallest_le_iff {cs : List Condition} {most : Nat} :
    tallest cs ≤ most ↔ ∀ c ∈ cs, c.height ≤ most := by
  induction cs with
  | nil => exact ⟨fun _ _ h => (by cases h), fun _ => Nat.zero_le most⟩
  | cons c cs ih =>
    have hcons : tallest (c :: cs) = max c.height (tallest cs) := rfl
    rw [hcons, Nat.max_le, ih, List.forall_mem_cons]

theorem tallest_le_of_subset {cs ds : List Condition} (h : cs ⊆ ds) : tallest cs ≤ tallest ds :=
  tallest_le_iff.2 fun c hc => tallest_le_iff.1 (Nat.le_refl _) c (h hc)

section
variable {join : Condition → Condition → Condition} {cs : List Condition} {c : Condition}

/-- Joining from the left keeps the order of the parts. -/
theorem Joined.arranged (h : Joined join cs c) : Arranged join cs c := by
  induction h with
  | part c => exact .part c
  | @halves cs l r hlen hl hr ihl ihr =>
    have hpair : Arranged join (cs.take (cs.length / 2) ++ cs.drop (cs.length / 2)) (join l r) :=
      .pair ihl ihr
    rwa [List.take_append_drop] at hpair

theorem exists_joined (join : Condition → Condition → Condition) (hne : cs ≠ []) :
    ∃ c, Joined join cs c := by
  obtain ⟨first, rest, rfl⟩ := List.exists_cons_of_ne_nil hne
  exact ⟨_, (joined_iff first hne).2 rfl⟩

/-- A chain of `AND` holds where all of its parts do, however they are joined. -/
theorem Arranged.holds_both (h : Arranged .both cs c) (e : Event) :
    c.holds e = cs.all (·.holds e) := by
  induction h with
  | part c => rw [List.all_cons, List.all_nil, Bool.and_true]
  | pair hl hr ihl ihr => rw [holds, ihl, ihr, List.all_append]

/-- A chain of `OR` holds where one of its parts does, however they are joined. -/
theorem Arranged.holds_either (h : Arranged .either cs c) (e : Event) :
    c.holds e = cs.any (·.holds e) := by
  induction h with
  | part c => rw [List.any_cons, List.any_nil, Bool.or_false]
  | pair hl hr ihl ihr => rw [holds, ihl, ihr, List.any_append]

variable (hjoin : join = .both ∨ join = .either)
include hjoin

theorem fields_join (l r : Condition) : (join l r).fields = l.fields ++ r.fields := by
  rcases hjoin with rfl | rfl <;> rw [fields]

theorem height_join (l r : Condition) : (join l r).height = 1 + max l.height r.height := by
  rcases hjoin with rfl | rfl <;> rw [height]

/-- The fields of a chain are those of its parts, in order. -/
theorem Arranged.fields_eq (h : Arranged join cs c) : c.fields = cs.flatMap fields := by
  induction h with
  | part c => rw [List.flatMap_cons, List.flatMap_nil, List.append_nil]
  | pair hl hr ihl ihr => rw [fields_join hjoin, ihl, ihr, List.flatMap_append]

/-- Half as many parts make a tree that is one less high. -/
theorem Joined.height_le (h : Joined join cs c) :
    c.height ≤ Nat.clog 2 cs.length + tallest cs := by
  induction h with
  | part c =>
    have hone : tallest [c] = c.height := Nat.max_zero c.height
    rw [hone]
    exact Nat.le_add_left _ _
  | @halves cs l r hlen hl hr ihl ihr =>
    have hclog : Nat.clog 2 cs.length = Nat.clog 2 ((cs.length + 1) / 2) + 1 :=
      Nat.clog_of_two_le (Nat.le_refl 2) hlen
    have htake : Nat.clog 2 (cs.take (cs.length / 2)).length ≤ Nat.clog 2 ((cs.length + 1) / 2) := by
      refine Nat.clog_mono_right 2 ?_
      rw [List.length_take]
      omega
    have hdrop : Nat.clog 2 (cs.drop (cs.length / 2)).length ≤ Nat.clog 2 ((cs.length + 1) / 2) := by
      refine Nat.clog_mono_right 2 ?_
      rw [List.length_drop]
      omega
    have hleft := tallest_le_of_subset (List.take_subset (cs.length / 2) cs)
    have hright := tallest_le_of_subset (List.drop_subset (cs.length / 2) cs)
    rw [height_join hjoin, hclog]
    omega

end

/-! ### Trees that mean the same -/

/-- Conditions that hold of the same events and ask for the same fields in the same order. -/
structure Agree (c d : Condition) : Prop where
  holds : ∀ e, c.holds e = d.holds e
  fields : c.fields = d.fields

theorem Agree.rfl {c : Condition} : Agree c c := ⟨fun _ => Eq.refl _, Eq.refl _⟩

theorem map_eq_of_forall₂ {R : α → α → Prop} {as bs : List α} (h : List.Forall₂ R as bs)
    {f : α → β} (hf : ∀ a b, R a b → f a = f b) : as.map f = bs.map f := by
  induction h with
  | nil => rfl
  | cons hfirst hrest ih => rw [List.map_cons, List.map_cons, hf _ _ hfirst, ih]

/-- **Trees over the same parts in the same order mean the same.** -/
theorem agree_of_arranged {join : Condition → Condition → Condition} {cs ds : List Condition}
    {c d : Condition} (hjoin : join = .both ∨ join = .either) (hc : Arranged join cs c)
    (hd : Arranged join ds d) (h : List.Forall₂ Agree cs ds) : Agree c d where
  holds e := by
    have hmap : cs.map (·.holds e) = ds.map (·.holds e) :=
      map_eq_of_forall₂ h fun a b hab => hab.holds e
    rcases hjoin with rfl | rfl
    · rw [hc.holds_both, hd.holds_both]
      simpa only [List.all_map, Function.id_comp] using congrArg (·.all id) hmap
    · rw [hc.holds_either, hd.holds_either]
      simpa only [List.any_map, Function.id_comp] using congrArg (·.any id) hmap
  fields := by
    rw [hc.fields_eq hjoin, hd.fields_eq hjoin, List.flatMap_def, List.flatMap_def,
      map_eq_of_forall₂ h fun a b hab => hab.fields]

/-! ### Chains as they are written -/

/-- A way to make one condition of the parts of a chain. -/
abbrev Assembly := (Condition → Condition → Condition) → List Condition → Condition → Prop

/-- A tree that goes through its parts from left to right. -/
inductive InRow : Assembly where
  | mk {join : Condition → Condition → Condition} (first : Condition) (rest : List Condition) :
      InRow join (first :: rest) (rest.foldl join first)

namespace Grammar

/-- The grammar of chains, with a way to make conditions of them. -/
def ChainBy (way : Assembly) (word : String) (join : Condition → Condition → Condition)
    (Part : Spelling) : Spelling :=
  fun ts c => ∃ cs, Parts word Part ts cs ∧ way join cs c

def DisjunctionBy (way : Assembly) (Part : Spelling) : Spelling :=
  ChainBy way "OR" .either (ChainBy way "AND" .both Part)

def ExpressionBy (way : Assembly) : Nat → Spelling
  | 0 => DisjunctionBy way (Primary fun _ _ => False)
  | levels + 1 => DisjunctionBy way (Primary (ExpressionBy way levels))

theorem expressionBy_joined (levels : Nat) :
    ExpressionBy (fun join => Joined join) levels = Expression levels := by
  induction levels with
  | zero => rfl
  | succ levels ih =>
    rw [ExpressionBy, ih]
    rfl

end Grammar

/-- A whole statement, with the tokens of the condition in it and the condition as it is written:
its chains go from left to right. -/
inductive Written : List Token → List Token → Condition → Prop where
  | mk {front body ending : List Token} {c : Condition} (hfront : Front front)
      (hbody : ExpressionBy InRow maxNesting body c) (hending : Ending ending) :
      Written (front ++ (body ++ ending)) body c

/-- Parts behind a chain are joined to it from the left. -/
theorem arranged_foldl {join : Condition → Condition → Condition} {cs rest : List Condition}
    {c : Condition} (h : Arranged join cs c) : Arranged join (cs ++ rest) (rest.foldl join c) := by
  induction rest generalizing cs c with
  | nil =>
    rw [List.append_nil]
    exact h
  | cons next rest ih =>
    rw [List.append_cons, List.foldl_cons]
    exact ih (.pair h (.part next))

theorem InRow.arranged {join : Condition → Condition → Condition} {cs : List Condition}
    {c : Condition} (h : InRow join cs c) : Arranged join cs c := by
  cases h with
  | mk first rest => exact arranged_foldl (.part first)

theorem exists_inRow (join : Condition → Condition → Condition) {cs : List Condition}
    (hne : cs ≠ []) : ∃ c, InRow join cs c := by
  obtain ⟨first, rest, rfl⟩ := List.exists_cons_of_ne_nil hne
  exact ⟨_, .mk first rest⟩

/-- What is spelled in one way is spelled in another as well, as something that means the same. -/
def Follows (Other Spelled : Spelling) : Prop :=
  ∀ ⦃ts : List Token⦄ ⦃c : Condition⦄, Spelled ts c → ∃ d, Other ts d ∧ Agree c d

/-- A way that has the parts in order and fails of no chain. -/
structure Assembly.Orderly (way : Assembly) : Prop where
  arranged : ∀ {join cs c}, way join cs c → Arranged join cs c
  total : ∀ join {cs}, cs ≠ [] → ∃ c, way join cs c

theorem orderly_joined : Assembly.Orderly fun join => Joined join :=
  ⟨Joined.arranged, fun join _ => exists_joined join⟩

theorem orderly_inRow : Assembly.Orderly InRow := ⟨InRow.arranged, exists_inRow⟩

section
variable {Other Spelled : Spelling}

/-- What one grammar reads in parts, the other reads in parts that agree, one with one. -/
theorem follows_parts {word : String} {ts : List Token} {cs : List Condition}
    (h : Follows Other Spelled) (hparts : Parts word Spelled ts cs) :
    ∃ ds, Parts word Other ts ds ∧ List.Forall₂ Agree cs ds := by
  induction hparts with
  | last hpart =>
    obtain ⟨d, hd, hagree⟩ := h hpart
    exact ⟨[d], .last hd, .cons hagree .nil⟩
  | more hpart hword hrest ih =>
    obtain ⟨d, hd, hagree⟩ := h hpart
    obtain ⟨ds, hds, hall⟩ := ih
    exact ⟨d :: ds, .more hd hword hds, .cons hagree hall⟩

theorem Grammar.Parts.ne_nil_of_parts {word : String} {ts : List Token} {cs : List Condition}
    (h : Parts word Spelled ts cs) : cs ≠ [] := by
  cases h with
  | last h => exact List.cons_ne_nil _ _
  | more h hword hrest => exact List.cons_ne_nil _ _

variable {way other : Assembly} (hway : way.Orderly) (hother : other.Orderly)

/-- Parentheses and tests are read in the same way, whatever becomes of chains. -/
theorem follows_primary (h : Follows Other Spelled) :
    Follows (Primary Other) (Primary Spelled) := by
  intro ts c hspelled
  cases hspelled with
  | nested hopening hnested hclosing =>
    obtain ⟨d, hd, hagree⟩ := h hnested
    exact ⟨d, .nested hopening hd hclosing, hagree⟩
  | single hcolumn htest => exact ⟨c, .single hcolumn htest, .rfl⟩

include hway hother

/-- Two ways to put a chain together agree on it, as both keep the order of its parts. -/
theorem follows_chain {word : String} {join : Condition → Condition → Condition}
    (hjoin : join = .both ∨ join = .either) (h : Follows Other Spelled) :
    Follows (ChainBy other word join Other) (ChainBy way word join Spelled) := by
  rintro ts c ⟨cs, hparts, hc⟩
  obtain ⟨ds, hds, hagree⟩ := follows_parts h hparts
  obtain ⟨d, hd⟩ := hother.total join hds.ne_nil_of_parts
  exact ⟨d, ⟨ds, hds, hd⟩, agree_of_arranged hjoin (hway.arranged hc) (hother.arranged hd) hagree⟩

theorem follows_disjunction (h : Follows Other Spelled) :
    Follows (DisjunctionBy other Other) (DisjunctionBy way Spelled) :=
  follows_chain hway hother (.inr rfl) (follows_chain hway hother (.inl rfl) h)

/-- Whichever way the chains of a condition are assembled in, it means the same. -/
theorem follows_expression (levels : Nat) :
    Follows (ExpressionBy other levels) (ExpressionBy way levels) := by
  induction levels with
  | zero => exact follows_disjunction hway hother (follows_primary fun _ _ h => h.elim)
  | succ levels ih => exact follows_disjunction hway hother (follows_primary ih)

end

/-! ### Columns in a text -/

/-- The name that a token is, if it can name a column. -/
def columnName? (t : Token) : Option String :=
  match t.kind with
  | .name text => if reserved.any (Token.sameWord · text) then none else some text
  | .quotedName text => some text
  | _ => none

/-- The names of the columns in a condition's tokens, from left to right. One with a dot behind it
only qualifies the next. -/
def columns : List Token → List String
  | [] => []
  | t :: rest =>
    match columnName? t with
    | some name => if isKind .dot rest then columns rest else name :: columns rest
    | none => columns rest

theorem columnName?_of_names {t : Token} {name : String} (h : Names t name) :
    columnName? t = some name := by
  unfold columnName?
  cases h with
  | plain hkind hfree =>
    have hnone : reserved.any (Token.sameWord · name) = false := by
      rw [List.any_eq_false]
      exact fun word hword => Bool.eq_false_iff.1 (hfree word hword)
    rw [hkind]
    dsimp only
    rw [hnone, if_neg Bool.false_ne_true]
  | quoted hkind => rw [hkind]

theorem columnName?_of_isKeyword {t : Token} {word : String} (h : t.isKeyword word = true)
    (hword : word ∈ reserved) : columnName? t = none := by
  obtain ⟨text, hkind⟩ := exists_name_of_isKeyword h
  unfold Token.isKeyword at h
  unfold columnName?
  rw [hkind] at h ⊢
  exact if_pos (List.any_eq_true.2 ⟨word, hword, h⟩)

theorem columns_cons_none {t : Token} (h : columnName? t = none) (rest : List Token) :
    columns (t :: rest) = columns rest := by
  rw [columns, h]

theorem columns_eq_nil {ts : List Token} (h : ∀ t ∈ ts, columnName? t = none) :
    columns ts = [] := by
  induction ts with
  | nil => rfl
  | cons t rest ih =>
    rw [List.forall_mem_cons] at h
    rw [columns_cons_none h.1, ih h.2]

/-- Columns of two texts are those of both, unless a dot joins the first to the second. -/
theorem columns_append {ts us : List Token} (h : isKind .dot us = false) :
    columns (ts ++ us) = columns ts ++ columns us := by
  induction ts with
  | nil => rfl
  | cons t rest ih =>
    have hdot : isKind .dot (rest ++ us) = isKind .dot rest := by
      cases rest with
      | nil => exact h
      | cons u rest => rfl
    rw [List.cons_append, columns, columns, hdot, ih]
    cases columnName? t with
    | none => rfl
    | some name =>
      dsimp only
      split
      · rfl
      · rfl

theorem Grammar.Column.columns_eq {ts : List Token} {name : String} (h : Column ts name) :
    columns ts = [name] := by
  induction h with
  | last hnames =>
    rw [columns, columnName?_of_names hnames]
    rfl
  | @qualified t dot ts qualifier name hnames hdot hrest ih =>
    have hnone : columnName? dot = none := by
      unfold columnName?
      rw [hdot]
    rw [columns, columnName?_of_names hnames]
    dsimp only
    rw [if_pos ((isKind_cons .dot dot ts).2 hdot), columns_cons_none hnone, ih]

theorem Grammar.Spells.unnamed {t : Token} {l : Literal} (h : Spells t.kind l) :
    columnName? t = none := by
  unfold columnName?
  generalize t.kind = kind at h
  cases h <;> rfl

theorem Grammar.Literals.unnamed {ts : List Token} {ls : List Literal} (h : Literals ts ls) :
    ∀ t ∈ ts, columnName? t = none := by
  induction h with
  | last h => exact List.forall_mem_singleton.2 h.unnamed
  | @more t comma ts l ls h hcomma hrest ih =>
    have hnone : columnName? comma = none := by
      unfold columnName?
      rw [hcomma]
    exact List.forall_mem_cons.2 ⟨h.unnamed, List.forall_mem_cons.2 ⟨hnone, ih⟩⟩

/-- Nothing that is asked of a column names another. -/
theorem Grammar.Test.unnamed {field : String} {us : List Token} {c : Condition}
    (h : Test field us c) : ∀ t ∈ us, columnName? t = none := by
  have hnegation {ns : List Token} {negated : Bool} (hn : Negation ns negated) :
      ∀ t ∈ ns, columnName? t = none := by
    cases hn with
    | absent => exact List.forall_mem_nil _
    | present ht => exact List.forall_mem_singleton.2 (columnName?_of_isKeyword ht (by decide))
  have hparenthesis {t : Token} (ht : t.kind = .opening ∨ t.kind = .closing) :
      columnName? t = none := by
    unfold columnName?
    rcases ht with ht | ht <;> rw [ht]
  cases h with
  | @compare t u comparison l hcomparison hl =>
    have hnone : columnName? t = none := by
      unfold columnName?
      cases hkind : t.kind <;> first | rfl | (rw [hkind] at hcomparison; cases hcomparison)
    exact List.forall_mem_cons.2 ⟨hnone, List.forall_mem_singleton.2 hl.unnamed⟩
  | among hn hin hopening hls hclosing =>
    refine List.forall_mem_append.2 ⟨hnegation hn, List.forall_mem_cons.2
      ⟨columnName?_of_isKeyword hin (by decide), List.forall_mem_cons.2 ⟨hparenthesis (.inl hopening),
        List.forall_mem_append.2 ⟨hls.unnamed, ?_⟩⟩⟩⟩
    exact List.forall_mem_singleton.2 (hparenthesis (.inr hclosing))
  | like hn hlike hu hpattern =>
    refine List.forall_mem_append.2 ⟨hnegation hn, List.forall_mem_cons.2
      ⟨columnName?_of_isKeyword hlike (by decide), List.forall_mem_singleton.2 ?_⟩⟩
    unfold columnName?
    rw [hu]

/-- A test is of one field. -/
theorem Grammar.Test.fields_eq {field : String} {us : List Token} {c : Condition}
    (h : Test field us c) : c.fields = [field] := by
  cases h <;> rfl

/-- The fields of a condition are the columns in its tokens. -/
def Columned (Spelled : Spelling) : Prop :=
  ∀ ⦃ts : List Token⦄ ⦃c : Condition⦄, Spelled ts c → c.fields = columns ts

/-- Words between parts name no columns. -/
theorem columned_parts {word : String} (hword : word ∈ reserved) {Part : Spelling}
    (h : Columned Part) {ts : List Token} {cs : List Condition} (hparts : Parts word Part ts cs) :
    cs.flatMap fields = columns ts := by
  induction hparts with
  | last hpart => rw [List.flatMap_cons, List.flatMap_nil, List.append_nil, h hpart]
  | @more ts us t c cs hpart ht hrest ih =>
    obtain ⟨text, hkind⟩ := exists_name_of_isKeyword ht
    rw [List.flatMap_cons, columns_append (isKind_ne hkind Token.Kind.noConfusion us),
      columns_cons_none (columnName?_of_isKeyword ht hword), h hpart, ih]

theorem columned_chain {word : String} (hword : word ∈ reserved)
    {join : Condition → Condition → Condition} (hjoin : join = .both ∨ join = .either)
    {Part : Spelling} (h : Columned Part) : Columned (Chain word join Part) := by
  rintro ts c ⟨cs, hparts, hjoined⟩
  rw [hjoined.arranged.fields_eq hjoin, columned_parts hword h hparts]

theorem columned_primary {Nested : Spelling} (h : Columned Nested) : Columned (Primary Nested) := by
  intro ts c hspelled
  cases hspelled with
  | @nested opening closing ts c hopening hnested hclosing =>
    have hfirst : columnName? opening = none := by
      unfold columnName?
      rw [hopening]
    have hlast : columnName? closing = none := by
      unfold columnName?
      rw [hclosing]
    have hdot : isKind .dot [closing] = false := isKind_ne hclosing Token.Kind.noConfusion []
    rw [columns_cons_none hfirst, columns_append hdot, columns_cons_none hlast, columns,
      List.append_nil, h hnested]
  | @single ts us field c hcolumn htest =>
    have hdot : isKind .dot us = false := by
      have := htest.isKind_dot []
      rwa [List.append_nil] at this
    rw [columns_append hdot, hcolumn.columns_eq, columns_eq_nil htest.unnamed, htest.fields_eq]
    rfl

/-- **The fields of a condition are the columns of its text, in order.** -/
theorem columned_expression (levels : Nat) : Columned (Expression levels) := by
  have hlevel {Nested : Spelling} (h : Columned Nested) : Columned (Disjunction (Primary Nested)) :=
    columned_chain (by decide) (.inr rfl)
      (columned_chain (by decide) (.inl rfl) (columned_primary h))
  induction levels with
  | zero => exact hlevel fun _ _ h => h.elim
  | succ levels ih => exact hlevel ih

/-! ### Heights -/

theorem length_fields_pos (c : Condition) : 0 < c.fields.length := by
  induction c with
  | both l r ihl ihr | either l r ihl ihr =>
    rw [fields, List.length_append]
    omega
  | compare | among | like => exact Nat.one_pos

/-- A number of chains within each other makes a condition only so high. -/
def Shallow (chains : Nat) (Spelled : Spelling) : Prop :=
  ∀ ⦃ts : List Token⦄ ⦃c : Condition⦄, Spelled ts c →
    c.height ≤ chains * Nat.clog 2 c.fields.length

theorem Grammar.Parts.all {word : String} {Part : Spelling} {P : Condition → Prop}
    (h : ∀ ts c, Part ts c → P c) {ts : List Token} {cs : List Condition}
    (hparts : Parts word Part ts cs) : ∀ c ∈ cs, P c := by
  induction hparts with
  | last hpart => exact List.forall_mem_singleton.2 (h _ _ hpart)
  | more hpart hword hrest ih => exact List.forall_mem_cons.2 ⟨h _ _ hpart, ih⟩

/-- A chain is put together in halves, so it adds the logarithm of the number of fields at most. -/
theorem shallow_chain {word : String} {join : Condition → Condition → Condition}
    (hjoin : join = .both ∨ join = .either) {Part : Spelling} {chains : Nat}
    (h : Shallow chains Part) : Shallow (chains + 1) (Chain word join Part) := by
  rintro ts c ⟨cs, hparts, hjoined⟩
  have hfields : c.fields = cs.flatMap fields := hjoined.arranged.fields_eq hjoin
  have hlength : Nat.clog 2 cs.length ≤ Nat.clog 2 c.fields.length := by
    refine Nat.clog_mono_right 2 ?_
    rw [hfields, List.length_flatMap, ← List.length_map]
    refine List.length_le_sum_of_one_le _ fun n hn => ?_
    obtain ⟨d, hd, rfl⟩ := List.mem_map.1 hn
    exact length_fields_pos d
  have hparts : tallest cs ≤ chains * Nat.clog 2 c.fields.length := by
    refine tallest_le_iff.2 fun d hd => ?_
    have hshallow : d.height ≤ chains * Nat.clog 2 d.fields.length := hparts.all h d hd
    have hless : d.fields.length ≤ c.fields.length := by
      rw [hfields, List.flatMap_def]
      exact (List.sublist_flatten_of_mem (List.mem_map_of_mem hd)).length_le
    exact hshallow.trans (Nat.mul_le_mul_left chains (Nat.clog_mono_right 2 hless))
  calc c.height ≤ Nat.clog 2 cs.length + tallest cs := hjoined.height_le hjoin
    _ ≤ Nat.clog 2 c.fields.length + chains * Nat.clog 2 c.fields.length :=
      Nat.add_le_add hlength hparts
    _ = (chains + 1) * Nat.clog 2 c.fields.length := by rw [Nat.succ_mul, Nat.add_comm]

theorem shallow_primary {Nested : Spelling} {chains : Nat} (h : Shallow chains Nested) :
    Shallow chains (Primary Nested) := by
  intro ts c hspelled
  cases hspelled with
  | nested hopening hnested hclosing => exact h hnested
  | single hcolumn htest => cases htest <;> exact Nat.zero_le _

/-- A level of parentheses adds the height of two chains at most. -/
theorem shallow_expression (levels : Nat) : Shallow ((levels + 1) * 2) (Expression levels) := by
  have hlevel {chains : Nat} {Nested : Spelling} (h : Shallow chains Nested) :
      Shallow (chains + 2) (Disjunction (Primary Nested)) :=
    shallow_chain (.inr rfl) (shallow_chain (.inl rfl) (shallow_primary h))
  induction levels with
  | zero => exact hlevel fun _ _ h => h.elim
  | succ levels ih =>
    rw [Nat.succ_mul (levels + 1) 2]
    exact hlevel ih

/-! ### Whole texts -/

theorem exists_statement {text : String} {c : Condition} (h : compile text = .ok c) :
    ∃ ts, Token.tokens text = .ok ts ∧ Statement ts c := by
  unfold compile at h
  dsimp only at h
  split at h
  · cases h
  · split at h
    · next ts hts => exact ⟨ts, hts, statement_sound h⟩
    · cases h

theorem Statement.exists_written {ts : List Token} {c : Condition} (h : Statement ts c) :
    ∃ body w, Written ts body w := by
  cases h with
  | mk hfront hbody hending =>
    rw [← expressionBy_joined] at hbody
    obtain ⟨w, hw, -⟩ := follows_expression orderly_joined orderly_inRow maxNesting hbody
    exact ⟨_, w, .mk hfront hw hending⟩

/-- What is read of a statement has the meaning of what is written, and the columns of its text. -/
theorem Statement.means_written {ts body : List Token} {c w : Condition} (h : Statement ts c)
    (hw : Written ts body w) : Agree c w ∧ c.fields = columns body ∧
      c.height ≤ (maxNesting + 1) * 2 * Nat.clog 2 (columns body).length := by
  cases hw with
  | mk hfront hbody hending =>
    obtain ⟨d, hd, hagree⟩ := follows_expression orderly_inRow orderly_joined maxNesting hbody
    rw [expressionBy_joined] at hd
    have hother : statement 0 _ = .ok d := statement_complete (.mk hfront hd hending)
    obtain rfl : c = d := Except.ok.inj ((statement_complete h).symm.trans hother)
    have hfields : c.fields = columns body := columned_expression maxNesting hd
    refine ⟨⟨fun e => (hagree.holds e).symm, hagree.fields.symm⟩, hfields, ?_⟩
    rw [← hfields]
    exact shallow_expression maxNesting hd

/-- **Chains are built into balanced trees that mean what is written.** Any parts make a tree that
halving them leads to, whatever stands for no parts at all, and it is only the logarithm of their
number higher than the tallest. It holds of an event if all of them do, or any. A condition that is
read of a text means what its chains mean from left to right, asks for the columns in the order of
the text, and is no higher than what the most parentheses that may be nested make of it. -/
theorem chains_balanced :
    (∀ (join : Condition → Condition → Condition) (none other : Condition) (parts : List Condition),
      join = .both ∨ join = .either → parts ≠ [] →
        Joined join parts (balanced join none parts) ∧
          balanced join none parts = balanced join other parts ∧
          Arranged join parts (balanced join none parts) ∧
          (balanced join none parts).height ≤ Nat.clog 2 parts.length + tallest parts) ∧
      (∀ (none : Condition) (parts : List Condition) (e : Event), parts ≠ [] →
        (balanced .both none parts).holds e = parts.all (·.holds e) ∧
          (balanced .either none parts).holds e = parts.any (·.holds e)) ∧
      ∀ text c, compile text = .ok c →
        ∃ ts, Token.tokens text = .ok ts ∧ (∃ body w, Written ts body w) ∧
          ∀ body w, Written ts body w →
            (∀ e, c.holds e = w.holds e) ∧ c.fields = columns body ∧
              c.height ≤ 65 * 2 * Nat.clog 2 (columns body).length := by
  have hjoined (join : Condition → Condition → Condition) (none : Condition) {parts : List Condition}
      (hne : parts ≠ []) : Joined join parts (balanced join none parts) :=
    (joined_iff none hne).2 rfl
  refine ⟨fun join none other parts hjoin hne => ?_, fun none parts e hne => ?_, fun text c h => ?_⟩
  · have htree := hjoined join none hne
    exact ⟨htree, ((joined_iff other hne).1 htree).symm, htree.arranged, htree.height_le hjoin⟩
  · exact ⟨(hjoined .both none hne).arranged.holds_both e,
      (hjoined .either none hne).arranged.holds_either e⟩
  · obtain ⟨ts, htokens, hstatement⟩ := exists_statement h
    refine ⟨ts, htokens, hstatement.exists_written, fun body w hw => ?_⟩
    obtain ⟨hagree, hcolumns, hheight⟩ := hstatement.means_written hw
    exact ⟨hagree.holds, hcolumns, hheight⟩

/-- Three parts: they are cut after the first, and written as if they were cut before the last. -/
def rowText : String := "a = 1 OR t.b = 2 OR c = 3"

def rowTokens : List Token :=
  [⟨.name "a", 0, ['a']⟩, ⟨.eq, 2, ['=']⟩, ⟨.integer 1, 4, ['1']⟩, ⟨.name "OR", 6, ['O', 'R']⟩,
    ⟨.name "t", 9, ['t']⟩, ⟨.dot, 10, ['.']⟩, ⟨.name "b", 11, ['b']⟩, ⟨.eq, 13, ['=']⟩,
    ⟨.integer 2, 15, ['2']⟩, ⟨.name "OR", 17, ['O', 'R']⟩, ⟨.name "c", 20, ['c']⟩, ⟨.eq, 22, ['=']⟩,
    ⟨.integer 3, 24, ['3']⟩]

def rowPart (name : String) (value : Int64) : Condition := .compare name .eq (.integer value)

def rowParts : List Condition := [rowPart "a" 1, rowPart "b" 2, rowPart "c" 3]

theorem expressionBy_row {way : Assembly} {c : Condition} (hpart : ∀ join d, way join [d] d)
    (h : way .either rowParts c) : ExpressionBy way maxNesting rowTokens c := by
  have hchain {ts : List Token} {d : Condition} {Nested : Spelling} (hd : Primary Nested ts d) :
      ChainBy way "AND" .both (Primary Nested) ts d := ⟨[d], .last hd, hpart .both d⟩
  have htest {t u : Token} {ts : List Token} {name : String} {value : Int64} {Nested : Spelling}
      (hcolumn : Column ts name) (ht : t.kind = .eq) (hu : u.kind = .integer value) :
      Primary Nested (ts ++ [t, u]) (rowPart name value) := by
    refine .single hcolumn (.compare ?_ ?_)
    · rw [ht]
      rfl
    · rw [hu]
      exact .integer value
  refine ⟨rowParts, ?_, h⟩
  refine .more (hchain (htest (.last (.plain rfl (by decide))) rfl rfl)) (by decide) ?_
  refine .more (hchain (htest (.qualified (.plain rfl (by decide)) rfl
    (.last (.plain rfl (by decide)))) rfl rfl)) (by decide) ?_
  exact .last (hchain (htest (.last (.plain rfl (by decide))) rfl rfl))

theorem chains_balanced_row :
    let read := Condition.either (rowPart "a" 1) (.either (rowPart "b" 2) (rowPart "c" 3))
    let written := Condition.either (.either (rowPart "a" 1) (rowPart "b" 2)) (rowPart "c" 3)
    balanced .either (rowPart "" 0) rowParts = read ∧ read.height ≤ Nat.clog 2 3 + 0 ∧
      (∀ e, read.holds e = rowParts.any (·.holds e)) ∧
      compile rowText = .ok read ∧ Written rowTokens rowTokens written ∧
      (∀ e, read.holds e = written.holds e) ∧ read.fields = ["a", "b", "c"] ∧
      read.height ≤ 65 * 2 * Nat.clog 2 3 := by
  intro read written
  have hne : rowParts ≠ [] := List.cons_ne_nil _ _
  have hjoined : Joined .either rowParts read :=
    .halves (by decide) (.part _) (.halves (by decide) (.part _) (.part _))
  have hbalanced : balanced .either (rowPart "" 0) rowParts = read := (joined_iff _ hne).1 hjoined
  have hwritten : Written rowTokens rowTokens written := by
    have h := Written.mk .none (expressionBy_row (fun _ d => .mk d []) (.mk _ _)) .none
    rwa [List.nil_append, List.append_nil] at h
  have htokens : Token.tokens rowText = .ok rowTokens :=
    Token.tokens_eq_ok_of_toOption (by decide +kernel)
  have hcompile : compile rowText = .ok read := by
    have hbody : Expression maxNesting rowTokens read := by
      rw [← expressionBy_joined]
      exact expressionBy_row (fun _ d => .part d) hjoined
    have hsize : rowText.utf8ByteSize ≤ maxBytes := by decide +kernel
    have hstatement : Statement rowTokens read := by
      have h := Statement.mk .none hbody .none
      rwa [List.nil_append, List.append_nil] at h
    unfold compile
    dsimp only
    rw [if_neg (Nat.not_lt.2 hsize), htokens]
    exact statement_complete hstatement
  obtain ⟨htree, hmeans, htext⟩ := chains_balanced
  obtain ⟨-, -, -, hheight⟩ := htree .either (rowPart "" 0) (rowPart "" 0) rowParts (.inr rfl) hne
  have hany (e : Event) := (hmeans (rowPart "" 0) rowParts e hne).2
  rw [hbalanced] at hheight
  simp only [hbalanced] at hany
  obtain ⟨ts, hts, -, hall⟩ := htext rowText read hcompile
  obtain rfl : ts = rowTokens := Except.ok.inj (hts.symm.trans htokens)
  obtain ⟨hsame, hfields, hlow⟩ := hall rowTokens written hwritten
  have hcolumns : columns rowTokens = ["a", "b", "c"] := by decide
  rw [hcolumns] at hfields hlow
  exact ⟨hbalanced, hheight, hany, hcompile, hwritten, hsame, hfields, hlow⟩

end Watchpost.Condition
