import Watchpost.Proofs.Condition.Compiling
import Watchpost.Proofs.Condition.Spelling

/-! Rendered conditions.

A condition whose parts can be written is read back from its text (`compile_render`). Its text is
cut into tokens part by part, and the tokens of each part are shown to spell it (`Cuts`). -/
namespace Watchpost

/-! ### What can be written -/

/-- The infinities and what is no number are not written as numbers. -/
def Literal.Finite : Literal → Prop
  | .text _ | .integer _ => True
  | .float d => d.magnitude < Double.infinite

instance : DecidablePred Literal.Finite
  | .text _ | .integer _ => inferInstanceAs (Decidable True)
  | .float d => inferInstanceAs (Decidable (d.magnitude < Double.infinite))

namespace Condition

/-- A name that can stand for itself. -/
def IsField (name : String) : Prop :=
  Token.isPlain name = true ∧ ∀ word ∈ reserved, Token.sameWord word name = false

instance (name : String) : Decidable (IsField name) :=
  inferInstanceAs (Decidable (_ ∧ _))

/-- Fields can stand for themselves, numbers are finite and lists are not empty. -/
def Writable : Condition → Prop
  | both l r | either l r => l.Writable ∧ r.Writable
  | compare field _ literal => IsField field ∧ literal.Finite
  | among field literals _ => IsField field ∧ literals ≠ [] ∧ ∀ l ∈ literals, l.Finite
  | like field _ _ => IsField field

instance decidableWritable : (c : Condition) → Decidable c.Writable
  | both l r | either l r =>
    have := decidableWritable l
    have := decidableWritable r
    inferInstanceAs (Decidable (l.Writable ∧ r.Writable))
  | compare field _ literal => inferInstanceAs (Decidable (IsField field ∧ literal.Finite))
  | among field literals _ =>
    inferInstanceAs (Decidable (IsField field ∧ literals ≠ [] ∧ ∀ l ∈ literals, l.Finite))
  | like field _ _ => inferInstanceAs (Decidable (IsField field))

open Grammar Token

/-! ### Texts that are cut -/

/-- Characters that are cut into tokens of some form, if a border comes behind them. -/
def Cuts (cs : List Char) (Form : List Token → Prop) : Prop :=
  ∀ rest, Bordered rest → ∀ soFar offset, ∃ ts finish, Form ts ∧
    scan soFar offset 0 (cs ++ rest) = scan (ts.reverse ++ soFar) finish 0 rest

/-- One token of a kind. -/
def Alone (kind : Token.Kind) (ts : List Token) : Prop := ∃ t, ts = [t] ∧ t.kind = kind

variable {cs ds : List Char} {P Q R : List Token → Prop}

theorem Cuts.mono (h : Cuts cs P) (hform : ∀ ts, P ts → Q ts) : Cuts cs Q := by
  intro rest hrest soFar offset
  obtain ⟨ts, finish, hts, hscan⟩ := h rest hrest soFar offset
  exact ⟨ts, finish, hform ts hts, hscan⟩

theorem cuts_spelt {kind : Token.Kind} (h : Spelt kind cs) : Cuts cs (Alone kind) := by
  intro rest hrest soFar offset
  exact ⟨[⟨kind, offset, cs⟩], _, ⟨_, rfl, rfl⟩, scan_spelt h hrest⟩

/-- What comes behind has to begin with a border. -/
theorem Cuts.append (h : Cuts cs P) (hd : Cuts ds Q)
    (hborder : ∀ rest, Bordered rest → Bordered (ds ++ rest))
    (hform : ∀ ts us, P ts → Q us → R (ts ++ us)) : Cuts (cs ++ ds) R := by
  intro rest hrest soFar offset
  obtain ⟨ts, middle, hts, hfirst⟩ := h (ds ++ rest) (hborder rest hrest) soFar offset
  obtain ⟨us, finish, hus, hsecond⟩ := hd rest hrest (ts.reverse ++ soFar) middle
  refine ⟨ts ++ us, finish, hform ts us hts hus, ?_⟩
  rw [List.append_assoc, hfirst, hsecond, List.reverse_append, List.append_assoc]

theorem Cuts.space (h : Cuts cs P) : Cuts (' ' :: cs) P := by
  intro rest hrest soFar offset
  obtain ⟨ts, finish, hts, hscan⟩ := h rest hrest soFar (offset + 1)
  exact ⟨ts, finish, hts, (scan_space soFar offset (cs ++ rest)).trans hscan⟩

theorem Cuts.spaced (h : Cuts cs P) (hd : Cuts ds Q)
    (hform : ∀ ts us, P ts → Q us → R (ts ++ us)) : Cuts (cs ++ ' ' :: ds) R :=
  h.append hd.space (fun rest _ => bordered_cons (by decide) (ds ++ rest)) hform

theorem Cuts.enclosed (h : Cuts cs P)
    (hform : ∀ opening ts closing, opening.kind = .opening → P ts → closing.kind = .closing →
      Q (opening :: (ts ++ [closing]))) : Cuts ('(' :: (cs ++ [')'])) Q := by
  have hrest : Cuts (cs ++ [')']) fun us => ∃ ts closing, us = ts ++ [closing] ∧ P ts ∧
      closing.kind = .closing := by
    refine h.append (cuts_spelt spelt_closing) (fun rest _ => bordered_cons (by decide) rest) ?_
    rintro ts us hts ⟨closing, rfl, hclosing⟩
    exact ⟨ts, closing, rfl, hts, hclosing⟩
  intro rest hborder soFar offset
  obtain ⟨us, finish, ⟨ts, closing, rfl, hts, hclosing⟩, hscan⟩ :=
    hrest rest hborder (⟨.opening, offset, ['(']⟩ :: soFar) (offset + 1)
  refine ⟨⟨.opening, offset, ['(']⟩ :: (ts ++ [closing]), finish,
    hform _ ts closing rfl hts hclosing, ?_⟩
  rw [List.cons_append, scan_opening, hscan, List.reverse_cons, List.append_assoc _ _ soFar]
  rfl

theorem Cuts.listed (h : Cuts cs P) (hd : Cuts ds Q)
    (hform : ∀ ts t us, P ts → t.kind = .comma → Q us → R (ts ++ t :: us)) :
    Cuts (cs ++ ',' :: ' ' :: ds) R := by
  have hcomma : Cuts (',' :: ' ' :: ds) fun us => ∃ t vs, us = t :: vs ∧ t.kind = .comma ∧ Q vs := by
    refine Cuts.spaced (cuts_spelt spelt_comma) hd ?_
    rintro ts us ⟨t, rfl, ht⟩ hus
    exact ⟨t, us, rfl, ht, hus⟩
  refine h.append hcomma (fun rest _ => bordered_cons (by decide) _) ?_
  rintro ts us hts ⟨t, vs, rfl, ht, hvs⟩
  exact hform ts t vs hts ht hvs

/-! ### Words and literals -/

/-- One keyword. -/
def Word (word : String) (ts : List Token) : Prop := ∃ t, ts = [t] ∧ t.isKeyword word = true

theorem cuts_word {word : String} (h : Token.isPlain word = true) :
    Cuts word.toList (Word word) := by
  refine (cuts_spelt (spelt_name h)).mono ?_
  rintro ts ⟨t, rfl, ht⟩
  refine ⟨t, rfl, ?_⟩
  rw [Token.isKeyword, ht]
  exact beq_self_eq_true _

theorem cuts_field {name : String} (h : IsField name) :
    Cuts name.toList (Column · name) := by
  refine (cuts_spelt (spelt_name h.1)).mono ?_
  rintro ts ⟨t, rfl, ht⟩
  exact .last (.plain ht h.2)

theorem cuts_literal {l : Literal} (h : l.Finite) :
    Cuts l.render.toList fun ts => ∃ t, ts = [t] ∧ Spells t.kind l := by
  have hspelt {kind : Token.Kind} (hkind : Spelt kind l.render.toList) (hl : Spells kind l) :
      Cuts l.render.toList fun ts => ∃ t, ts = [t] ∧ Spells t.kind l := by
    refine (cuts_spelt hkind).mono ?_
    rintro ts ⟨t, rfl, ht⟩
    exact ⟨t, rfl, ht ▸ hl⟩
  cases l with
  | text s => exact hspelt (spelt_text s) (.text s)
  | integer i => exact hspelt (spelt_integer i) (.integer i)
  | float d => exact hspelt (spelt_float h) (.float d)

theorem cuts_literals {ls : List Literal} (hne : ls ≠ []) (h : ∀ l ∈ ls, l.Finite) :
    Cuts (", ".intercalate (ls.map Literal.render)).toList (Literals · ls) := by
  induction ls with
  | nil => exact absurd rfl hne
  | cons l ls ih =>
    have hfirst := cuts_literal (h l (List.mem_cons_self ..))
    cases ls with
    | nil =>
      have htext : ", ".intercalate ([l].map Literal.render) = l.render :=
        String.intercalate_singleton
      rw [htext]
      refine hfirst.mono ?_
      rintro ts ⟨t, rfl, ht⟩
      exact .last ht
    | cons k ls =>
      have hrest := ih (List.cons_ne_nil k ls) fun m hm => h m (List.mem_cons_of_mem l hm)
      have htext : (", ".intercalate ((l :: k :: ls).map Literal.render)).toList =
          l.render.toList ++ ',' :: ' ' ::
            (", ".intercalate ((k :: ls).map Literal.render)).toList := by
        rw [List.map_cons, List.map_cons, String.intercalate_cons_cons]
        simp
      rw [htext]
      refine hfirst.listed hrest ?_
      rintro ts t us ⟨u, rfl, hu⟩ ht hus
      exact .more hu ht hus

/-! ### Tests -/

/-- A keyword after a `NOT` that may be there. -/
inductive Asked (word : String) (negated : Bool) : List Token → Prop where
  | mk {ns : List Token} {t : Token} (hn : Negation ns negated) (h : t.isKeyword word = true) :
      Asked word negated (ns ++ [t])

/-- A list in its parentheses. -/
inductive Listing (ls : List Literal) : List Token → Prop where
  | mk {opening closing : Token} {ts : List Token} (hopening : opening.kind = .opening)
      (h : Literals ts ls) (hclosing : closing.kind = .closing) :
      Listing ls (opening :: (ts ++ [closing]))

theorem cuts_asked {word : String} (negated : Bool) (h : Token.isPlain word = true) :
    Cuts ((negation negated).toList ++ word.toList) (Asked word negated) := by
  cases negated with
  | false =>
    refine (cuts_word h).mono ?_
    rintro ts ⟨t, rfl, ht⟩
    exact .mk .absent ht
  | true =>
    have htext : (negation true).toList ++ word.toList = "NOT".toList ++ ' ' :: word.toList := rfl
    rw [htext]
    refine (cuts_word (by decide)).spaced (cuts_word h) ?_
    rintro ts us ⟨t, rfl, ht⟩ ⟨u, rfl, hu⟩
    exact .mk (.present ht) hu

theorem comparison?_kind (c : Comparison) : comparison? (comparisonKind c) = some c := by
  cases c <;> rfl

theorem cuts_compare (field : String) (comparison : Comparison) {l : Literal} (h : l.Finite) :
    Cuts (comparison.render.toList ++ ' ' :: l.render.toList)
      (Test field · (.compare field comparison l)) := by
  refine (cuts_spelt (spelt_comparison comparison)).spaced (cuts_literal h) ?_
  rintro ts us ⟨t, rfl, ht⟩ ⟨u, rfl, hu⟩
  exact .compare (ht ▸ comparison?_kind comparison) hu

theorem cuts_among (field : String) (negated : Bool) {ls : List Literal} (hne : ls ≠ [])
    (h : ∀ l ∈ ls, l.Finite) :
    Cuts (((negation negated).toList ++ "IN".toList) ++ ' ' ::
        '(' :: ((", ".intercalate (ls.map Literal.render)).toList ++ [')']))
      (Test field · (.among field ls negated)) := by
  have hlist : Cuts ('(' :: ((", ".intercalate (ls.map Literal.render)).toList ++ [')']))
      (Listing ls) :=
    (cuts_literals hne h).enclosed fun _ _ _ hopening hts hclosing => .mk hopening hts hclosing
  refine (cuts_asked negated (by decide)).spaced hlist ?_
  rintro ts us ⟨hn, ht⟩ ⟨hopening, hls, hclosing⟩
  rw [List.append_assoc]
  exact .among hn ht hopening hls hclosing

theorem cuts_like (field : String) (pattern : Like) (negated : Bool) :
    Cuts (((negation negated).toList ++ "LIKE".toList) ++ ' ' :: (quoted pattern.source).toList)
      (Test field · (.like field pattern negated)) := by
  refine (cuts_asked negated (by decide)).spaced (cuts_spelt (spelt_text pattern.source)) ?_
  rintro ts us ⟨hn, ht⟩ ⟨u, rfl, hu⟩
  rw [List.append_assoc]
  exact .like hn ht hu pattern.read?_source

/-! ### Trees -/

/-- What stands between the connectives of an expression. -/
def Operand : Nat → Spelling
  | 0 => Primary fun _ _ => False
  | levels + 1 => Primary (Expression levels)

theorem expression_eq (levels : Nat) : Expression levels = Disjunction (Operand levels) := by
  cases levels <;> rfl

theorem joined_pair (join : Condition → Condition → Condition) (l r : Condition) :
    Joined join [l, r] (join l r) := by
  have hhalf : [l, r].length / 2 = 1 := Nat.div_self Nat.two_pos
  refine .halves (Nat.le_refl 2) ?_ ?_
  · rw [hhalf]
    exact .part l
  · rw [hhalf]
    exact .part r

theorem chain_part {word : String} {join : Condition → Condition → Condition} {Part : Spelling}
    {ts : List Token} {c : Condition} (h : Part ts c) : Chain word join Part ts c :=
  ⟨[c], .last h, .part c⟩

theorem chain_pair {word : String} {join : Condition → Condition → Condition} {Part : Spelling}
    {ts us : List Token} {t : Token} {l r : Condition} (hl : Part ts l)
    (ht : t.isKeyword word = true) (hr : Part us r) :
    Chain word join Part (ts ++ t :: us) (join l r) :=
  ⟨[l, r], .more hl ht (.last hr), joined_pair join l r⟩

/-- A test after its field. -/
theorem cuts_single {field : String} {c : Condition} (levels : Nat) (hfield : IsField field)
    (h : Cuts ds (Test field · c)) : Cuts (field.toList ++ ' ' :: ds) (Operand levels · c) := by
  refine (cuts_field hfield).spaced h fun ts us hts hus => ?_
  cases levels with
  | zero => exact .single hts hus
  | succ levels => exact .single hts hus

/-- Two operands with a connective between them, in parentheses. -/
theorem cuts_pair {levels : Nat} {word : String} {l r c : Condition}
    (hword : Token.isPlain word = true) (hl : Cuts cs (Operand levels · l))
    (hr : Cuts ds (Operand levels · r))
    (hc : ∀ ts t us, Operand levels ts l → t.isKeyword word = true → Operand levels us r →
      Expression levels (ts ++ t :: us) c) :
    Cuts ('(' :: (cs ++ ' ' :: (word.toList ++ ' ' :: ds) ++ [')'])) (Operand (levels + 1) · c) := by
  have hright : Cuts (word.toList ++ ' ' :: ds) fun us => ∃ t vs, us = t :: vs ∧
      t.isKeyword word = true ∧ Operand levels vs r := by
    refine (cuts_word hword).spaced hr ?_
    rintro ts us ⟨t, rfl, ht⟩ hus
    exact ⟨t, us, rfl, ht, hus⟩
  have hinner : Cuts (cs ++ ' ' :: (word.toList ++ ' ' :: ds)) (Expression levels · c) := by
    refine hl.spaced hright ?_
    rintro ts us hts ⟨t, vs, rfl, ht, hvs⟩
    exact hc ts t vs hts ht hvs
  exact hinner.enclosed fun _ _ _ hopening hts hclosing => .nested hopening hts hclosing

/-- **The text of a condition is cut into tokens that spell it.** -/
theorem cuts_render {c : Condition} {levels : Nat} (h : c.Writable) (hheight : c.height ≤ levels) :
    Cuts c.render.toList (Operand levels · c) := by
  induction c generalizing levels with
  | compare field comparison literal =>
    have htext : (compare field comparison literal).render.toList =
        field.toList ++ ' ' :: (comparison.render.toList ++ ' ' :: literal.render.toList) := by
      simp [render, toString]
    rw [htext]
    exact cuts_single levels h.1 (cuts_compare field comparison h.2)
  | among field literals negated =>
    have htext : (among field literals negated).render.toList =
        field.toList ++ ' ' :: (((negation negated).toList ++ "IN".toList) ++ ' ' ::
          '(' :: ((", ".intercalate (literals.map Literal.render)).toList ++ [')'])) := by
      simp [render, toString]
    rw [htext]
    exact cuts_single levels h.1 (cuts_among field negated h.2.1 h.2.2)
  | like field pattern negated =>
    have htext : (like field pattern negated).render.toList =
        field.toList ++ ' ' :: (((negation negated).toList ++ "LIKE".toList) ++ ' ' ::
          (quoted pattern.source).toList) := by
      simp [render, toString]
    rw [htext]
    exact cuts_single levels h (cuts_like field pattern negated)
  | both l r ihl ihr =>
    have htext : (both l r).render.toList =
        '(' :: (l.render.toList ++ ' ' :: ("AND".toList ++ ' ' :: r.render.toList) ++ [')']) := by
      simp [render, toString]
    rw [height] at hheight
    obtain ⟨below, rfl⟩ : ∃ below, levels = below + 1 := ⟨levels - 1, by omega⟩
    rw [htext]
    refine cuts_pair (by decide) (ihl h.1 (by omega)) (ihr h.2 (by omega)) ?_
    intro ts t us hts ht hus
    rw [expression_eq]
    exact chain_part (chain_pair hts ht hus)
  | either l r ihl ihr =>
    have htext : (either l r).render.toList =
        '(' :: (l.render.toList ++ ' ' :: ("OR".toList ++ ' ' :: r.render.toList) ++ [')']) := by
      simp [render, toString]
    rw [height] at hheight
    obtain ⟨below, rfl⟩ : ∃ below, levels = below + 1 := ⟨levels - 1, by omega⟩
    rw [htext]
    refine cuts_pair (by decide) (ihl h.1 (by omega)) (ihr h.2 (by omega)) ?_
    intro ts t us hts ht hus
    rw [expression_eq]
    exact chain_pair (chain_part hts) ht (chain_part hus)

/-- **A condition is read from its text.** -/
theorem compile_render (c : Condition) (h : c.Writable) (hheight : c.height ≤ maxNesting)
    (hsize : c.render.utf8ByteSize ≤ maxBytes) : compile c.render = .ok c := by
  obtain ⟨ts, finish, hts, hscan⟩ := cuts_render h hheight [] bordered_nil [] 0
  have htokens : Token.tokens c.render = .ok ts := by
    rw [Token.tokens]
    rw [List.append_nil, List.append_nil] at hscan
    rw [hscan, scan, List.reverse_reverse]
  have hbody : Expression maxNesting ts c := by
    rw [expression_eq]
    exact chain_part (chain_part hts)
  have hstatement : Statement ([] ++ (ts ++ [])) c := .mk .none hbody .none
  rw [List.nil_append, List.append_nil] at hstatement
  unfold compile
  dsimp only
  rw [if_neg (Nat.not_lt.2 hsize), htokens]
  exact statement_complete hstatement

/-- Nested to the left, with a quote in a text and in a pattern, and with numbers below zero. -/
def mixed : Condition :=
  .both
    (.either (.compare "_score$" .le (.float ⟨true, 0x3E8421F5F40D8376⟩))
      (.among "hostname" [.text "o'neil", .integer (-5)] true))
    (.like "msgId" ((Like.read? "%'%").get (by decide +kernel)) false)

theorem compile_render_mixed : mixed.Writable ∧ mixed.height ≤ maxNesting ∧
    mixed.render.utf8ByteSize ≤ maxBytes ∧ compile mixed.render = .ok mixed := by
  have h : mixed.Writable := by decide +kernel
  have hheight : mixed.height ≤ maxNesting := by decide +kernel
  have hsize : mixed.render.utf8ByteSize ≤ maxBytes := by decide +kernel
  exact ⟨h, hheight, hsize, compile_render mixed h hheight hsize⟩

end Condition
end Watchpost
