import Watchpost.Condition.Compile

/-! The grammar of conditions.

It says of lists of tokens which conditions they spell, and nothing about how they are read. A
chain of connectives spells a balanced tree over its parts (`Joined`), and a statement may hold
its condition between a `SELECT … FROM … WHERE` and a semicolon (`Statement`). -/
namespace Watchpost.Condition

/-- A tree that halves its parts again and again, the smaller half first. -/
inductive Joined (join : Condition → Condition → Condition) : List Condition → Condition → Prop where
  | part (c : Condition) : Joined join [c] c
  | halves {cs : List Condition} {l r : Condition} (h : 2 ≤ cs.length)
      (hl : Joined join (cs.take (cs.length / 2)) l) (hr : Joined join (cs.drop (cs.length / 2)) r) :
      Joined join cs (join l r)

namespace Grammar

/-! ### Columns -/

/-- A token that names something: a name that is not reserved, or any quoted one. -/
inductive Names (t : Token) : String → Prop where
  | plain {text : String} (h : t.kind = .name text)
      (hfree : ∀ word ∈ reserved, Token.sameWord word text = false) : Names t text
  | quoted {text : String} (h : t.kind = .quotedName text) : Names t text

/-- Names with dots between them. The last one is the column's. -/
inductive Column : List Token → String → Prop where
  | last {t : Token} {name : String} (h : Names t name) : Column [t] name
  | qualified {t dot : Token} {ts : List Token} {qualifier name : String} (h : Names t qualifier)
      (hdot : dot.kind = .dot) (hrest : Column ts name) : Column (t :: dot :: ts) name

/-! ### Single conditions -/

inductive Spells : Token.Kind → Literal → Prop where
  | text (s : String) : Spells (.text s) (.text s)
  | integer (i : Int64) : Spells (.integer i) (.integer i)
  | float (d : Double) : Spells (.float d) (.float d)

/-- Literals with commas between them. -/
inductive Literals : List Token → List Literal → Prop where
  | last {t : Token} {l : Literal} (h : Spells t.kind l) : Literals [t] [l]
  | more {t comma : Token} {ts : List Token} {l : Literal} {ls : List Literal}
      (h : Spells t.kind l) (hcomma : comma.kind = .comma) (hrest : Literals ts ls) :
      Literals (t :: comma :: ts) (l :: ls)

/-- A `NOT` that may be there. -/
inductive Negation : List Token → Bool → Prop where
  | absent : Negation [] false
  | present {t : Token} (h : t.isKeyword "NOT" = true) : Negation [t] true

/-- What is asked of a column. The text after `LIKE` has to be a pattern. -/
inductive Test (field : String) : List Token → Condition → Prop where
  | compare {t u : Token} {comparison : Comparison} {l : Literal}
      (h : comparison? t.kind = some comparison) (hl : Spells u.kind l) :
      Test field [t, u] (.compare field comparison l)
  | among {ns ts : List Token} {t opening closing : Token} {ls : List Literal} {negated : Bool}
      (hn : Negation ns negated) (h : t.isKeyword "IN" = true) (hopening : opening.kind = .opening)
      (hls : Literals ts ls) (hclosing : closing.kind = .closing) :
      Test field (ns ++ t :: opening :: (ts ++ [closing])) (.among field ls negated)
  | like {ns : List Token} {t u : Token} {source : String} {pattern : Like} {negated : Bool}
      (hn : Negation ns negated) (h : t.isKeyword "LIKE" = true) (hu : u.kind = .text source)
      (hpattern : Like.read? source = some pattern) :
      Test field (ns ++ [t, u]) (.like field pattern negated)

/-! ### Connectives -/

/-- What lists of tokens spell. -/
abbrev Spelling := List Token → Condition → Prop

/-- Parts with a keyword between them. -/
inductive Parts (word : String) (Part : Spelling) : List Token → List Condition → Prop where
  | last {ts : List Token} {c : Condition} (h : Part ts c) : Parts word Part ts [c]
  | more {ts us : List Token} {t : Token} {c : Condition} {cs : List Condition} (h : Part ts c)
      (hword : t.isKeyword word = true) (hrest : Parts word Part us cs) :
      Parts word Part (ts ++ t :: us) (c :: cs)

/-- A chain of parts spells one tree. -/
def Chain (word : String) (join : Condition → Condition → Condition) (Part : Spelling) : Spelling :=
  fun ts c => ∃ cs, Parts word Part ts cs ∧ Joined join cs c

/-- A condition in parentheses, or a single one. -/
inductive Primary (Nested : Spelling) : Spelling where
  | nested {opening closing : Token} {ts : List Token} {c : Condition}
      (hopening : opening.kind = .opening) (h : Nested ts c) (hclosing : closing.kind = .closing) :
      Primary Nested (opening :: (ts ++ [closing])) c
  | single {ts us : List Token} {field : String} {c : Condition} (h : Column ts field)
      (htest : Test field us c) : Primary Nested (ts ++ us) c

/-- `AND` binds closer than `OR`. -/
def Disjunction (Part : Spelling) : Spelling := Chain "OR" .either (Chain "AND" .both Part)

/-- A condition with parentheses nested no deeper than a number of levels. -/
def Expression : Nat → Spelling
  | 0 => Disjunction (Primary fun _ _ => False)
  | levels + 1 => Disjunction (Primary (Expression levels))

/-! ### Statements -/

/-- How deep in parentheses what follows a token is. One that closes too much does not count. -/
def deepen (depth : Nat) (t : Token) : Nat :=
  if t.kind = .opening then depth + 1 else if t.kind = .closing then depth - 1 else depth

def depthAfter (depth : Nat) (ts : List Token) : Nat := ts.foldl deepen depth

/-- What stands between `SELECT` and `FROM`: no `FROM` outside of parentheses, and no parenthesis
that is left open. -/
structure Projection (depth : Nat) (ts : List Token) : Prop where
  free : ∀ before t after, ts = before ++ t :: after → depthAfter depth before = 0 →
    t.isKeyword "FROM" = false
  closed : depthAfter depth ts = 0

/-- Any name may be an alias that does not begin what follows. -/
structure IsAlias (t : Token) : Prop where
  named : ∃ text, t.kind = .name text ∨ t.kind = .quotedName text
  notWhere : t.isKeyword "WHERE" = false
  notClause : isClause t = false

/-- An alias that may be there, with an `AS` that may be there. -/
inductive Alias : List Token → Prop where
  | none : Alias []
  | only {t : Token} (h : IsAlias t) : Alias [t]
  | bare {t : Token} (has : t.isKeyword "AS" = true) : Alias [t]
  | both {t u : Token} (has : t.isKeyword "AS" = true) (h : IsAlias u) : Alias [t, u]

/-- What may stand before a condition. -/
inductive Front : List Token → Prop where
  | none : Front []
  | select {t u v : Token} {ps cs names : List Token} {table : String}
      (hselect : t.isKeyword "SELECT" = true) (hps : Projection 0 ps)
      (hfrom : u.isKeyword "FROM" = true) (hcs : Column cs table) (hnames : Alias names)
      (hwhere : v.isKeyword "WHERE" = true) : Front (t :: (ps ++ u :: (cs ++ (names ++ [v]))))

/-- A semicolon that may stand behind. -/
inductive Ending : List Token → Prop where
  | none : Ending []
  | semicolon {t : Token} (h : t.kind = .semicolon) : Ending [t]

end Grammar

/-- A whole statement spells the condition in it. -/
inductive Statement : List Token → Condition → Prop where
  | mk {front body ending : List Token} {c : Condition} (hfront : Grammar.Front front)
      (hbody : Grammar.Expression maxNesting body c) (hending : Grammar.Ending ending) :
      Statement (front ++ (body ++ ending)) c

/-! ### Trees -/

theorem Joined.ne_nil {join : Condition → Condition → Condition} {cs : List Condition}
    {c : Condition} (h : Joined join cs c) : cs ≠ [] := by
  cases h with
  | part c => exact List.cons_ne_nil c []
  | halves h hl hr =>
    rintro rfl
    exact absurd h (by decide)

/-- Balanced trees are what `balanced` builds. -/
theorem joined_iff {join : Condition → Condition → Condition} (none : Condition)
    {cs : List Condition} {c : Condition} (hne : cs ≠ []) :
    Joined join cs c ↔ balanced join none cs = c := by
  constructor
  · intro h
    induction h with
    | part c => rw [balanced]
    | halves h hl hr ihl ihr => rw [balanced_halves join none h, ihl hl.ne_nil, ihr hr.ne_nil]
  · rintro rfl
    induction hlen : cs.length using Nat.strongRecOn generalizing cs with
    | ind n ih =>
      obtain ⟨c, rest, rfl⟩ := List.exists_cons_of_ne_nil hne
      cases rest with
      | nil =>
        rw [balanced]
        exact .part c
      | cons d rest =>
        have h : 2 ≤ (c :: d :: rest).length := Nat.le_add_left 2 rest.length
        rw [balanced_halves join none h]
        refine .halves h ?_ ?_
        · refine ih _ ?_ ?_ rfl
          · rw [List.length_take, ← hlen]
            omega
          · refine List.ne_nil_of_length_pos ?_
            rw [List.length_take]
            omega
        · refine ih _ ?_ ?_ rfl
          · rw [List.length_drop, ← hlen]
            omega
          · refine List.ne_nil_of_length_pos ?_
            rw [List.length_drop]
            omega

end Watchpost.Condition
