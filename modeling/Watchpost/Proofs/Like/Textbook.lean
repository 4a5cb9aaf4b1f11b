import Watchpost.Proofs.Like.Whole

/-! LIKE patterns by the book.

Without any of the characters that mean something in the text of a pattern, a LIKE pattern means
what it means in a textbook: a text is cut into pieces, one for each of its characters in turn
(`Cuts`). A percent sign and a low line do not take line ends (`takes_plain`). -/
namespace Watchpost

/-! ### Rows of patterns -/

namespace Pattern

/-- What patterns take one after the other. -/
def Row : List Pattern → List Char → List Char → List Char → Prop
  | [], _, s, _ => s = []
  | p :: ps, before, s, after =>
    ∃ u v, s = u ++ v ∧ p.Spans before u (v ++ after) ∧ Row ps (before ++ u) v after

theorem row_append (ps qs : List Pattern) (before s after : List Char) :
    Row (ps ++ qs) before s after ↔
      ∃ u v, s = u ++ v ∧ Row ps before u (v ++ after) ∧ Row qs (before ++ u) v after := by
  induction ps generalizing before s with
  | nil =>
    constructor
    · intro h
      refine ⟨[], s, rfl, rfl, ?_⟩
      rw [List.append_nil]
      exact h
    · rintro ⟨u, v, rfl, hu, hv⟩
      obtain rfl : u = [] := hu
      rw [List.append_nil] at hv
      exact hv
  | cons p ps ih =>
    rw [List.cons_append, Row]
    simp only [ih]
    constructor
    · rintro ⟨u, w, rfl, hp, x, y, rfl, hps, hqs⟩
      refine ⟨u ++ x, y, (List.append_assoc u x y).symm, ⟨u, x, rfl, ?_, hps⟩, ?_⟩
      · rw [List.append_assoc] at hp
        exact hp
      · rw [List.append_assoc] at hqs
        exact hqs
    · rintro ⟨w, y, rfl, ⟨u, x, rfl, hp, hps⟩, hqs⟩
      refine ⟨u, x ++ y, List.append_assoc u x y, ?_, x, y, rfl, hps, ?_⟩
      · rw [List.append_assoc]
        exact hp
      · rw [List.append_assoc]
        exact hqs

/-- **Patterns in a balanced tree take what they take in a row.** -/
theorem spans_concat_iff (ps : List Pattern) (before s after : List Char) :
    (concat ps).Spans before s after ↔ Row ps before s after := by
  induction hlength : ps.length using Nat.strongRecOn generalizing ps before s after with
  | ind n ih =>
    match ps with
    | [] =>
      rw [concat, balanced]
      constructor
      · intro h
        cases h
        rfl
      · rintro rfl
        exact .empty
    | [p] =>
      rw [concat, balanced]
      constructor
      · intro h
        refine ⟨s, [], (List.append_nil s).symm, h, rfl⟩
      · rintro ⟨u, v, rfl, hp, hv⟩
        obtain rfl : v = [] := hv
        rw [List.append_nil]
        exact hp
    | p :: q :: rest =>
      have htwo : 2 ≤ (p :: q :: rest).length := Nat.le_add_left 2 rest.length
      have hfirst := ih ((p :: q :: rest).take ((p :: q :: rest).length / 2)).length (by
        rw [List.length_take, ← hlength]
        omega)
      have hsecond := ih ((p :: q :: rest).drop ((p :: q :: rest).length / 2)).length (by
        rw [List.length_drop, ← hlength]
        omega)
      have hrow := row_append ((p :: q :: rest).take ((p :: q :: rest).length / 2))
        ((p :: q :: rest).drop ((p :: q :: rest).length / 2)) before s after
      rw [List.take_append_drop] at hrow
      rw [hrow, concat, balanced_halves .seq .empty htwo, spans_seq_iff]
      refine exists_congr fun u => exists_congr fun v => and_congr_right fun _ => ?_
      exact and_congr (hfirst _ _ _ _ rfl) (hsecond _ _ _ _ rfl)

end Pattern

namespace Like

open Pattern (skip Reading)

/-! ### The textbook -/

/-- The characters that mean something in the text of a pattern. -/
def metacharacters : List Char :=
  ['\\', '.', '+', '*', '?', '(', ')', '[', ']', '{', '}', '|', '^', '$']

/-- A character that ends a line. -/
def EndsLine (c : Char) : Prop := c = '\r' ∨ c = '\n'

/-- A text cut into pieces that the characters of a LIKE pattern take in order. -/
inductive Cuts : List Char → List Char → Prop where
  | done : Cuts [] []
  /-- A percent sign takes any run of characters. -/
  | run {cs piece text : List Char} (hpiece : ∀ c ∈ piece, ¬EndsLine c) (h : Cuts cs text) :
      Cuts ('%' :: cs) (piece ++ text)
  /-- A low line takes one character. -/
  | any {cs text : List Char} {c : Char} (hc : ¬EndsLine c) (h : Cuts cs text) :
      Cuts ('_' :: cs) (c :: text)
  /-- Every other character takes itself. -/
  | same {cs text : List Char} {c : Char} (hrun : c ≠ '%') (hany : c ≠ '_') (h : Cuts cs text) :
      Cuts (c :: cs) (c :: text)

/-- The piece that one character takes. -/
def Taken (c : Char) (piece : List Char) : Prop :=
  if c = '%' then ∀ d ∈ piece, ¬EndsLine d
  else if c = '_' then ∃ d, piece = [d] ∧ ¬EndsLine d
  else piece = [c]

theorem cuts_cons_iff {c : Char} {cs text : List Char} :
    Cuts (c :: cs) text ↔ ∃ u v, text = u ++ v ∧ Taken c u ∧ Cuts cs v := by
  constructor
  · intro h
    cases h with
    | run hpiece h => exact ⟨_, _, rfl, hpiece, h⟩
    | any hc h => exact ⟨[_], _, rfl, ⟨_, rfl, hc⟩, h⟩
    | same hrun hany h =>
      refine ⟨[c], _, rfl, ?_, h⟩
      rw [Taken, if_neg hrun, if_neg hany]
  · rintro ⟨u, v, rfl, hu, hv⟩
    unfold Taken at hu
    split at hu
    · next hrun =>
      subst hrun
      exact .run hu hv
    · next hrun =>
      split at hu
      · next hany =>
        subst hany
        obtain ⟨d, rfl, hd⟩ := hu
        exact .any hd hv
      · next hany =>
        subst hu
        exact .same hrun hany hv

/-! ### What the pieces take -/

/-- A pattern that takes the pieces that a character takes, wherever they stand. -/
def Takes (c : Char) (p : Pattern) : Prop :=
  ∀ before s after, p.Spans before s after ↔ Taken c s

theorem spans_one_iff {test : Char → Bool} {before s after : List Char} :
    (Pattern.one test).Spans before s after ↔ ∃ c, s = [c] ∧ test c = true := by
  constructor
  · intro h
    cases h with
    | one h => exact ⟨_, rfl, h⟩
  · rintro ⟨c, rfl, h⟩
    exact .one h

theorem spans_star_one_iff {test : Char → Bool} {before s after : List Char} :
    (Pattern.star (.one test)).Spans before s after ↔ ∀ c ∈ s, test c = true := by
  induction s generalizing before with
  | nil =>
    refine ⟨fun _ c hc => ?_, fun _ => .done⟩
    cases hc
  | cons c s ih =>
    rw [Pattern.spans_star_cons, List.forall_mem_cons]
    constructor
    · rintro ⟨u, v, rfl, hfirst, hrest⟩
      obtain ⟨d, hd, htest⟩ := spans_one_iff.1 hfirst
      cases hd
      exact ⟨htest, ih.1 hrest⟩
    · rintro ⟨hc, hs⟩
      exact ⟨[], s, rfl, .one hc, ih.2 hs⟩

/-- The characters that a dot takes. -/
def dotTest (c : Char) : Bool := !(['\n', '\r'].contains c)

theorem dotTest_iff (c : Char) : dotTest c = true ↔ ¬EndsLine c := by
  rw [dotTest, EndsLine]
  simp [or_comm]

theorem takes_percent : Takes '%' (.seq .empty (.star (.one dotTest))) := by
  intro before s after
  rw [Pattern.spans_seq_iff, Taken, if_pos rfl]
  simp only [← dotTest_iff]
  constructor
  · rintro ⟨u, v, rfl, hu, hv⟩
    cases hu
    exact spans_star_one_iff.1 hv
  · intro h
    exact ⟨[], s, rfl, .empty, spans_star_one_iff.2 h⟩

theorem takes_low : Takes '_' (.one dotTest) := by
  intro before s after
  rw [spans_one_iff, Taken, if_neg (by decide), if_pos rfl]
  simp only [dotTest_iff]

theorem takes_other {c : Char} (hrun : c ≠ '%') (hany : c ≠ '_') :
    Takes c (.one fun d => [c].contains d) := by
  intro before s after
  rw [spans_one_iff, Taken, if_neg hrun, if_neg hany]
  simp

/-! ### Reading without metacharacters -/

section
variable {r : Reading} (hflags : r.flags = bodyFlags)
include hflags

theorem run?_step {n : Nat} {c : Char} {cs rest : List Char} {s : Reading}
    (h : r.step? (c :: cs) = some (s, rest)) : Reading.run? (n + 1) r (c :: cs) = Reading.run? n s rest := by
  have hskip : skip r.flags (c :: cs) = c :: cs := by
    rw [hflags]
    rfl
  rw [Reading.run?, hskip]
  dsimp only
  rw [h]
  rfl

theorem step?_dot (rest : List Char) : ∃ p : Pattern.Piece, p.pattern = .one dotTest ∧
    p.repeatable = true ∧ r.step? ('.' :: rest) = some (r.add p, rest) := by
  obtain ⟨flags, branches, items, outer, groups, names⟩ := r
  cases hflags
  exact ⟨_, rfl, rfl, rfl⟩

theorem step?_other {c : Char} (hc : c ∉ metacharacters) (rest : List Char) :
    ∃ p : Pattern.Piece, (p.pattern = .one fun d => [c].contains d) ∧
      r.step? (c :: rest) = some (r.add p, rest) := by
  have hstep : r.step? (c :: rest) = some (r.add (Pattern.Piece.ofChar r.flags c), rest) := by
    unfold Reading.step?
    dsimp only
    split
    all_goals first | exact absurd (by decide) hc | rfl
  refine ⟨_, ?_, hstep⟩
  rw [hflags]
  rfl

end

theorem step?_star {r : Reading} {p : Pattern.Piece} {test : Char → Bool}
    (hp : p.pattern = .one test) (hrepeatable : p.repeatable = true) {rest : List Char}
    (hrest : ∀ text, rest ≠ '?' :: text) : ∃ q : Pattern.Piece,
      q.pattern = .seq .empty (.star (.one test)) ∧
        (r.add p).step? ('*' :: rest) = some (r.add q, rest) := by
  have hmark := Pattern.readLazyMark_plain hrest
  have hstep : (r.add p).step? ('*' :: rest) = (r.add p).repeatLast? 0 none rest := rfl
  have htimes : (Pattern.one test).times 0 = .empty := by rw [Pattern.times]
  have hrepeated : p.repeated? 0 none (false != r.flags.lazy) =
      some ⟨.seq ((Pattern.one test).times 0) (.star (.one test)), p.height + 1,
        p.plan.repeatedly 0 none (false != r.flags.lazy), true⟩ := by
    unfold Pattern.Piece.repeated?
    rw [hp, hrepeatable]
    rfl
  refine ⟨⟨.seq ((Pattern.one test).times 0) (.star (.one test)), p.height + 1,
    p.plan.repeatedly 0 none (false != r.flags.lazy), true⟩, by rw [htimes], ?_⟩
  rw [hstep]
  unfold Reading.repeatLast?
  dsimp only [Reading.add]
  rw [hmark, hrepeated]
  rfl

/-- What is left of a plain text does not begin with the mark of a repetition. -/
theorem expanded_head {cs : List Char} (hplain : ∀ c ∈ cs, c ∉ metacharacters) (text : List Char) :
    cs.flatMap expand ≠ '?' :: text := by
  intro heq
  cases cs with
  | nil => cases heq
  | cons c cs =>
    rw [List.flatMap_cons, expand] at heq
    split at heq
    · cases heq
    · split at heq
      · cases heq
      · cases heq
        exact hplain '?' List.mem_cons_self (by decide)

/-- **Without metacharacters, the pieces that are read cut a text as the characters do.** -/
theorem run?_plain {cs : List Char} (hplain : ∀ c ∈ cs, c ∉ metacharacters) {r : Reading}
    (hflags : r.flags = bodyFlags) : ∃ (n : Nat) (pieces : List Pattern.Piece),
      Reading.run? n r (cs.flatMap expand) = some { r with items := pieces.reverse ++ r.items } ∧
        ∀ before s after, Pattern.Row (pieces.map (·.pattern)) before s after ↔ Cuts cs s := by
  induction cs generalizing r with
  | nil =>
    refine ⟨1, [], ?_, fun before s after => ⟨?_, ?_⟩⟩
    · have hskip : skip r.flags [] = [] := Pattern.Bracket.skip_nil _
      rw [List.flatMap_nil, Reading.run?, hskip]
      rfl
    · rintro rfl
      exact .done
    · intro h
      cases h
      rfl
  | cons c cs ih =>
    obtain ⟨hc, hcs⟩ := List.forall_mem_cons.1 hplain
    have hread {q : Pattern.Piece} {k : Nat} (hq : Takes c q.pattern)
        (hsteps : ∀ n, Reading.run? (n + k) r ((c :: cs).flatMap expand) =
          Reading.run? n (r.add q) (cs.flatMap expand)) :
        ∃ (n : Nat) (pieces : List Pattern.Piece),
          Reading.run? n r ((c :: cs).flatMap expand) =
            some { r with items := pieces.reverse ++ r.items } ∧
          ∀ before s after, Pattern.Row (pieces.map (·.pattern)) before s after ↔ Cuts (c :: cs) s := by
      obtain ⟨n, pieces, hrun, hrow⟩ := ih hcs (r := r.add q) hflags
      refine ⟨n + k, q :: pieces, ?_, fun before s after => ?_⟩
      · rw [hsteps, hrun, List.reverse_cons, List.append_assoc]
        rfl
      · rw [cuts_cons_iff, List.map_cons, Pattern.Row]
        simp only [hq _ _ _, hrow]
    by_cases hrun : c = '%'
    · subst hrun
      obtain ⟨p, hp, hrepeatable, hdot⟩ := step?_dot hflags ('*' :: cs.flatMap expand)
      obtain ⟨q, hq, hstar⟩ := step?_star (r := r) hp hrepeatable (expanded_head hcs)
      refine hread (q := q) (k := 2) (hq ▸ takes_percent) fun n => ?_
      have hflags' : (r.add p).flags = bodyFlags := hflags
      exact (run?_step hflags hdot).trans (run?_step hflags' hstar)
    by_cases hany : c = '_'
    · subst hany
      obtain ⟨p, hp, -, hdot⟩ := step?_dot hflags (cs.flatMap expand)
      exact hread (q := p) (k := 1) (hp ▸ takes_low) fun n => run?_step hflags hdot
    · obtain ⟨p, hp, hstep⟩ := step?_other hflags hc (cs.flatMap expand)
      refine hread (q := p) (k := 1) (hp ▸ takes_other hrun hany) fun n => ?_
      have hexpand : (c :: cs).flatMap expand = c :: cs.flatMap expand := by
        rw [List.flatMap_cons, expand, if_neg hrun, if_neg hany]
        rfl
      rw [hexpand]
      exact run?_step hflags hstep

/-- **Without metacharacters, a LIKE pattern takes the texts that are cut by the book.** -/
theorem takes_plain (l : Like) (h : ∀ c ∈ l.source.toList, c ∉ metacharacters) (text : String) :
    l.takes text = true ↔ Cuts l.source.toList text.toList := by
  obtain ⟨n, pieces, hrun, hrow⟩ := run?_plain h (r := { flags := bodyFlags }) rfl
  have hpattern : l.pattern = Pattern.anchored (Pattern.concat (pieces.map (·.pattern))) := by
    rw [pattern_eq l hrun rfl]
    change Pattern.anchored (Pattern.concat
      ((pieces.reverse ++ []).reverse.map fun p : Pattern.Piece => p.pattern)) = _
    rw [List.append_nil, List.reverse_reverse]
  rw [takes, Pattern.occursIn_iff, hpattern, Pattern.occurs_anchored, Pattern.spans_concat_iff, hrow]

/-- Both wildcards: the run of the percent sign may be empty, and ends before a line does. -/
theorem takes_plain_wildcards : ∃ l : Like, l.source = "a%_c" ∧
    (∀ c ∈ l.source.toList, c ∉ metacharacters) ∧ Cuts l.source.toList "abc".toList ∧
    ¬Cuts l.source.toList "ab\nbc".toList := by
  have hread : (Like.read? "a%_c").map (fun l => (l.source, l.takes "abc", l.takes "ab\nbc")) =
      some ("a%_c", true, false) := by decide +kernel
  obtain ⟨l, -, hl⟩ := Option.map_eq_some_iff.1 hread
  obtain ⟨hsource, htakes⟩ := Prod.mk.inj hl
  obtain ⟨htaken, hnot⟩ := Prod.mk.inj htakes
  have hplain : ∀ c ∈ l.source.toList, c ∉ metacharacters := by
    rw [hsource]
    simp [metacharacters]
  refine ⟨l, hsource, hplain, (takes_plain l hplain "abc").1 htaken, fun h => ?_⟩
  rw [(takes_plain l hplain "ab\nbc").2 h] at hnot
  cases hnot

end Like
end Watchpost
