import Watchpost.Pattern.Marked

/-! Marks find what patterns mean.

A marked pattern stands for the ways of going on from its marks (`Marked.Rest`). Reading a
character moves the marks along exactly these ways (`rest_read`), so the search finds a pattern in
a text if and only if some piece of the text is taken (`occursIn_iff`). -/
namespace Watchpost

/-- The gap between two pieces of text. -/
def gapOf (before after : List Char) : Gap := ⟨before.getLast?, after.head?⟩

namespace Pattern

/-! ### What patterns take -/

section
variable {p q : Pattern} {before s after : List Char} {c : Char}

theorem spans_seq_iff : (seq p q).Spans before s after ↔ ∃ u v, s = u ++ v ∧
    p.Spans before u (v ++ after) ∧ q.Spans (before ++ u) v after := by
  constructor
  · intro h
    cases h with
    | seq hp hq => exact ⟨_, _, rfl, hp, hq⟩
  · rintro ⟨u, v, rfl, hp, hq⟩
    exact .seq hp hq

theorem spans_alt_iff :
    (alt p q).Spans before s after ↔ p.Spans before s after ∨ q.Spans before s after := by
  constructor
  · intro h
    cases h with
    | left h => exact .inl h
    | right h => exact .inr h
  · rintro (h | h)
    · exact .left h
    · exact .right h

/-- What a repetition takes begins with something that the repeated pattern takes: repeats of
nothing can be left out. -/
theorem spans_star_cons : (star p).Spans before (c :: s) after ↔ ∃ u v, s = u ++ v ∧
    p.Spans before (c :: u) (v ++ after) ∧ (star p).Spans (before ++ c :: u) v after := by
  constructor
  · intro h
    generalize hstar : star p = r at h
    generalize htext : c :: s = text at h
    induction h with
    | @more q before u v after hfirst hrest ihfirst ihrest =>
      cases hstar
      cases u with
      | nil =>
        rw [List.append_nil] at ihrest
        exact ihrest rfl htext
      | cons d u =>
        cases htext
        exact ⟨u, v, rfl, hfirst, hrest⟩
    | done => cases htext
    | empty => cases hstar
    | one => cases hstar
    | look => cases hstar
    | seq => cases hstar
    | left => cases hstar
    | right => cases hstar
  · rintro ⟨u, v, rfl, hfirst, hrest⟩
    rw [← List.cons_append]
    exact .more hfirst hrest

/-- A pattern is passed where it takes nothing. -/
theorem passes_iff (p : Pattern) (before after : List Char) :
    p.passes (gapOf before after) = true ↔ p.Spans before [] after := by
  induction p with
  | empty => exact ⟨fun _ => .empty, fun _ => rfl⟩
  | one test =>
    constructor
    · intro h
      cases h
    · intro h
      generalize hnil : [] = s at h
      cases h
      cases hnil
  | look l =>
    constructor
    · exact fun h => .look h
    · intro h
      cases h with
      | look h => exact h
  | seq p q ihp ihq =>
    rw [passes, Bool.and_eq_true, ihp, ihq, spans_seq_iff]
    constructor
    · rintro ⟨hp, hq⟩
      refine ⟨[], [], rfl, hp, ?_⟩
      rw [List.append_nil]
      exact hq
    · rintro ⟨u, v, huv, hp, hq⟩
      obtain ⟨rfl, rfl⟩ := List.append_eq_nil_iff.1 huv.symm
      rw [List.append_nil] at hq
      exact ⟨hp, hq⟩
  | alt p q ihp ihq => rw [passes, Bool.or_eq_true, ihp, ihq, spans_alt_iff]
  | star p => exact ⟨fun _ => .done, fun _ => rfl⟩

end

end Pattern

namespace Marked

/-! ### What marks stand for -/

/-- The pattern without its marks. -/
def bare : Marked → Pattern
  | .fresh p => p
  | .passed test => .one test
  | .seq m n => .seq m.bare n.bare
  | .alt m n => .alt m.bare n.bare
  | .star m => .star m.bare

/-- From some mark, a piece of text leads to the end of the pattern. -/
def Rest : Marked → List Char → List Char → List Char → Prop
  | .fresh _, _, _, _ => False
  | .passed _, _, s, _ => s = []
  | .seq m n, before, s, after =>
    (∃ u v, s = u ++ v ∧ m.Rest before u (v ++ after) ∧ n.bare.Spans (before ++ u) v after) ∨
      n.Rest before s after
  | .alt m n, before, s, after => m.Rest before s after ∨ n.Rest before s after
  | .star m, before, s, after =>
    ∃ u v, s = u ++ v ∧ m.Rest before u (v ++ after) ∧ (Pattern.star m.bare).Spans (before ++ u) v after

@[simp] theorem bare_both (m n : Marked) : (both m n).bare = .seq m.bare n.bare := by
  cases m <;> cases n <;> rfl

@[simp] theorem bare_either (m n : Marked) : (either m n).bare = .alt m.bare n.bare := by
  cases m <;> cases n <;> rfl

@[simp] theorem bare_again (m : Marked) : (again m).bare = .star m.bare := by
  cases m <;> rfl

section
variable {m n : Marked} {before s after : List Char} {c : Char}

theorem rest_both : (both m n).Rest before s after ↔ (Marked.seq m n).Rest before s after := by
  cases m with
  | fresh p =>
    cases n with
    | fresh q => simp only [both, Rest, false_and, and_false, exists_false, or_false]
    | _ => rfl
  | _ => rfl

theorem rest_either : (either m n).Rest before s after ↔ (Marked.alt m n).Rest before s after := by
  cases m with
  | fresh p =>
    cases n with
    | fresh q => simp only [either, Rest, or_false]
    | _ => rfl
  | _ => rfl

theorem rest_again : (again m).Rest before s after ↔ (Marked.star m).Rest before s after := by
  cases m with
  | fresh p => simp only [again, Rest, false_and, and_false, exists_false]
  | _ => rfl

theorem passes_bare (m : Marked) (gap : Gap) : m.passes gap = m.bare.passes gap := by
  induction m with
  | fresh p => rfl
  | passed test => rfl
  | seq m n ihm ihn => rw [passes, bare, Pattern.passes, ihm, ihn]
  | alt m n ihm ihn => rw [passes, bare, Pattern.passes, ihm, ihn]
  | star m ih => rfl

theorem passes_iff (m : Marked) (before after : List Char) :
    m.passes (gapOf before after) = true ↔ m.bare.Spans before [] after := by
  rw [passes_bare, Pattern.passes_iff]

/-- The end is reached where nothing more has to be read. -/
theorem ends_iff (m : Marked) (before after : List Char) :
    m.ends (gapOf before after) = true ↔ m.Rest before [] after := by
  induction m with
  | fresh p =>
    refine ⟨fun h => ?_, False.elim⟩
    cases h
  | passed test => exact ⟨fun _ => rfl, fun _ => rfl⟩
  | seq m n ihm ihn =>
    rw [ends, Bool.or_eq_true, Bool.and_eq_true, ihm, ihn, passes_iff, Rest]
    refine or_congr_left ⟨?_, ?_⟩
    · rintro ⟨hm, hn⟩
      refine ⟨[], [], rfl, hm, ?_⟩
      rw [List.append_nil]
      exact hn
    · rintro ⟨u, v, huv, hm, hn⟩
      obtain ⟨rfl, rfl⟩ := List.append_eq_nil_iff.1 huv.symm
      rw [List.append_nil] at hn
      exact ⟨hm, hn⟩
  | alt m n ihm ihn => rw [ends, Bool.or_eq_true, ihm, ihn, Rest]
  | star m ih =>
    rw [ends, ih, Rest]
    constructor
    · exact fun hm => ⟨[], [], rfl, hm, .done⟩
    · rintro ⟨u, v, huv, hm, -⟩
      obtain ⟨rfl, rfl⟩ := List.append_eq_nil_iff.1 huv.symm
      exact hm

end

/-! ### Reading a character -/

@[simp] theorem bare_first (gap : Gap) (c : Char) (p : Pattern) : (first gap c p).bare = p := by
  induction p with
  | one test => rw [first]; split <;> rfl
  | seq p q ihp ihq =>
    rw [first, bare_both, ihp]
    split
    · rw [ihq]
    · rfl
  | alt p q ihp ihq => rw [first, bare_either, ihp, ihq]
  | star p ih => rw [first, bare_again, ih]
  | empty => rfl
  | look l => rfl

@[simp] theorem bare_read (gap : Gap) (c : Char) (enter : Bool) (m : Marked) :
    (m.read gap c enter).bare = m.bare := by
  induction m generalizing enter with
  | fresh p =>
    rw [read]
    split
    · exact bare_first gap c p
    · rfl
  | passed test => rw [read]; split <;> rfl
  | seq m n ihm ihn => rw [read, bare_both, ihm, ihn, bare]
  | alt m n ihm ihn => rw [read, bare_either, ihm, ihn, bare]
  | star m ih => rw [read, bare_again, ih, bare]

/-- A text that is not empty, in two pieces: the first one may be empty or not. -/
theorem cons_split {P : List Char → List Char → Prop} {c : Char} {s : List Char} :
    (∃ u v, c :: s = u ++ v ∧ P u v) ↔ P [] (c :: s) ∨ ∃ u v, s = u ++ v ∧ P (c :: u) v := by
  constructor
  · rintro ⟨u, v, huv, h⟩
    cases u with
    | nil =>
      cases huv
      exact .inl h
    | cons d u =>
      cases huv
      exact .inr ⟨u, v, rfl, h⟩
  · rintro (h | ⟨u, v, rfl, h⟩)
    · exact ⟨[], _, rfl, h⟩
    · exact ⟨c :: u, v, rfl, h⟩

/-- The gap in front of a character. -/
def gapBefore (before : List Char) (c : Char) : Gap := ⟨before.getLast?, some c⟩

/-- **After the first character, the marks stand for what is still to be taken.** -/
theorem rest_first (p : Pattern) (before : List Char) (c : Char) (s after : List Char) :
    (first (gapBefore before c) c p).Rest (before ++ [c]) s after ↔ p.Spans before (c :: s) after := by
  induction p generalizing s after with
  | empty => exact ⟨False.elim, fun h => by cases h⟩
  | look l => exact ⟨False.elim, fun h => by cases h⟩
  | one test =>
    rw [first]
    split
    · next htest =>
      constructor
      · rintro rfl
        exact .one htest
      · intro h
        cases h
        rfl
    · next htest =>
      refine ⟨False.elim, fun h => ?_⟩
      cases h with
      | one h => exact htest h
  | seq p q ihp ihq =>
    have hpass : p.passes (gapBefore before c) = true ↔ p.Spans before [] (c :: s ++ after) :=
      p.passes_iff before (c :: s ++ after)
    rw [first, rest_both, Rest, Pattern.spans_seq_iff, cons_split, or_comm]
    refine or_congr ?_ (exists_congr fun u => exists_congr fun v => and_congr_right fun _ => ?_)
    · -- Nothing is taken by the first part.
      rw [List.append_nil, ← hpass]
      cases hpasses : p.passes (gapBefore before c) with
      | true =>
        rw [if_pos rfl, ihq]
        exact (and_iff_right rfl).symm
      | false =>
        refine ⟨False.elim, fun h => ?_⟩
        cases h.1
    · have hbare : (if p.passes (gapBefore before c) then first (gapBefore before c) c q
          else .fresh q).bare = q := by
        split
        · exact bare_first _ c q
        · rfl
      rw [ihp, hbare, List.append_assoc, List.singleton_append]
  | alt p q ihp ihq => rw [first, rest_either, Rest, ihp, ihq, Pattern.spans_alt_iff]
  | star p ih =>
    rw [first, rest_again, Rest, Pattern.spans_star_cons]
    refine exists_congr fun u => exists_congr fun v => and_congr_right fun _ => ?_
    rw [ih, bare_first, List.append_assoc, List.singleton_append]

/-- **A character moves the marks along all ways of going on**, and with `enter` it may begin
the pattern, too. -/
theorem rest_read (m : Marked) (before : List Char) (c : Char) (enter : Bool)
    (s after : List Char) :
    (m.read (gapBefore before c) c enter).Rest (before ++ [c]) s after ↔
      m.Rest before (c :: s) after ∨ (enter = true ∧ m.bare.Spans before (c :: s) after) := by
  induction m generalizing enter s after with
  | fresh p =>
    rw [read, bare]
    cases enter with
    | true =>
      rw [if_pos rfl, rest_first]
      exact ⟨fun h => .inr ⟨rfl, h⟩, fun h => (h.resolve_left False.elim).2⟩
    | false =>
      refine ⟨False.elim, ?_⟩
      rintro (h | ⟨h, -⟩)
      · exact h
      · cases h
  | passed test =>
    rw [read, bare]
    split
    · next h =>
      rw [Bool.and_eq_true] at h
      constructor
      · rintro rfl
        exact .inr ⟨h.1, .one h.2⟩
      · rintro (hs | ⟨-, hs⟩)
        · cases hs
        · cases hs
          rfl
    · next h =>
      rw [Bool.and_eq_true] at h
      refine ⟨False.elim, ?_⟩
      rintro (hs | ⟨henter, hs⟩)
      · cases hs
      · cases hs with
        | one htest => exact h ⟨henter, htest⟩
  | seq m n ihm ihn =>
    have hpass : m.passes (gapBefore before c) = true ↔ m.bare.Spans before [] (c :: s ++ after) :=
      m.passes_iff before (c :: s ++ after)
    have hends : m.ends (gapBefore before c) = true ↔ m.Rest before [] (c :: s ++ after) :=
      m.ends_iff before (c :: s ++ after)
    -- The first part has taken the character, from a mark of its own or from its front.
    have hfirst : (∃ u v, s = u ++ v ∧
        (m.read (gapBefore before c) c enter).Rest (before ++ [c]) u (v ++ after) ∧
          n.bare.Spans (before ++ [c] ++ u) v after) ↔
        (∃ u v, s = u ++ v ∧ m.Rest before (c :: u) (v ++ after) ∧
          n.bare.Spans (before ++ c :: u) v after) ∨
        (enter = true ∧ ∃ u v, s = u ++ v ∧ m.bare.Spans before (c :: u) (v ++ after) ∧
          n.bare.Spans (before ++ c :: u) v after) := by
      simp only [ihm, List.append_assoc, List.singleton_append]
      grind
    rw [read, rest_both, Rest, bare_read, hfirst, ihn, Rest, bare, Pattern.spans_seq_iff,
      cons_split, cons_split, List.append_nil, ← hpass, ← hends, Bool.or_eq_true, Bool.and_eq_true]
    grind
  | alt m n ihm ihn =>
    rw [read, rest_either, Rest, ihm, ihn, Rest, bare, Pattern.spans_alt_iff, and_or_left]
    exact or_or_or_comm
  | star m ih =>
    have hends : m.ends (gapBefore before c) = true ↔ m.Rest before [] (c :: s ++ after) :=
      m.ends_iff before (c :: s ++ after)
    rw [read, rest_again, Rest, bare_read, Rest, bare, cons_split, List.append_nil, ← hends,
      Pattern.spans_star_cons]
    simp only [ih, List.append_assoc, List.singleton_append, Bool.or_eq_true]
    grind

/-! ### Searching -/

/-- **The search goes on with what the marks stand for, or with a piece of the text that is still
to come.** -/
theorem findFrom_iff (m : Marked) (before text : List Char) :
    m.findFrom before.getLast? text = true ↔
      (∃ s after, text = s ++ after ∧ m.Rest before s after) ∨
        ∃ between s after, text = between ++ s ++ after ∧ m.bare.Spans (before ++ between) s after := by
  induction text generalizing m before with
  | nil =>
    have hpass : m.passes ⟨before.getLast?, none⟩ = true ↔ m.bare.Spans before [] [] :=
      m.passes_iff before []
    have hends : m.ends ⟨before.getLast?, none⟩ = true ↔ m.Rest before [] [] := m.ends_iff before []
    rw [findFrom, Bool.or_eq_true, hpass, hends, or_comm]
    refine or_congr ⟨fun h => ⟨[], [], rfl, h⟩, ?_⟩ ⟨fun h => ⟨[], [], [], rfl, ?_⟩, ?_⟩
    · rintro ⟨s, after, hs, h⟩
      obtain ⟨rfl, rfl⟩ := List.append_eq_nil_iff.1 hs.symm
      exact h
    · rw [List.append_nil]
      exact h
    · rintro ⟨between, s, after, hs, h⟩
      obtain ⟨hbetween, rfl⟩ := List.append_eq_nil_iff.1 hs.symm
      obtain ⟨rfl, rfl⟩ := List.append_eq_nil_iff.1 hbetween
      rw [List.append_nil] at h
      exact h
  | cons c text ih =>
    have hstep : m.findFrom before.getLast? (c :: text) =
        (m.passes (gapBefore before c) || m.ends (gapBefore before c) ||
          (m.read (gapBefore before c) c true).findFrom (some c) text) := rfl
    have hpass : m.passes (gapBefore before c) = true ↔ m.bare.Spans before [] (c :: text) :=
      m.passes_iff before (c :: text)
    have hends : m.ends (gapBefore before c) = true ↔ m.Rest before [] (c :: text) :=
      m.ends_iff before (c :: text)
    have hnext := ih (m.read (gapBefore before c) c true) (before ++ [c])
    rw [List.getLast?_concat, bare_read] at hnext
    rw [hstep, Bool.or_eq_true, Bool.or_eq_true, hpass, hends, hnext]
    simp only [rest_read, true_and]
    constructor
    · rintro ((h | h) | ⟨s, after, rfl, h | h⟩ | ⟨between, s, after, rfl, h⟩)
      · refine .inr ⟨[], [], _, rfl, ?_⟩
        rw [List.append_nil]
        exact h
      · exact .inl ⟨[], _, rfl, h⟩
      · exact .inl ⟨c :: s, after, rfl, h⟩
      · refine .inr ⟨[], c :: s, after, rfl, ?_⟩
        rw [List.append_nil]
        exact h
      · refine .inr ⟨c :: between, s, after, rfl, ?_⟩
        rw [List.append_assoc] at h
        exact h
    · rintro (⟨s, after, hs, h⟩ | ⟨between, s, after, hs, h⟩)
      · cases s with
        | nil =>
          rw [List.nil_append] at hs
          exact .inl (.inr (hs ▸ h))
        | cons d s =>
          cases hs
          exact .inr (.inl ⟨s, after, rfl, .inl h⟩)
      · cases between with
        | nil =>
          rw [List.append_nil] at h
          cases s with
          | nil =>
            rw [List.nil_append, List.nil_append] at hs
            exact .inl (.inl (hs ▸ h))
          | cons d s =>
            cases hs
            exact .inr (.inl ⟨s, after, rfl, .inr h⟩)
        | cons d between =>
          cases hs
          refine .inr (.inr ⟨between, s, after, rfl, ?_⟩)
          rw [List.append_assoc]
          exact h

end Marked

/-- **The search finds a pattern in a text if and only if the pattern takes some piece of it.** -/
theorem Pattern.occursIn_iff (p : Pattern) (text : List Char) :
    p.occursIn text = true ↔ p.Occurs text := by
  have hfind := (Marked.fresh p).findFrom_iff [] text
  rw [List.getLast?_nil] at hfind
  rw [occursIn, hfind]
  constructor
  · rintro (⟨s, after, -, h⟩ | ⟨before, s, after, rfl, h⟩)
    · exact h.elim
    · exact ⟨before, s, after, rfl, h⟩
  · rintro ⟨before, s, after, rfl, h⟩
    exact .inr ⟨before, s, after, rfl, h⟩

end Watchpost
