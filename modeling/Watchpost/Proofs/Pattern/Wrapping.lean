import Watchpost.Proofs.Pattern.Brackets
import Watchpost.Proofs.Pattern.Matching

/-! A text as the body of a group.

A text that is read by itself is read in the same way as the body of a group, if the group is
closed behind it (`Reading.run?_inside`). The group between the two ends of a text takes all of
it, or nothing (`occurs_anchored`). -/
namespace Watchpost.Pattern

/-- The pattern that a text spells by itself under some flags. -/
def readUnder? (flags : Flags) (text : List Char) : Option Pattern :=
  (Reading.run? (text.length + 1) { flags } text).bind Reading.finish?

namespace Reading

/-! ### One more group around -/

/-- A reading with one more group around all others. -/
def inside (layer : Layer) (r : Reading) : Reading := { r with outer := r.outer ++ [layer] }

variable {layer : Layer} {r r' : Reading}

theorem enter?_inside {opening : Opening} (h : r.enter? opening = some r') :
    (r.inside layer).enter? opening = some (r'.inside layer) := by
  cases opening with
  | set flags =>
    cases h
    rfl
  | group flags =>
    cases h
    rfl
  | noted name =>
    unfold enter? at h ⊢
    dsimp only at h ⊢
    split at h
    · cases h
    · next hnew =>
      cases h
      exact if_neg hnew

theorem leave?_inside (h : r.leave? = some r') :
    (r.inside layer).leave? = some (r'.inside layer) := by
  obtain ⟨flags, branches, items, outer, groups, names⟩ := r
  cases outer with
  | nil => cases h
  | cons l outer =>
    cases h
    rfl

theorem repeatLast?_inside {least : Nat} {most : Option Nat} {cs more rest : List Char}
    (hleft : Left cs more) (h : r.repeatLast? least most cs = some (r', rest)) :
    ∃ left, (r.inside layer).repeatLast? least most more = some (r'.inside layer, left) ∧
      Left rest left := by
  obtain ⟨hmark, hrest⟩ := readLazyMark_left hleft
  obtain ⟨flags, branches, items, outer, groups, names⟩ := r
  cases items with
  | nil => cases h
  | cons p items =>
    obtain ⟨q, hq, heq⟩ := Option.map_eq_some_iff.1 h
    cases heq
    have hq' : p.repeated? least most ((readLazyMark cs).1 != flags.lazy) = some q := hq
    refine ⟨(readLazyMark more).2, ?_, hrest⟩
    change Option.map _ (p.repeated? least most ((readLazyMark more).1 != flags.lazy)) = _
    rw [hmark, hq']
    rfl

/-! ### Steps -/

/-- **An item is read in the same way inside of one more group.** -/
theorem step?_inside {cs more rest : List Char} (hleft : Left cs more)
    (h : r.step? cs = some (r', rest)) :
    ∃ left, (r.inside layer).step? more = some (r'.inside layer, left) ∧ Left rest left := by
  cases cs with
  | nil => cases h
  | cons c text =>
    have htext := left_append text
    rw [hleft.cons_of]
    unfold step? at h ⊢
    dsimp only at h ⊢
    split at h
    · obtain ⟨⟨opening, after⟩, hopening, h⟩ := Option.bind_eq_some_iff.1 h
      obtain ⟨s, hs, heq⟩ := Option.map_eq_some_iff.1 h
      cases heq
      obtain ⟨left, hopening', hrest⟩ := framed_readOpening r.flags htext hopening
      refine ⟨left, ?_, hrest⟩
      change (readOpening? r.flags (text ++ closing)).bind _ = _
      rw [hopening', Option.bind_some, enter?_inside hs]
      rfl
    · obtain ⟨s, hs, heq⟩ := Option.map_eq_some_iff.1 h
      cases heq
      exact ⟨_, by rw [leave?_inside hs]; rfl, htext⟩
    · cases h
      exact ⟨_, rfl, htext⟩
    · obtain ⟨⟨item, after⟩, hitem, heq⟩ := Option.map_eq_some_iff.1 h
      cases heq
      obtain ⟨left, hitem', hrest⟩ := Bracket.framed_read r.flags htext hitem
      refine ⟨left, ?_, hrest⟩
      change (Bracket.read? r.flags (text ++ closing)).map _ = _
      rw [hitem']
      rfl
    · exact repeatLast?_inside htext h
    · exact repeatLast?_inside htext h
    · exact repeatLast?_inside htext h
    · obtain ⟨⟨⟨least, most⟩, after⟩, hbounds, h⟩ := Option.bind_eq_some_iff.1 h
      obtain ⟨left, hbounds', hrest⟩ := framed_readBounds r.flags htext hbounds
      obtain ⟨left', hrepeat, hrest'⟩ := repeatLast?_inside (hrest.skip r.flags) h
      refine ⟨left', ?_, hrest'⟩
      change (readBounds? r.flags (text ++ closing)).bind _ = _
      rw [hbounds']
      exact hrepeat
    · obtain ⟨⟨escape, after⟩, hescape, h⟩ := Option.bind_eq_some_iff.1 h
      obtain ⟨p, hp, heq⟩ := Option.map_eq_some_iff.1 h
      cases heq
      obtain ⟨left, hescape', hrest⟩ := Escape.framed_read r.flags htext hescape
      refine ⟨left, ?_, hrest⟩
      change (Escape.read? r.flags (text ++ closing)).bind _ = _
      rw [hescape', Option.bind_some]
      change (Piece.ofEscape? r.flags escape).map _ = _
      rw [hp]
      rfl
    · obtain ⟨p, hp, heq⟩ := Option.map_eq_some_iff.1 h
      cases heq
      refine ⟨_, ?_, htext⟩
      change (Piece.dot? r.flags).map _ = _
      rw [hp]
      rfl
    · cases h
      exact ⟨_, rfl, htext⟩
    · cases h
      exact ⟨_, rfl, htext⟩
    · cases h
      exact ⟨_, rfl, htext⟩

/-- **A text is read in the same way as the body of a group**, unless a comment takes in what
closes the group. -/
theorem run?_inside {n m : Nat} {cs more : List Char} {w : Reading} (hleft : Left cs more)
    (h : run? n r cs = some r') (hmore : run? m (r.inside layer) more = some w) :
    (∃ k, run? k (r'.inside layer) closing = some w) ∨ w = r'.inside layer := by
  induction n generalizing m r cs more with
  | zero => cases h
  | succ n ih =>
    cases m with
    | zero => cases hmore
    | succ m =>
      have hflags : (r.inside layer).flags = r.flags := rfl
      rw [run?] at h hmore
      rw [hflags] at hmore
      rcases (hleft.skip r.flags).split with ⟨hcs, hskip | hskip⟩ | ⟨c, text, hcs, hskip⟩
      · rw [hcs] at h
        rw [hskip] at hmore
        cases h
        refine .inl ⟨m + 1, ?_⟩
        rw [run?, hflags, skip_closing]
        exact hmore
      · rw [hcs] at h
        rw [hskip] at hmore
        cases h
        cases hmore
        exact .inr rfl
      · rw [hcs] at h
        rw [hskip] at hmore
        obtain ⟨⟨s, rest⟩, hs, h⟩ := Option.bind_eq_some_iff.1 h
        obtain ⟨⟨t, left⟩, ht, hmore⟩ := Option.bind_eq_some_iff.1 hmore
        obtain ⟨left', hs', hrest⟩ := step?_inside (left_append (c :: text)) hs
        rw [List.cons_append, ht] at hs'
        cases hs'
        exact ih hrest h hmore

end Reading

/-! ### Anchors -/

theorem spans_look_iff {l : Look} {before s after : List Char} :
    (look l).Spans before s after ↔ s = [] ∧ l.holds (gapOf before after) = true := by
  constructor
  · intro h
    cases h with
    | look h => exact ⟨rfl, h⟩
  · rintro ⟨rfl, h⟩
    exact .look h

/-- A pattern between the ends of a text. -/
def anchored (p : Pattern) : Pattern := .seq (.look .textStart) (.seq p (.look .textEnd))

/-- **Between the ends of a text, a pattern takes all of it.** -/
theorem occurs_anchored (p : Pattern) (text : List Char) :
    (anchored p).Occurs text ↔ p.Spans [] text [] := by
  constructor
  · rintro ⟨before, s, after, rfl, h⟩
    obtain ⟨u, v, rfl, hstart, h⟩ := spans_seq_iff.1 h
    obtain ⟨w, z, rfl, hp, hend⟩ := spans_seq_iff.1 h
    obtain ⟨rfl, hbefore⟩ := spans_look_iff.1 hstart
    obtain ⟨rfl, hafter⟩ := spans_look_iff.1 hend
    obtain rfl : before = [] := List.getLast?_eq_none_iff.1 (Option.isNone_iff_eq_none.1 hbefore)
    obtain rfl : after = [] := List.head?_eq_none_iff.1 (Option.isNone_iff_eq_none.1 hafter)
    simp only [List.nil_append, List.append_nil] at hp ⊢
    exact hp
  · intro h
    refine ⟨[], text, [], by rw [List.nil_append, List.append_nil], ?_⟩
    refine spans_seq_iff.2 ⟨[], text, rfl, spans_look_iff.2 ⟨rfl, rfl⟩, ?_⟩
    refine spans_seq_iff.2 ⟨text, [], (List.append_nil text).symm, ?_, spans_look_iff.2 ⟨rfl, rfl⟩⟩
    exact h

end Watchpost.Pattern
