import Watchpost.Like
import Watchpost.Proofs.Pattern.Wrapping

/-! LIKE patterns take whole texts.

The body of a LIKE pattern is read between the ends of a text. If it is a pattern by itself, what
is taken is what it takes from the first character to the last (`takes_whole`). A body that closes
the group it stands in is none by itself, and may take less (`closed_early`). -/
namespace Watchpost.Like

open Pattern

/-- What a LIKE pattern says about characters, by itself. -/
def body (source : String) : List Char := source.toList.flatMap expand

/-- The flags that the body is read under: a carriage return is no character for a dot. -/
def bodyFlags : Flags := { crlf := true }

theorem patternText_eq (source : String) :
    patternText source = '^' :: '(' :: '?' :: 'R' :: ':' :: (body source ++ closing) := by
  unfold patternText body
  simp [closing]

/-- What stands before the group around the body. -/
def start : Layer := ⟨{}, [], [Piece.lineStart {}], none⟩

theorem run?_front (n : Nat) (text : List Char) :
    Reading.run? (n + 2) {} ('^' :: '(' :: '?' :: 'R' :: ':' :: text) =
      Reading.run? n (Reading.inside start { flags := bodyFlags }) text := rfl

/-- What is read once the group is closed, and the text with it. -/
def closed (r : Reading) : Reading :=
  { r with flags := {}, branches := [], outer := [],
           items := [Piece.lineEnd {}, r.content.grouped none, Piece.lineStart {}] }

theorem run?_closing {k : Nat} {r w : Reading} (hclosed : r.outer = [])
    (h : Reading.run? k (r.inside start) closing = some w) : w = closed r := by
  have hstep : (r.inside start).step? closing =
      some ({ r with flags := {}, branches := [], outer := [],
                     items := [r.content.grouped none, Piece.lineStart {}] }, ['$']) := by
    obtain ⟨flags, branches, items, outer, groups, names⟩ := r
    cases hclosed
    rfl
  cases k with
  | zero => cases h
  | succ k =>
    rw [Reading.run?, skip_closing] at h
    change ((r.inside start).step? closing).bind _ = _ at h
    rw [hstep, Option.bind_some] at h
    cases k with
    | zero => cases h
    | succ k =>
      cases k with
      | zero => cases h
      | succ k =>
        cases h
        rfl

theorem closed_pattern (r : Reading) : (closed r).content.pattern = anchored r.content.pattern := by
  change concat [.look .textStart, r.content.pattern, .look .textEnd] = _
  simp [concat, balanced, anchored]

theorem finish?_open {r : Reading} (h : r.outer ≠ []) : r.finish? = none := by
  have hempty : r.outer.isEmpty = false := List.isEmpty_eq_false_iff.2 h
  unfold Reading.finish?
  rw [hempty]
  rfl

theorem finish?_eq_some {r : Reading} {p : Pattern} (h : r.finish? = some p) :
    r.outer = [] ∧ p = r.content.pattern := by
  refine ⟨?_, ?_⟩
  · refine Decidable.byContradiction fun houter => ?_
    rw [finish?_open houter] at h
    cases h
  · unfold Reading.finish? at h
    dsimp only at h
    split at h
    · cases h
      rfl
    · cases h

/-- **A LIKE pattern is its body between the ends of a text**, if the body is read by itself. -/
theorem pattern_eq (l : Like) {n : Nat} {r : Reading}
    (h : Reading.run? n { flags := bodyFlags } (body l.source) = some r) (hclosed : r.outer = []) :
    l.pattern = anchored r.content.pattern := by
  have hspelled := l.spelled
  rw [patternText_eq] at hspelled
  obtain ⟨w, hrun, hfinish⟩ := Option.bind_eq_some_iff.1 hspelled
  rw [List.length_cons, List.length_cons, List.length_cons, List.length_cons, List.length_cons,
    run?_front] at hrun
  rcases Reading.run?_inside (left_append (body l.source)) h hrun with ⟨k, hk⟩ | hw
  · rw [run?_closing hclosed hk] at hfinish
    rw [(finish?_eq_some hfinish).2, closed_pattern]
  · -- A comment took in what closes the group, which stays open.
    subst hw
    have houter : r.outer ++ [start] = [] := (finish?_eq_some hfinish).1
    rw [hclosed] at houter
    cases houter

/-- **What is taken is what the body takes as a whole**, if the body is a pattern by itself. -/
theorem takes_whole (l : Like) {p : Pattern} (h : readUnder? bodyFlags (body l.source) = some p)
    (text : String) : l.takes text = true ↔ p.Spans [] text.toList [] := by
  obtain ⟨r, hrun, hfinish⟩ := Option.bind_eq_some_iff.1 h
  obtain ⟨hclosed, rfl⟩ := finish?_eq_some hfinish
  rw [takes, occursIn_iff, pattern_eq l hrun hclosed, occurs_anchored]

/-- Two alternatives, one of them with a low line and one with a percent sign. -/
theorem takes_whole_alternatives : ∃ (l : Like) (p : Pattern), l.source = "pc-_|host%" ∧
    readUnder? bodyFlags (body l.source) = some p ∧ p.Spans [] "host-7".toList [] ∧
    ¬p.Spans [] "pc-10".toList [] := by
  have hread : (Like.read? "pc-_|host%").map (fun l => (l.source, l.takes "host-7", l.takes "pc-10")) =
      some ("pc-_|host%", true, false) := by decide +kernel
  have hbody : (readUnder? bodyFlags (body "pc-_|host%")).isSome = true := by decide +kernel
  obtain ⟨l, -, hl⟩ := Option.map_eq_some_iff.1 hread
  obtain ⟨hsource, htakes⟩ := Prod.mk.inj hl
  obtain ⟨htaken, hnot⟩ := Prod.mk.inj htakes
  obtain ⟨p, hp⟩ := Option.isSome_iff_exists.1 hbody
  rw [← hsource] at hp
  refine ⟨l, p, hsource, hp, (takes_whole l hp "host-7").1 htaken, fun h => ?_⟩
  rw [(takes_whole l hp "pc-10").2 h] at hnot
  cases hnot

/-- A body that closes the group around it: it is taken for a pattern, but it is none by itself,
and what it takes does not reach to the end. -/
theorem closed_early : ∃ l : Like, l.source = "a)|(?R:b" ∧
    readUnder? bodyFlags (body l.source) = none ∧ l.takes "axyz" = true := by
  have hread : (Like.read? "a)|(?R:b").map (fun l => (l.source, l.takes "axyz")) =
      some ("a)|(?R:b", true) := by decide +kernel
  have hbody : (readUnder? bodyFlags (body "a)|(?R:b")).isNone = true := by decide +kernel
  obtain ⟨l, -, hl⟩ := Option.map_eq_some_iff.1 hread
  obtain ⟨hsource, htakes⟩ := Prod.mk.inj hl
  refine ⟨l, hsource, ?_, htakes⟩
  rw [hsource]
  exact Option.isNone_iff_eq_none.1 hbody

end Watchpost.Like
