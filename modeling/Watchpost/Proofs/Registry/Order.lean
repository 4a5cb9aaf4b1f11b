import Mathlib.Data.List.MinMax
import Mathlib.Order.Bounds.Basic
import Watchpost.Proofs.Registry.Changes

/-! Changes in another order.

Which changes come too late depends on the order in which they come, and so does whether one of
them raises the last number on its way. What is left of them does not (`order_irrelevant`): under
each id the change with the highest number counts, unless the registry knew a later one, and the
last number is the highest one of those that count. -/
namespace Watchpost

namespace Registry

/-! ### A registry only goes on -/

/-- What a registry becomes: no version and no last number goes back. -/
structure Grows (r s : Registry) : Prop where
  versions : ∀ id version, r.version? id = some version →
    ∃ later, s.version? id = some later ∧ version ≤ later
  lastSeq : r.lastSeq ≤ s.lastSeq

theorem Grows.refl (r : Registry) : r.Grows r :=
  ⟨fun _ version h => ⟨version, h, UInt64.le_refl version⟩, UInt64.le_refl _⟩

theorem Grows.trans {r s t : Registry} (h : r.Grows s) (h' : s.Grows t) : r.Grows t where
  versions id version hversion := by
    obtain ⟨later, hlater, hle⟩ := h.versions id version hversion
    obtain ⟨last, hlast, hle'⟩ := h'.versions id later hlater
    exact ⟨last, hlast, UInt64.le_trans hle hle'⟩
  lastSeq := UInt64.le_trans h.lastSeq h'.lastSeq

theorem grows_apply (r : Registry) (c : Change) : r.Grows (r.apply c).1 := by
  cases hs : r.isStale c with
  | true =>
    rw [apply_of_stale hs]
    exact .refl r
  | false =>
    rw [apply_of_timely hs]
    refine ⟨fun id version hversion => ?_, le_max_left ..⟩
    rw [version?_enforce]
    by_cases hid : id = c.id
    · subst hid
      refine ⟨c.seq, if_pos rfl, UInt64.not_lt.1 fun hlt => ?_⟩
      rw [isStale_iff.2 ⟨version, hversion, hlt⟩] at hs
      cases hs
    · exact ⟨version, (if_neg hid).trans hversion, UInt64.le_refl version⟩

theorem grows_applyAll (r : Registry) (cs : List Change) : r.Grows (r.applyAll cs) := by
  induction cs generalizing r with
  | nil => exact .refl r
  | cons c rest ih => exact (r.grows_apply c).trans (ih _)

/-- What comes too late comes too late ever after. -/
theorem Grows.isStale {r s : Registry} (h : r.Grows s) {c : Change} (hs : r.isStale c = true) :
    s.isStale c = true := by
  obtain ⟨version, hversion, hlt⟩ := isStale_iff.1 hs
  obtain ⟨later, hlater, hle⟩ := h.versions c.id version hversion
  refine isStale_iff.2 ⟨later, hlater, UInt64.lt_of_lt_of_le hlt hle⟩

/-! ### Late changes -/

/-- The views of an id are not touched by changes of it that come too late. -/
theorem applyAll_late {r : Registry} {id : String} {cs : List Change}
    (h : ∀ c ∈ cs, c.id = id → r.isStale c = true) :
    (r.applyAll cs).version? id = r.version? id ∧ (r.applyAll cs).get? id = r.get? id := by
  induction cs generalizing r with
  | nil => exact ⟨rfl, rfl⟩
  | cons c rest ih =>
    have hrest : ∀ d ∈ rest, d.id = id → (r.apply c).1.isStale d = true := fun d hd hid =>
      (r.grows_apply c).isStale (h d (List.mem_cons_of_mem c hd) hid)
    obtain ⟨hversion, hrule⟩ := ih hrest
    rw [applyAll, hversion, hrule]
    cases hs : r.isStale c with
    | true =>
      rw [apply_of_stale hs]
      exact ⟨rfl, rfl⟩
    | false =>
      have hne : id ≠ c.id := by
        rintro rfl
        rw [h c (List.mem_cons_self ..) rfl] at hs
        cases hs
      rw [apply_of_timely hs, version?_enforce, get?_enforce, if_neg hne, if_neg hne]
      exact ⟨rfl, rfl⟩

/-! ### The changes that count -/

/-- No two changes of one id have the same number. -/
def Apart (cs : List Change) : Prop :=
  ∀ c ∈ cs, ∀ d ∈ cs, c.id = d.id → c.seq = d.seq → c = d

/-- A change that counts: the last one of its id in a list, and not older than what the registry
knows. -/
structure Wins (r : Registry) (cs : List Change) (c : Change) : Prop where
  mem : c ∈ cs
  tops : Tops c cs
  timely : ∀ version, r.version? c.id = some version → version ≤ c.seq

theorem timely_iff {r : Registry} {c : Change} :
    (∀ version, r.version? c.id = some version → version ≤ c.seq) ↔ r.isStale c = false := by
  rw [← Bool.not_eq_true, isStale_iff]
  constructor
  · rintro h ⟨version, hversion, hlt⟩
    exact UInt64.not_lt.2 (h version hversion) hlt
  · intro h version hversion
    exact UInt64.not_lt.1 fun hlt => h ⟨version, hversion, hlt⟩

/-- Among the changes of an id one is the last. -/
theorem exists_tops {cs : List Change} (hapart : Apart cs) {d : Change} (hd : d ∈ cs) :
    ∃ c ∈ cs, c.id = d.id ∧ Tops c cs ∧ d.seq ≤ c.seq := by
  have hsame {e : Change} : e ∈ cs.filter (·.id = d.id) ↔ e ∈ cs ∧ e.id = d.id := by simp
  have hne : (cs.filter (·.id = d.id)).argmax (fun e => e.seq.toNat) ≠ none := by
    rw [Ne, List.argmax_eq_none]
    exact List.ne_nil_of_mem (hsame.2 ⟨hd, rfl⟩)
  obtain ⟨c, hc⟩ := Option.ne_none_iff_exists'.1 hne
  obtain ⟨hmem, hid⟩ := hsame.1 (List.argmax_mem hc)
  have hle {e : Change} (he : e ∈ cs) (heq : e.id = d.id) : e.seq ≤ c.seq := by
    rw [UInt64.le_iff_toNat_le]
    exact List.le_of_mem_argmax (f := fun e : Change => e.seq.toNat) (hsame.2 ⟨he, heq⟩) hc
  refine ⟨c, hmem, hid, fun e he heq => ?_, hle hd rfl⟩
  by_cases hseq : e.seq = c.seq
  · exact .inl (hapart e he c hmem heq hseq)
  · exact .inr (UInt64.lt_of_le_of_ne (hle he (heq.trans hid)) hseq)

/-- Nothing is known of an id beyond the last change of it. -/
theorem version_applyAll_le {r : Registry} {c : Change} {cs : List Change}
    (hr : ∀ version, r.version? c.id = some version → version ≤ c.seq)
    (hcs : ∀ d ∈ cs, d.id = c.id → d.seq ≤ c.seq) :
    ∀ version, (r.applyAll cs).version? c.id = some version → version ≤ c.seq := by
  induction cs generalizing r with
  | nil => exact hr
  | cons d rest ih =>
    refine ih (fun version hversion => ?_) fun e he => hcs e (List.mem_cons_of_mem d he)
    cases hs : r.isStale d with
    | true =>
      rw [apply_of_stale hs] at hversion
      exact hr version hversion
    | false =>
      rw [apply_of_timely hs, version?_enforce] at hversion
      split at hversion
      · next hid =>
        cases hversion
        exact hcs d (List.mem_cons_self ..) hid.symm
      · exact hr version hversion

/-- A change that counts comes into force, so the last number is not below its own. -/
theorem Wins.seq_le {r : Registry} {cs : List Change} {c : Change} (h : r.Wins cs c) :
    c.seq ≤ (r.applyAll cs).lastSeq := by
  obtain ⟨before, after, rfl⟩ := List.append_of_mem h.mem
  have hbefore : ∀ d ∈ before, d.id = c.id → d.seq ≤ c.seq := fun d hd hid => by
    rcases h.tops d (List.mem_append_left _ hd) hid with rfl | hlt
    · exact UInt64.le_refl d.seq
    · exact UInt64.le_of_lt hlt
  have htimely := timely_iff.1 (version_applyAll_le h.timely hbefore)
  have hforce : c.seq ≤ ((r.applyAll before).apply c).1.lastSeq := by
    rw [apply_of_timely htimely]
    exact le_max_right ..
  rw [applyAll_append]
  exact UInt64.le_trans hforce (grows_applyAll _ after).lastSeq

/-- The last number is the old one or that of a change which did not come too late. -/
theorem lastSeq_applyAll (r : Registry) (cs : List Change) :
    (r.applyAll cs).lastSeq = r.lastSeq ∨
      ∃ d ∈ cs, (r.applyAll cs).lastSeq = d.seq ∧ r.isStale d = false := by
  induction cs generalizing r with
  | nil => exact .inl rfl
  | cons c rest ih =>
    rcases ih (r.apply c).1 with hlast | ⟨d, hd, hlast, htimely⟩
    · cases hs : r.isStale c with
      | true =>
        rw [apply_of_stale hs] at hlast
        exact .inl ((congrArg (lastSeq <| applyAll · rest) (apply_of_stale hs)).trans hlast)
      | false =>
        have hmax : (r.apply c).1.lastSeq = max r.lastSeq c.seq := by
          rw [apply_of_timely hs]
          rfl
        have heq := hlast.trans hmax
        by_cases hle : r.lastSeq ≤ c.seq
        · exact .inr ⟨c, List.mem_cons_self .., heq.trans (if_pos hle), hs⟩
        · exact .inl (heq.trans (if_neg hle))
    · refine .inr ⟨d, List.mem_cons_of_mem c hd, hlast, ?_⟩
      rw [← Bool.not_eq_true] at htimely ⊢
      exact fun hs => htimely ((r.grows_apply c).isStale hs)

/-- **The last number is the highest one among the old one and those of the changes that count.** -/
theorem isGreatest_lastSeq (r : Registry) {cs : List Change} (hapart : Apart cs) :
    IsGreatest {n | n = r.lastSeq ∨ ∃ c, r.Wins cs c ∧ n = c.seq} (r.applyAll cs).lastSeq := by
  constructor
  · rcases r.lastSeq_applyAll cs with hlast | ⟨d, hd, hlast, htimely⟩
    · exact .inl hlast
    · obtain ⟨c, hc, hid, htops, hle⟩ := exists_tops hapart hd
      have hwins : r.Wins cs c := ⟨hc, htops, fun version hversion =>
        UInt64.le_trans (timely_iff.2 htimely version (hid ▸ hversion)) hle⟩
      refine .inr ⟨c, hwins, UInt64.le_antisymm ?_ hwins.seq_le⟩
      rw [hlast]
      exact hle
  · rintro n (rfl | ⟨c, hwins, rfl⟩)
    · exact (r.grows_applyAll cs).lastSeq
    · exact hwins.seq_le

theorem wins_congr {r : Registry} {cs ds : List Change} (h : ∀ c, c ∈ cs ↔ c ∈ ds) (c : Change) :
    r.Wins cs c ↔ r.Wins ds c :=
  ⟨fun hc => ⟨(h c).1 hc.mem, fun d hd => hc.tops d ((h d).2 hd), hc.timely⟩,
    fun hc => ⟨(h c).2 hc.mem, fun d hd => hc.tops d ((h d).1 hd), hc.timely⟩⟩

theorem Wins.shows {r : Registry} {cs : List Change} {c : Change} (h : r.Wins cs c) :
    (r.applyAll cs).Shows c := shows_applyAll h.mem h.tops h.timely

/-- An id of which no change counts stays as it is. -/
theorem applyAll_of_no_winner {r : Registry} {cs : List Change} (hapart : Apart cs) {id : String}
    (h : ∀ c, r.Wins cs c → c.id ≠ id) :
    (r.applyAll cs).version? id = r.version? id ∧ (r.applyAll cs).get? id = r.get? id := by
  refine applyAll_late fun d hd hid => ?_
  obtain ⟨c, hc, hcid, htops, hle⟩ := exists_tops hapart hd
  -- If `d` were in time, so would be the last change of its id.
  by_contra hs
  rw [Bool.not_eq_true, ← timely_iff] at hs
  have hwins : r.Wins cs c := ⟨hc, htops, fun version hversion =>
    UInt64.le_trans (hs version (hcid ▸ hversion)) hle⟩
  exact h c hwins (hcid.trans hid)

/-- Changes that come in another order, or more often, lead to the same registry. -/
theorem applyAll_congr (r : Registry) {cs ds : List Change} (hsame : ∀ c, c ∈ cs ↔ c ∈ ds)
    (hapart : Apart cs) : r.applyAll cs = r.applyAll ds := by
  have hapart' : Apart ds := fun c hc d hd => hapart c ((hsame c).2 hc) d ((hsame d).2 hd)
  have hviews (id : String) : (r.applyAll cs).version? id = (r.applyAll ds).version? id ∧
      (r.applyAll cs).get? id = (r.applyAll ds).get? id := by
    by_cases h : ∃ c, r.Wins cs c ∧ c.id = id
    · obtain ⟨c, hwins, rfl⟩ := h
      have hshows := hwins.shows
      have hshows' := ((wins_congr hsame c).1 hwins).shows
      exact ⟨hshows.version.trans hshows'.version.symm, hshows.rule.trans hshows'.rule.symm⟩
    · have hcs := applyAll_of_no_winner hapart fun c hwins hid => h ⟨c, hwins, hid⟩
      have hds := applyAll_of_no_winner hapart' fun c hwins hid =>
        h ⟨c, (wins_congr hsame c).2 hwins, hid⟩
      exact ⟨hcs.1.trans hds.1.symm, hcs.2.trans hds.2.symm⟩
  have hlast := isGreatest_lastSeq r hapart
  have hlast' := isGreatest_lastSeq r hapart'
  simp only [← wins_congr hsame] at hlast'
  exact ext_of_views (fun id => (hviews id).2) (fun id => (hviews id).1)
    (UInt64.le_antisymm (hlast'.2 hlast.1) (hlast.2 hlast'.1))

/-- **The order of changes does not matter, and neither does it how often they come.** Under each
id the change with the highest number counts, unless a higher one is known already. -/
theorem order_irrelevant (r : Registry) {cs ds : List Change} (hsame : ∀ c, c ∈ cs ↔ c ∈ ds)
    (hapart : Apart cs) :
    r.applyAll cs = r.applyAll ds ∧
    (∀ d ∈ cs, ∃ c ∈ cs, c.id = d.id ∧ Tops c cs) ∧
    (∀ c ∈ cs, Tops c cs → (∀ version, r.version? c.id = some version → version ≤ c.seq) →
      (r.applyAll cs).version? c.id = some c.seq ∧ (r.applyAll cs).get? c.id = c.rule?) ∧
    (∀ c ∈ cs, Tops c cs → ∀ version, r.version? c.id = some version → c.seq < version →
      (r.applyAll cs).version? c.id = some version ∧
        (r.applyAll cs).get? c.id = r.get? c.id) ∧
    IsGreatest {n | n = r.lastSeq ∨ ∃ c, r.Wins cs c ∧ n = c.seq} (r.applyAll cs).lastSeq ∧
    ∀ id, (∀ c ∈ cs, c.id ≠ id) →
      (r.applyAll cs).version? id = r.version? id ∧ (r.applyAll cs).get? id = r.get? id := by
  refine ⟨applyAll_congr r hsame hapart, fun d hd => ?_, fun c hc htops htimely => ?_,
    fun c hc htops version hversion hlt => ?_, isGreatest_lastSeq r hapart,
    fun id h => applyAll_untouched h⟩
  · obtain ⟨c, hc, hid, htops, -⟩ := exists_tops hapart hd
    exact ⟨c, hc, hid, htops⟩
  · have hshows := shows_applyAll hc htops htimely
    exact ⟨hshows.version, hshows.rule⟩
  · rw [← hversion]
    refine applyAll_late fun d hd hid => ?_
    rw [← hid] at hversion
    rcases htops d hd hid with rfl | hlt'
    · exact isStale_iff.2 ⟨version, hversion, hlt⟩
    · exact isStale_iff.2 ⟨version, hversion, UInt64.lt_trans hlt' hlt⟩

/-- A rule that fires for one user. -/
def sampleRule (id : String) : Rule :=
  { id, name := id, severity := .usual, description := "", enabled := true, sql := "userId = 'u'",
    condition := .compare "userId" .eq (.text "u") }

/-- A rule that was loaded, one that was deleted later than it was put in, and an id that no change
is about. -/
def settledBefore : Registry :=
  (((ofRules []).load (sampleRule "A")).enforce (.delete 5 "B")).load (sampleRule "C")

/-- Changes of which one comes twice, one after a later one of its id and one too late. -/
def jumbled : List Change :=
  [.upsert 3 (sampleRule "A"), .delete 1 "A", .upsert 2 (sampleRule "B"), .upsert 3 (sampleRule "A")]

def sortedOut : List Change :=
  [.delete 1 "A", .upsert 2 (sampleRule "B"), .upsert 3 (sampleRule "A")]

theorem order_irrelevant_late :
    (∀ c, c ∈ jumbled ↔ c ∈ sortedOut) ∧ Apart jumbled ∧
    settledBefore.applyAll jumbled = settledBefore.applyAll sortedOut ∧
    (settledBefore.applyAll jumbled).version? "A" = some 3 ∧
    (settledBefore.applyAll jumbled).version? "B" = some 5 := by
  have hsame : ∀ c, c ∈ jumbled ↔ c ∈ sortedOut := by
    intro c
    simp only [jumbled, sortedOut, List.mem_cons, List.not_mem_nil, or_false]
    tauto
  have hapart : Apart jumbled := by
    unfold Apart
    decide +kernel
  obtain ⟨heq, -, hwins, hlate, -⟩ := order_irrelevant settledBefore hsame hapart
  refine ⟨hsame, hapart, heq, (hwins (.upsert 3 (sampleRule "A")) (by simp [jumbled]) ?_ ?_).1,
    (hlate (.upsert 2 (sampleRule "B")) (by simp [jumbled]) ?_ 5 (by decide +kernel) (by decide)).1⟩
  · unfold Tops
    decide +kernel
  · intro version hversion
    have hzero : settledBefore.version? "A" = some 0 := by decide +kernel
    cases hzero.symm.trans hversion
    decide
  · unfold Tops
    decide +kernel

end Registry
end Watchpost
