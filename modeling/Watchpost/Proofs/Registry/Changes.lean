import Mathlib.Data.List.Induction
import Watchpost.Registry.Basic

/-! What is left of many changes.

A registry that was told a list of changes shows, under each id, the one with the highest
number (`shows_applyAll`), in whatever order they came; what came too late left no trace. Ids
that no change is about are as they were loaded. -/
namespace Watchpost

theorem Rule.id_of_compile {id : String} {d : Definition} {rule : Rule}
    (h : Rule.compile id d = .ok rule) : rule.id = id := by
  unfold Rule.compile at h
  cases hv : d.validate id with
  | error e =>
    rw [hv] at h
    cases h
  | ok =>
    rw [hv] at h
    dsimp only [bind, Except.bind] at h
    split at h
    · cases h
      rfl
    · cases h

/-- The rule that a change leaves under its id. -/
def Change.rule? : Change → Option Rule
  | upsert _ rule => some rule
  | delete _ _ => none

namespace Registry

/-! ### One change -/

theorem isStale_iff {r : Registry} {c : Change} :
    r.isStale c = true ↔ ∃ version, r.version? c.id = some version ∧ c.seq < version := by
  unfold isStale version?
  cases r.versions.get? c.id <;> simp

theorem apply_of_stale {r : Registry} {c : Change} (h : r.isStale c = true) :
    (r.apply c).1 = r := by
  simp [apply, h]

theorem apply_of_timely {r : Registry} {c : Change} (h : r.isStale c = false) :
    (r.apply c).1 = r.enforce c := by
  simp [apply, h]

theorem version?_enforce (r : Registry) (c : Change) (id : String) :
    (r.enforce c).version? id = if id = c.id then some c.seq else r.version? id :=
  r.versions.get?_insert c.id c.seq id

theorem get?_enforce (r : Registry) (c : Change) (id : String) :
    (r.enforce c).get? id = if id = c.id then c.rule? else r.get? id := by
  cases c with
  | upsert seq rule => exact r.rules.get?_insert rule.id rule id
  | delete seq name => exact r.rules.get?_erase name id

/-- What a registry knows of an id is the change. -/
structure Shows (r : Registry) (c : Change) : Prop where
  version : r.version? c.id = some c.seq
  rule : r.get? c.id = c.rule?

theorem shows_enforce (r : Registry) (c : Change) : (r.enforce c).Shows c :=
  ⟨by rw [version?_enforce, if_pos rfl], by rw [get?_enforce, if_pos rfl]⟩

/-- A change of another id, or one that comes too late, leaves what is shown. -/
theorem Shows.apply {r : Registry} {c d : Change} (h : r.Shows c)
    (hd : d.id = c.id → d.seq < c.seq) : (r.apply d).1.Shows c := by
  by_cases hid : d.id = c.id
  · have hs : r.isStale d = true := isStale_iff.2 ⟨c.seq, by rw [hid, h.version], hd hid⟩
    rw [apply_of_stale hs]
    exact h
  · cases hs : r.isStale d with
    | true =>
      rw [apply_of_stale hs]
      exact h
    | false =>
      rw [apply_of_timely hs]
      exact ⟨by rw [version?_enforce, if_neg (Ne.symm hid), h.version],
        by rw [get?_enforce, if_neg (Ne.symm hid), h.rule]⟩

/-! ### Many changes -/

/-- Puts changes into force, one after the other. -/
def applyAll (r : Registry) : List Change → Registry
  | [] => r
  | c :: rest => applyAll (r.apply c).1 rest

theorem applyAll_append (r : Registry) (cs ds : List Change) :
    r.applyAll (cs ++ ds) = (r.applyAll cs).applyAll ds := by
  induction cs generalizing r with
  | nil => rfl
  | cons c rest ih => exact ih _

/-- No change of a list comes after another one of the same id, but itself. -/
def Tops (c : Change) (cs : List Change) : Prop := ∀ d ∈ cs, d.id = c.id → d = c ∨ d.seq < c.seq

theorem Shows.applyAll {r : Registry} {c : Change} {cs : List Change} (h : r.Shows c)
    (ht : Tops c cs) : (r.applyAll cs).Shows c := by
  induction cs generalizing r with
  | nil => exact h
  | cons d rest ih =>
    refine ih ?_ fun e he => ht e (List.mem_cons_of_mem d he)
    by_cases hdc : d = c
    · subst hdc
      have hs : r.isStale d = false := by
        simp [isStale_iff, h.version, ← Bool.not_eq_true]
      rw [apply_of_timely hs]
      exact shows_enforce r d
    · exact h.apply fun hid => (ht d (List.mem_cons_self ..) hid).resolve_left hdc

/-- **The change with the highest number counts**, wherever in the list it stands. -/
theorem shows_applyAll {r : Registry} {c : Change} {cs : List Change} (hc : c ∈ cs)
    (ht : Tops c cs) (hv : ∀ version, r.version? c.id = some version → version ≤ c.seq) :
    (r.applyAll cs).Shows c := by
  induction cs generalizing r with
  | nil => cases hc
  | cons d rest ih =>
    have htop : Tops c rest := fun e he => ht e (List.mem_cons_of_mem d he)
    rcases List.mem_cons.1 hc with rfl | hc
    · have hs : r.isStale c = false := by
        rw [← Bool.not_eq_true, isStale_iff]
        rintro ⟨version, hversion, hlt⟩
        exact UInt64.not_lt.2 (hv version hversion) hlt
      refine Shows.applyAll (r := (r.apply c).1) ?_ htop
      rw [apply_of_timely hs]
      exact shows_enforce r c
    · refine ih hc htop fun version hversion => ?_
      cases hs : r.isStale d with
      | true =>
        rw [apply_of_stale hs] at hversion
        exact hv version hversion
      | false =>
        rw [apply_of_timely hs, version?_enforce] at hversion
        by_cases hid : c.id = d.id
        · rw [if_pos hid] at hversion
          cases hversion
          rcases ht d (List.mem_cons_self ..) hid.symm with rfl | hlt
          · exact UInt64.le_refl _
          · exact UInt64.le_of_lt hlt
        · rw [if_neg hid] at hversion
          exact hv version hversion

/-- What no change is about stays as it is. -/
theorem applyAll_untouched {r : Registry} {id : String} {cs : List Change}
    (h : ∀ c ∈ cs, c.id ≠ id) :
    (r.applyAll cs).version? id = r.version? id ∧ (r.applyAll cs).get? id = r.get? id := by
  induction cs generalizing r with
  | nil => exact ⟨rfl, rfl⟩
  | cons c rest ih =>
    have hne : id ≠ c.id := (h c (List.mem_cons_self ..)).symm
    obtain ⟨hversion, hrule⟩ := ih (r := (r.apply c).1) fun d hd => h d (List.mem_cons_of_mem c hd)
    rw [applyAll, hversion, hrule]
    cases hs : r.isStale c with
    | true =>
      rw [apply_of_stale hs]
      exact ⟨rfl, rfl⟩
    | false =>
      rw [apply_of_timely hs, version?_enforce, get?_enforce, if_neg hne, if_neg hne]
      exact ⟨rfl, rfl⟩

/-! ### Numbers -/

/-- No version is beyond the last number. -/
def Numbered (r : Registry) : Prop := ∀ id version, r.version? id = some version → version ≤ r.lastSeq

theorem le_max_left (a b : UInt64) : a ≤ max a b := by
  show a ≤ if a ≤ b then b else a
  split
  · assumption
  · exact UInt64.le_refl a

theorem le_max_right (a b : UInt64) : b ≤ max a b := by
  show b ≤ if a ≤ b then b else a
  split
  · exact UInt64.le_refl b
  · next h => exact UInt64.le_of_lt (UInt64.not_le.1 h)

theorem max_le {a b c : UInt64} (ha : a ≤ c) (hb : b ≤ c) : max a b ≤ c := by
  show (if a ≤ b then b else a) ≤ c
  split <;> assumption

theorem Numbered.apply {r : Registry} (h : r.Numbered) (c : Change) : (r.apply c).1.Numbered := by
  cases hs : r.isStale c with
  | true =>
    rw [apply_of_stale hs]
    exact h
  | false =>
    rw [apply_of_timely hs]
    intro id version hversion
    rw [version?_enforce] at hversion
    split at hversion
    · cases hversion
      exact le_max_right ..
    · exact UInt64.le_trans (h id version hversion) (le_max_left ..)

theorem Numbered.applyAll {r : Registry} (h : r.Numbered) (cs : List Change) :
    (r.applyAll cs).Numbered := by
  induction cs generalizing r with
  | nil => exact h
  | cons c rest ih => exact ih (h.apply c)

theorem lastSeq_applyAll_le {r : Registry} {cs : List Change} {n : UInt64} (h : r.lastSeq ≤ n)
    (hcs : ∀ c ∈ cs, c.seq ≤ n) : (r.applyAll cs).lastSeq ≤ n := by
  induction cs generalizing r with
  | nil => exact h
  | cons c rest ih =>
    refine ih ?_ fun d hd => hcs d (List.mem_cons_of_mem c hd)
    cases hs : r.isStale c with
    | true =>
      rw [apply_of_stale hs]
      exact h
    | false =>
      rw [apply_of_timely hs]
      exact max_le h (hcs c (List.mem_cons_self ..))

/-! ### Names -/

/-- Every rule stands under its own id. -/
def Keyed (r : Registry) : Prop := ∀ id rule, r.get? id = some rule → rule.id = id

theorem Keyed.apply {r : Registry} (h : r.Keyed) (c : Change) : (r.apply c).1.Keyed := by
  cases hs : r.isStale c with
  | true =>
    rw [apply_of_stale hs]
    exact h
  | false =>
    rw [apply_of_timely hs]
    intro id rule hrule
    rw [get?_enforce] at hrule
    split at hrule
    · next hid =>
      cases c with
      | upsert seq new =>
        cases hrule
        exact hid.symm
      | delete seq name => cases hrule
    · exact h id rule hrule

theorem Keyed.applyAll {r : Registry} (h : r.Keyed) (cs : List Change) :
    (r.applyAll cs).Keyed := by
  induction cs generalizing r with
  | nil => exact h
  | cons c rest ih => exact ih (h.apply c)

/-! ### Loaded rules -/

theorem ofRules_snoc (rules : List Rule) (rule : Rule) :
    ofRules (rules ++ [rule]) = (ofRules rules).load rule := List.foldl_append

/-- Of several loaded rules with one id the last one counts. -/
theorem get?_ofRules (rules : List Rule) (id : String) :
    (ofRules rules).get? id = (rules.filter (·.id == id)).getLast? := by
  induction rules using List.reverseRecOn with
  | nil => rfl
  | append_singleton rules rule ih =>
    have h : ((ofRules rules).load rule).get? id =
        if id = rule.id then some rule else (ofRules rules).get? id :=
      (ofRules rules).rules.get?_insert rule.id rule id
    rw [ofRules_snoc, h, List.filter_append, ih]
    by_cases hid : id = rule.id
    · simp [hid]
    · simp [hid, Ne.symm hid]

/-- What was loaded has number zero. -/
theorem version?_ofRules (rules : List Rule) (id : String) :
    (ofRules rules).version? id = if rules.filter (·.id == id) = [] then none else some 0 := by
  induction rules using List.reverseRecOn with
  | nil => rfl
  | append_singleton rules rule ih =>
    have h : ((ofRules rules).load rule).version? id =
        if id = rule.id then some 0 else (ofRules rules).version? id :=
      (ofRules rules).versions.get?_insert rule.id 0 id
    rw [ofRules_snoc, h, List.filter_append, ih]
    by_cases hid : id = rule.id
    · simp [hid]
    · simp [hid, Ne.symm hid]

theorem lastSeq_ofRules (rules : List Rule) : (ofRules rules).lastSeq = 0 := by
  induction rules using List.reverseRecOn with
  | nil => rfl
  | append_singleton rules rule ih =>
    rw [ofRules_snoc]
    exact ih

theorem version_ofRules_le {rules : List Rule} {id : String} {version : UInt64}
    (h : (ofRules rules).version? id = some version) : version = 0 := by
  rw [version?_ofRules] at h
  split at h
  · cases h
  · cases h
    rfl

theorem numbered_ofRules (rules : List Rule) : (ofRules rules).Numbered := by
  intro id version h
  rw [version_ofRules_le h, lastSeq_ofRules]
  exact UInt64.le_refl 0

theorem keyed_ofRules (rules : List Rule) : (ofRules rules).Keyed := by
  intro id rule h
  rw [get?_ofRules] at h
  have hmem := List.mem_of_getLast? h
  simpa using (List.mem_filter.1 hmem).2

/-! ### Equality -/

/-- Registries are equal when they know the same of every id, and the last number. -/
theorem ext_of_views {r s : Registry} (hrule : ∀ id, r.get? id = s.get? id)
    (hversion : ∀ id, r.version? id = s.version? id) (hlast : r.lastSeq = s.lastSeq) : r = s := by
  obtain ⟨rules, versions, lastSeq⟩ := r
  obtain ⟨rules', versions', lastSeq'⟩ := s
  cases Table.ext hrule
  cases Table.ext hversion
  cases hlast
  rfl

end Registry
end Watchpost
