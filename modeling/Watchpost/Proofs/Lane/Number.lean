import Mathlib.Algebra.Group.Nat.Defs
import Watchpost.Proofs.Lane.Trace

/-! Updates, changes and their numbers.

The update at place `k` bears number `k + 1`, counted from what the replica began with. As long
as the numbers do not run out, a registry shows of every id the change that the last update of
it made (`Traced.shows`), if that update made one. -/
namespace Watchpost

/-- An update is the last one of its id, and the one at place `k`. -/
structure LastFor (us : List RuleUpdate) (k : Nat) (u : RuleUpdate) : Prop where
  here : us[k]? = some u
  last : ∀ j v, us[j]? = some v → v.ruleId = u.ruleId → j ≤ k

theorem exists_lastFor {us : List RuleUpdate} {u : RuleUpdate} (h : u ∈ us) :
    ∃ k v, LastFor us k v ∧ v.ruleId = u.ruleId := by
  induction us using List.reverseRecOn with
  | nil => cases h
  | append_singleton us w ih =>
    by_cases hid : w.ruleId = u.ruleId
    · refine ⟨us.length, w, ⟨by simp, fun j v hj _ => ?_⟩, hid⟩
      have := (List.getElem?_eq_some_iff.1 hj).1
      simp only [List.length_append, List.length_singleton] at this
      omega
    · have hu : u ∈ us := by
        rcases List.mem_append.1 h with h | h
        · exact h
        · rw [List.mem_singleton.1 h] at hid
          exact absurd rfl hid
      obtain ⟨k, v, hlast, hv⟩ := ih hu
      have hk := (List.getElem?_eq_some_iff.1 hlast.here).1
      refine ⟨k, v, ⟨?_, fun j x hj hx => ?_⟩, hv⟩
      · rw [List.getElem?_append_left hk]
        exact hlast.here
      · by_cases hlt : j < us.length
        · rw [List.getElem?_append_left hlt] at hj
          exact hlast.last j x hj hx
        · have hend := (List.getElem?_eq_some_iff.1 hj).1
          simp only [List.length_append, List.length_singleton] at hend
          have hj' : j = us.length := by omega
          subst hj'
          rw [List.getElem?_concat_length] at hj
          cases hj
          exact absurd (hx.trans hv) hid

/-- The number of the update at a place. -/
def seqAt (last : UInt64) (k : Nat) : UInt64 := last + UInt64.ofNat (k + 1)

theorem seqAt_zero (last : UInt64) : seqAt last 0 = last + 1 := rfl

theorem seqAt_succ (last : UInt64) (k : Nat) : seqAt last (k + 1) = seqAt (last + 1) k := by
  unfold seqAt
  rw [UInt64.ofNat_add (k + 1) 1, UInt64.add_assoc, UInt64.add_comm 1]
  rfl

theorem toNat_seqAt {last : UInt64} {k : Nat} (h : last.toNat + k + 1 < 2 ^ 64) :
    (seqAt last k).toNat = last.toNat + k + 1 := by
  unfold seqAt
  rw [UInt64.toNat_add, UInt64.toNat_ofNat', Nat.mod_eq_of_lt (a := k + 1) (by omega),
    Nat.mod_eq_of_lt (by omega)]
  rfl

theorem seqAt_lt {last : UInt64} {j k : Nat} (h : last.toNat + k + 1 < 2 ^ 64) (hjk : j < k) :
    seqAt last j < seqAt last k := by
  rw [UInt64.lt_iff_toNat_lt, toNat_seqAt h, toNat_seqAt (by omega)]
  omega

theorem seqAt_inj {last : UInt64} {j k n : Nat} (h : last.toNat + n < 2 ^ 64) (hj : j < n)
    (hk : k < n) (heq : seqAt last j = seqAt last k) : j = k := by
  have := congrArg UInt64.toNat heq
  rw [toNat_seqAt (by omega), toNat_seqAt (by omega)] at this
  omega

theorem lt_seqAt {last : UInt64} {k : Nat} (h : last.toNat + k + 1 < 2 ^ 64) :
    last < seqAt last k := by
  rw [UInt64.lt_iff_toNat_lt, toNat_seqAt h]
  omega

namespace Lane

theorem issued_eq (last : UInt64) (acts : List Act) :
    issued last acts = last + UInt64.ofNat (updatesOf acts).length := by
  induction acts using List.reverseRecOn with
  | nil => exact (UInt64.add_zero last).symm
  | append_singleton acts a ih =>
    rw [issued_snoc, updatesOf_snoc, List.length_append, UInt64.ofNat_add, ← UInt64.add_assoc, ← ih]
    cases a <;> first | rfl | exact (UInt64.add_zero _).symm

/-- A change is the deletion of an update, or comes of an outcome. -/
theorem mem_changes {last : UInt64} {acts : List Act} {c : Change} :
    c ∈ changes last acts ↔
      (∃ k id, (updatesOf acts)[k]? = some ⟨id, .delete⟩ ∧ c = .delete (seqAt last k) id) ∨
        ∃ o ∈ outcomesOf acts, o.change? = some c := by
  induction acts generalizing last with
  | nil => simp [changes, gather, updatesOf, outcomesOf]
  | cons a rest ih =>
    have hcons : changes last (a :: rest) = a.changes last ++ changes (a.next last) rest := rfl
    rw [hcons, List.mem_append, ih]
    cases a with
    | update u =>
      obtain ⟨name, action⟩ := u
      have hupdates : updatesOf (.update ⟨name, action⟩ :: rest) =
          ⟨name, action⟩ :: updatesOf rest := rfl
      have houtcomes : outcomesOf (.update ⟨name, action⟩ :: rest) = outcomesOf rest := rfl
      rw [hupdates, houtcomes]
      constructor
      · rintro (h | ⟨k, id, hk, rfl⟩ | h)
        · cases action with
          | upsert => cases h
          | delete =>
            rw [Act.changes, List.mem_singleton] at h
            exact .inl ⟨0, name, rfl, h⟩
        · exact .inl ⟨k + 1, id, hk, by rw [seqAt_succ]; rfl⟩
        · exact .inr h
      · rintro (⟨k, id, hk, rfl⟩ | h)
        · cases k with
          | zero =>
            cases hk
            exact .inl (List.mem_singleton.2 rfl)
          | succ k => exact .inr (.inl ⟨k, id, hk, by rw [seqAt_succ]; rfl⟩)
        · exact .inr (.inr h)
    | outcome o =>
      have houtcomes : outcomesOf (.outcome o :: rest) = o :: outcomesOf rest := rfl
      have hupdates : updatesOf (.outcome o :: rest) = updatesOf rest := rfl
      have hchanges : Act.changes last (.outcome o) = o.change?.toList := rfl
      have hnext : Act.next last (.outcome o) = last := rfl
      rw [houtcomes, hupdates, hchanges, hnext, Option.mem_toList]
      constructor
      · rintro (h | h | ⟨p, hp, h⟩)
        · exact .inr ⟨o, List.mem_cons_self .., h⟩
        · exact .inl h
        · exact .inr ⟨p, List.mem_cons_of_mem o hp, h⟩
      · rintro (h | ⟨p, hp, h⟩)
        · exact .inr (.inl h)
        · rcases List.mem_cons.1 hp with rfl | hp
          · exact .inl h
          · exact .inr (.inr ⟨p, hp, h⟩)
    | load answer => exact ⟨fun h => h.resolve_left List.not_mem_nil, .inr⟩
    | other => exact ⟨fun h => h.resolve_left List.not_mem_nil, .inr⟩

/-- A wish is that of an upsert. -/
theorem mem_wishes {last : UInt64} {acts : List Act} {q : FetchRequest} :
    q ∈ wishes last acts ↔
      ∃ k, (updatesOf acts)[k]? = some ⟨q.ruleId, .upsert⟩ ∧ q.seq = seqAt last k := by
  induction acts generalizing last with
  | nil => simp [wishes, gather, updatesOf]
  | cons a rest ih =>
    have hcons : wishes last (a :: rest) = a.wishes last ++ wishes (a.next last) rest := rfl
    rw [hcons, List.mem_append, ih]
    cases a with
    | update u =>
      obtain ⟨name, action⟩ := u
      have hupdates : updatesOf (.update ⟨name, action⟩ :: rest) =
          ⟨name, action⟩ :: updatesOf rest := rfl
      rw [hupdates]
      constructor
      · rintro (h | ⟨k, hk, hseq⟩)
        · cases action with
          | delete => cases h
          | upsert =>
            rw [Act.wishes, List.mem_singleton] at h
            exact ⟨0, by rw [h]; rfl, by rw [h]; rfl⟩
        · exact ⟨k + 1, hk, by rw [seqAt_succ]; exact hseq⟩
      · rintro ⟨k, hk, hseq⟩
        cases k with
        | zero =>
          rw [List.getElem?_cons_zero, Option.some.injEq, RuleUpdate.mk.injEq] at hk
          obtain ⟨rfl, rfl⟩ := hk
          obtain ⟨seq, id⟩ := q
          rw [seqAt_zero] at hseq
          cases hseq
          exact .inl (List.mem_singleton.2 rfl)
        | succ k => exact .inr ⟨k, hk, by rw [seqAt_succ] at hseq; exact hseq⟩
    | outcome o => exact ⟨fun h => h.resolve_left List.not_mem_nil, .inr⟩
    | load answer => exact ⟨fun h => h.resolve_left List.not_mem_nil, .inr⟩
    | other => exact ⟨fun h => h.resolve_left List.not_mem_nil, .inr⟩

/-- As long as the numbers do not run out, no two wishes have the same. -/
theorem nodup_wishes {last : UInt64} {acts : List Act}
    (h : last.toNat + (updatesOf acts).length < 2 ^ 64) :
    ((wishes last acts).map FetchRequest.seq).Nodup := by
  induction acts generalizing last with
  | nil => exact List.nodup_nil
  | cons a rest ih =>
    have hcons : wishes last (a :: rest) = a.wishes last ++ wishes (a.next last) rest := rfl
    rw [hcons]
    cases a with
    | update u =>
      obtain ⟨name, action⟩ := u
      have hlength : (updatesOf (.update ⟨name, action⟩ :: rest)).length =
          (updatesOf rest).length + 1 := rfl
      rw [hlength] at h
      have hnext : (last + 1).toNat = last.toNat + 1 := toNat_seqAt (k := 0) (by omega)
      have hrest : ((wishes (last + 1) rest).map FetchRequest.seq).Nodup := ih (by omega)
      cases action with
      | delete => exact hrest
      | upsert =>
        refine List.nodup_cons.2 ⟨fun hmem => ?_, hrest⟩
        obtain ⟨q, hq, hseq⟩ := List.mem_map.1 hmem
        obtain ⟨k, hk, hnumber⟩ := mem_wishes.1 hq
        have hlt := (List.getElem?_eq_some_iff.1 hk).1
        have hlater : last + 1 < q.seq := by
          rw [hnumber]
          exact lt_seqAt (by omega)
        rw [hseq] at hlater
        exact UInt64.lt_irrefl _ hlater
    | outcome o => exact ih h
    | load answer => exact ih h
    | other => exact ih h

/-! ### Changes and updates -/

section
variable {r : Replica} {acts : List Act} {l : Lane}

theorem change?_eq_some {o : FetchOutcome} {c : Change} (h : o.change? = some c) :
    ∃ rule, c = .upsert o.seq rule ∧ rule.id = o.ruleId := by
  obtain ⟨seq, id, answer⟩ := o
  unfold FetchOutcome.change? at h
  dsimp only at h
  split at h
  · next d =>
    cases hc : Rule.compile id d with
    | error error =>
      rw [hc] at h
      cases h
    | ok rule =>
      rw [hc] at h
      cases h
      exact ⟨rule, rfl, Rule.id_of_compile hc⟩
  · cases h

/-- What is taken was wished for. -/
theorem Traced.mem_wishes_of_outcome (h : Traced r acts l) {o : FetchOutcome}
    (ho : o ∈ outcomesOf acts) : request o ∈ wishes r.lastIssued acts :=
  h.asked.subset (List.mem_append_left _ (List.mem_map_of_mem ho))

/-- Two outcomes with one number are one outcome. -/
theorem Traced.outcome_unique (h : Traced r acts l)
    (hlen : r.lastIssued.toNat + (updatesOf acts).length < 2 ^ 64) {o p : FetchOutcome}
    (ho : o ∈ outcomesOf acts) (hp : p ∈ outcomesOf acts) (hseq : o.seq = p.seq) : o = p := by
  have hwishes := nodup_wishes hlen
  have hasked := (List.sublist_append_left _ l.inFlight).subperm.trans h.asked
  obtain ⟨requests, hperm, hsublist⟩ := hasked
  have hnodup : (((outcomesOf acts).map request).map FetchRequest.seq).Nodup :=
    (hperm.map FetchRequest.seq).nodup_iff.1 (hwishes.sublist (hsublist.map FetchRequest.seq))
  rw [List.map_map] at hnodup
  exact List.inj_on_of_nodup_map hnodup ho hp hseq

/-- The update that a change is the work of. -/
theorem Traced.exists_update_of_change (h : Traced r acts l) {c : Change}
    (hc : c ∈ changes r.lastIssued acts) :
    ∃ k action, (updatesOf acts)[k]? = some ⟨c.id, action⟩ ∧ c.seq = seqAt r.lastIssued k ∧
      (action = .delete → c.rule? = none) := by
  rcases mem_changes.1 hc with ⟨k, id, hk, rfl⟩ | ⟨o, ho, hchange⟩
  · exact ⟨k, .delete, hk, rfl, fun _ => rfl⟩
  · obtain ⟨rule, rfl, hid⟩ := change?_eq_some hchange
    obtain ⟨k, hk, hseq⟩ := mem_wishes.1 (h.mem_wishes_of_outcome ho)
    refine ⟨k, .upsert, ?_, hseq, fun h => by cases h⟩
    rw [hk]
    show some (RuleUpdate.mk o.ruleId .upsert) = some ⟨rule.id, .upsert⟩
    rw [hid]

/-- Two changes with one number are one change. -/
theorem Traced.change_unique (h : Traced r acts l)
    (hlen : r.lastIssued.toNat + (updatesOf acts).length < 2 ^ 64) {c d : Change}
    (hc : c ∈ changes r.lastIssued acts) (hd : d ∈ changes r.lastIssued acts)
    (hseq : c.seq = d.seq) : c = d := by
  have hplace {j k : Nat} {u v : RuleUpdate} (hj : (updatesOf acts)[j]? = some u)
      (hk : (updatesOf acts)[k]? = some v)
      (heq : seqAt r.lastIssued j = seqAt r.lastIssued k) : u = v := by
    have hjk := seqAt_inj hlen (List.getElem?_eq_some_iff.1 hj).1
      (List.getElem?_eq_some_iff.1 hk).1 heq
    rw [hjk, hk] at hj
    cases hj
    rfl
  rcases mem_changes.1 hc with ⟨j, id, hj, rfl⟩ | ⟨o, ho, hco⟩
  · rcases mem_changes.1 hd with ⟨k, id', hk, rfl⟩ | ⟨p, hp, hdp⟩
    · cases hplace hj hk hseq
      rw [show seqAt r.lastIssued j = seqAt r.lastIssued k from hseq]
    · obtain ⟨rule, rfl, -⟩ := change?_eq_some hdp
      obtain ⟨k, hk, hk'⟩ := mem_wishes.1 (h.mem_wishes_of_outcome hp)
      cases hplace hj hk (hseq.trans hk')
  · obtain ⟨rule, rfl, -⟩ := change?_eq_some hco
    obtain ⟨j, hj, hj'⟩ := mem_wishes.1 (h.mem_wishes_of_outcome ho)
    rcases mem_changes.1 hd with ⟨k, id', hk, rfl⟩ | ⟨p, hp, hdp⟩
    · cases hplace hj hk (hj'.symm.trans hseq)
    · obtain ⟨rule', rfl, -⟩ := change?_eq_some hdp
      cases h.outcome_unique hlen ho hp hseq
      exact Option.some.inj (hco.symm.trans hdp)

/-- The change of the last update of an id comes after all others of that id. -/
theorem Traced.tops (h : Traced r acts l)
    (hlen : r.lastIssued.toNat + (updatesOf acts).length < 2 ^ 64) {c : Change} {k : Nat}
    {action : UpdateAction} (hc : c ∈ changes r.lastIssued acts)
    (hlast : LastFor (updatesOf acts) k ⟨c.id, action⟩) (hseq : c.seq = seqAt r.lastIssued k) :
    Registry.Tops c (changes r.lastIssued acts) := by
  intro d hd hid
  obtain ⟨j, other, hj, hnumber, -⟩ := h.exists_update_of_change hd
  have hjk : j ≤ k := hlast.last j _ hj hid
  have hk := (List.getElem?_eq_some_iff.1 hlast.here).1
  rcases Nat.lt_or_eq_of_le hjk with hlt | rfl
  · right
    rw [hnumber, hseq]
    exact seqAt_lt (by omega) hlt
  · exact .inl (h.change_unique hlen hd hc (hnumber.trans hseq.symm))

/-- A registry that a replica may begin with, whose last update has a number. -/
structure Grounded (last : UInt64) (base : Registry) : Prop where
  numbered : base.Numbered
  keyed : base.Keyed
  le : base.lastSeq ≤ last

theorem grounded_ofRules (last : UInt64) (rules : List Rule) :
    Grounded last (Registry.ofRules rules) where
  numbered := Registry.numbered_ofRules rules
  keyed := Registry.keyed_ofRules rules
  le := by
    rw [Registry.lastSeq_ofRules]
    exact UInt64.zero_le

/-- **What the last update of an id made of it is what the registry shows.** -/
theorem Traced.shows (h : Traced r acts l)
    (hlen : r.lastIssued.toNat + (updatesOf acts).length < 2 ^ 64) {base : Registry}
    (hbase : Grounded r.lastIssued base) {c : Change} {k : Nat} {action : UpdateAction}
    (hc : c ∈ changes r.lastIssued acts) (hlast : LastFor (updatesOf acts) k ⟨c.id, action⟩)
    (hseq : c.seq = seqAt r.lastIssued k) :
    (base.applyAll (changes r.lastIssued acts)).Shows c := by
  refine Registry.shows_applyAll hc (h.tops hlen hc hlast hseq) fun version hversion => ?_
  have hk := (List.getElem?_eq_some_iff.1 hlast.here).1
  have hlater : r.lastIssued < c.seq := by
    rw [hseq]
    exact lt_seqAt (by omega)
  exact UInt64.le_trans (UInt64.le_trans (hbase.numbered c.id version hversion) hbase.le)
    (UInt64.le_of_lt hlater)

/-- No change has a number beyond the last update's. -/
theorem Traced.seq_le (h : Traced r acts l)
    (hlen : r.lastIssued.toNat + (updatesOf acts).length < 2 ^ 64) {c : Change}
    (hc : c ∈ changes r.lastIssued acts) : c.seq ≤ Lane.issued r.lastIssued acts := by
  obtain ⟨k, action, hk, hseq, -⟩ := h.exists_update_of_change hc
  have hlt := (List.getElem?_eq_some_iff.1 hk).1
  rw [hseq, issued_eq, UInt64.le_iff_toNat_le, toNat_seqAt (by omega), UInt64.toNat_add,
    UInt64.toNat_ofNat', Nat.mod_eq_of_lt (a := (updatesOf acts).length) (by omega),
    Nat.mod_eq_of_lt (by omega)]
  omega

end

end Lane
end Watchpost
