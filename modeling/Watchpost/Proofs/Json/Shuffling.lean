import Mathlib.Data.List.Forall2
import Watchpost.Json.Draft
import Watchpost.Proofs.Table

/-! The order of members.

Two texts may hold the same members, in their records and in the records within, and differ in the
order of those with different names (`Draft.SameMembers`). They have the same value then
(`SameMembers.value?_eq`). -/
namespace Watchpost.Json

open Table (under under_cons mem_under_iff under_eq_of_perm)

/-! ### Records that hold the same members -/

/-- The members of each name are the same and in the same order. -/
inductive Draft.SameMembers : Draft → Draft → Prop where
  | leaf (value : Option Json) : SameMembers (.leaf value) (.leaf value)
  | list {xs ys : List Draft} (h : List.Forall₂ SameMembers xs ys) :
      SameMembers (.list xs) (.list ys)
  | record {ms ns : List (Option String × Draft)}
      (h : ∀ name, List.Forall₂ SameMembers (under name ms) (under name ns)) :
      SameMembers (.record ms) (.record ns)

namespace Draft

theorem SameMembers.refl : (d : Draft) → d.SameMembers d
  | .leaf value => .leaf value
  | .list items => .list (List.forall₂_same.2 fun d _ => refl d)
  | .record members => .record fun name => List.forall₂_same.2 fun d hd =>
      have := mem_under_iff.1 hd
      refl d
termination_by d => sizeOf d
decreasing_by
  · have := List.sizeOf_lt_of_mem ‹d ∈ items›
    rw [list.sizeOf_spec]
    omega
  · have := List.sizeOf_lt_of_mem ‹(name, d) ∈ members›
    rw [Prod.mk.sizeOf_spec] at this
    rw [record.sizeOf_spec]
    omega

/-- Members with different names may stand in any order. -/
theorem sameMembers_of_perm {ms ks ns : List (Option String × Draft)} (hperm : ms.Perm ks)
    (hdistinct : (ms.map (·.1)).Nodup)
    (h : List.Forall₂ (fun m n => m.1 = n.1 ∧ m.2.SameMembers n.2) ks ns) :
    SameMembers (.record ms) (.record ns) := by
  refine .record fun name => ?_
  rw [under_eq_of_perm hperm hdistinct]
  clear hperm
  induction h with
  | nil => exact .nil
  | cons hfirst hrest ih =>
    rw [under_cons, under_cons, hfirst.1]
    split
    · exact .cons hfirst.2 ih
    · exact ih

/-! ### Their values -/

theorem membersWithin_cons {levels : Nat} {m : Option String × Draft}
    {rest : List (Option String × Draft)} {js : List (String × Json)} :
    membersWithin levels (m :: rest) = some js ↔
      ∃ name j more, m.1 = some name ∧ m.2.valueWithin levels = some j ∧
        membersWithin levels rest = some more ∧ js = (name, j) :: more := by
  obtain ⟨name, d⟩ := m
  simp only [membersWithin, Option.bind_eq_bind, Option.bind_eq_some_iff, pure, Option.some.injEq]
  constructor
  · rintro ⟨name, rfl, j, hj, more, hmore, rfl⟩
    exact ⟨name, j, more, rfl, hj, hmore, rfl⟩
  · rintro ⟨name, j, more, rfl, hj, hmore, rfl⟩
    exact ⟨name, rfl, j, hj, more, hmore, rfl⟩

/-- The values of the members of one name. -/
theorem values_under {levels : Nat} {ms : List (Option String × Draft)} {js : List (String × Json)}
    (h : membersWithin levels ms = some js) (name : String) :
    (under (some name) ms).map (valueWithin levels) = (under name js).map some := by
  induction ms generalizing js with
  | nil =>
    cases h
    rfl
  | cons m rest ih =>
    obtain ⟨other, j, more, hname, hvalue, hmore, rfl⟩ := membersWithin_cons.1 h
    rw [under_cons, under_cons, hname]
    by_cases heq : other = name
    · rw [if_pos (beq_iff_eq.2 (congrArg some heq)), if_pos (beq_iff_eq.2 heq), List.map_cons,
        List.map_cons, hvalue, ih hmore]
    · rw [if_neg (mt beq_iff_eq.1 fun h => heq (Option.some.inj h)), if_neg (mt beq_iff_eq.1 heq),
        ih hmore]

/-- Members have values if each of them has a name and a value. -/
theorem isSome_membersWithin_iff {levels : Nat} {ms : List (Option String × Draft)} :
    (membersWithin levels ms).isSome = true ↔
      ∀ m ∈ ms, m.1.isSome = true ∧ (m.2.valueWithin levels).isSome = true := by
  induction ms with
  | nil => exact ⟨nofun, fun _ => rfl⟩
  | cons m rest ih =>
    rw [List.forall_mem_cons, ← ih, Option.isSome_iff_exists]
    constructor
    · rintro ⟨js, h⟩
      obtain ⟨name, j, more, hname, hj, hmore, rfl⟩ := membersWithin_cons.1 h
      rw [hname, hj, hmore]
      exact ⟨⟨rfl, rfl⟩, rfl⟩
    · rintro ⟨⟨hname, hvalue⟩, hmore⟩
      obtain ⟨name, hname⟩ := Option.isSome_iff_exists.1 hname
      obtain ⟨j, hj⟩ := Option.isSome_iff_exists.1 hvalue
      obtain ⟨more, hmore⟩ := Option.isSome_iff_exists.1 hmore
      exact ⟨_, membersWithin_cons.2 ⟨name, j, more, hname, hj, hmore, rfl⟩⟩

theorem isSome_membersWithin_iff_under {levels : Nat} {ms : List (Option String × Draft)} :
    (membersWithin levels ms).isSome = true ↔
      ∀ name, ∀ v ∈ (under name ms).map (valueWithin levels), name.isSome = true ∧ v.isSome = true := by
  rw [isSome_membersWithin_iff]
  constructor
  · intro h name v hv
    obtain ⟨d, hd, rfl⟩ := List.mem_map.1 hv
    exact h (name, d) (mem_under_iff.1 hd)
  · exact fun h m hm => h m.1 _ (List.mem_map_of_mem (mem_under_iff.2 hm))

theorem ofMembers_eq (js : List (String × Json)) :
    Json.ofMembers js = .record (Table.ofList js).entries := by
  have hfoldl (t : Table Json) : (js.foldl (fun t e => t.insert e.1 e.2) t).entries =
      js.foldl (fun soFar m => Table.insertEntry m.1 m.2 soFar) t.entries := by
    induction js generalizing t with
    | nil => rfl
    | cons m rest ih => exact ih (t.insert m.1 m.2)
  exact congrArg Json.record (hfoldl Table.empty).symm

/-- Records are the same when the members of each name are. -/
theorem ofMembers_congr {js ks : List (String × Json)} (h : ∀ name, under name js = under name ks) :
    Json.ofMembers js = Json.ofMembers ks := by
  rw [ofMembers_eq, ofMembers_eq, Table.ofList_congr h]

theorem recordWithin_congr {levels : Nat} {ms ns : List (Option String × Draft)}
    (h : ∀ name, (under name ms).map (valueWithin levels) = (under name ns).map (valueWithin levels)) :
    (membersWithin levels ms).map Json.ofMembers = (membersWithin levels ns).map Json.ofMembers := by
  have hsome : (membersWithin levels ms).isSome = (membersWithin levels ns).isSome := by
    rw [Bool.eq_iff_iff, isSome_membersWithin_iff_under, isSome_membersWithin_iff_under]
    simp only [h]
  cases hms : membersWithin levels ms with
  | none =>
    rw [hms] at hsome
    rw [Option.isSome_eq_false_iff.1 hsome.symm |> Option.isNone_iff_eq_none.1]
  | some js =>
    rw [hms] at hsome
    obtain ⟨ks, hns⟩ := Option.isSome_iff_exists.1 hsome.symm
    rw [hns, Option.map_some, Option.map_some]
    refine congrArg some (ofMembers_congr fun name => ?_)
    have hvalues := h (some name)
    rw [values_under hms, values_under hns] at hvalues
    exact List.map_injective_iff.2 (fun _ _ => Option.some.inj) hvalues

/-- **Texts that hold the same members have the same value**, however deep it may be. -/
theorem SameMembers.valueWithin_eq {d d' : Draft} (h : d.SameMembers d') (levels : Nat) :
    d.valueWithin levels = d'.valueWithin levels := by
  induction levels generalizing d d' with
  | zero =>
    cases h with
    | leaf value => rfl
    | list h => rw [valueWithin, valueWithin]
    | record h => rw [valueWithin, valueWithin]
  | succ levels ih =>
    have hvalues {xs ys : List Draft} (h : List.Forall₂ SameMembers xs ys) :
        xs.map (valueWithin levels) = ys.map (valueWithin levels) := by
      induction h with
      | nil => rfl
      | cons hfirst hrest ihrest => rw [List.map_cons, List.map_cons, ih hfirst, ihrest]
    have hitems {xs ys : List Draft} (h : List.Forall₂ SameMembers xs ys) :
        valuesWithin levels xs = valuesWithin levels ys := by
      induction h with
      | nil => rfl
      | cons hfirst hrest ihrest => rw [valuesWithin, valuesWithin, ih hfirst, ihrest]
    cases h with
    | leaf value => rfl
    | list h => rw [valueWithin, valueWithin, hitems h]
    | record h =>
      rw [valueWithin, valueWithin]
      exact recordWithin_congr fun name => hvalues (h name)

theorem SameMembers.value?_eq {d d' : Draft} (h : d.SameMembers d') : d.value? = d'.value? :=
  h.valueWithin_eq maxDepth

end Draft
end Watchpost.Json
