import Mathlib.Data.List.Basic
import Mathlib.Data.List.Nodup
import Watchpost.Json.Fields

/-! Fields found one by one.

What is read of a value with named fields is, field by field, what stands under its name in a record
or at its place in a list (`fields?_eq_map`). -/
namespace Watchpost.Json.Draft

/-- What stands under one of some names in a record, or at its place in a list. -/
def member? (names : List String) (name : String) : Draft → Option Draft
  | .leaf _ => none
  | .list items => items[names.idxOf name]?
  | .record members => (members.find? (·.1 == some name)).map (·.2)

theorem find?_members? {names : List String} {members : List (Option String × Draft)}
    {found : List (String × Draft)} (h : members? names members = some found) {name : String}
    (hname : name ∈ names) :
    (found.find? (·.1 == name)).map (·.2) = (members.find? (·.1 == some name)).map (·.2) := by
  induction members generalizing found with
  | nil =>
    cases h
    rfl
  | cons m rest ih =>
    obtain ⟨key, d⟩ := m
    cases key with
    | none => cases h
    | some key =>
      obtain ⟨later, hlater, hkey⟩ := Option.bind_eq_some_iff.1 h
      by_cases heq : key = name
      · subst heq
        rw [List.contains_iff_mem.2 hname, Bool.not_true, if_neg Bool.false_ne_true] at hkey
        split at hkey
        · cases hkey
        · cases hkey
          rw [List.find?_cons_of_pos (by simp), List.find?_cons_of_pos (by simp)]
          rfl
      · have hbehind : (((some key, d) :: rest).find? (·.1 == some name)).map (·.2) =
            (rest.find? (·.1 == some name)).map (·.2) := by
          rw [List.find?_cons_of_neg]
          simpa using heq
        rw [hbehind, ← ih hlater]
        split at hkey
        · cases hkey
          rfl
        · split at hkey
          · cases hkey
          · cases hkey
            rw [List.find?_cons_of_neg]
            simpa using heq

/-- The fields that are read are those that are found. -/
theorem fields?_eq_map {names : List String} (hnames : names.Nodup) {d : Draft}
    {fields : List (Option Draft)} (h : d.fields? names = some fields) :
    fields = names.map fun name => member? names name d := by
  cases d with
  | leaf value => cases h
  | list items =>
    rw [fields?] at h
    split at h
    · cases h
    · next hlength =>
      cases h
      refine List.ext_getElem (by simp; omega) fun i _ hi => ?_
      rw [List.length_map] at hi
      rw [List.getElem_map, member?, hnames.idxOf_getElem i hi, List.getElem_append]
      split
      · next hitem =>
        rw [List.length_map] at hitem
        rw [List.getElem_map, List.getElem?_eq_getElem hitem]
      · next hitem =>
        rw [List.length_map] at hitem
        rw [List.getElem_replicate, List.getElem?_eq_none (Nat.le_of_not_lt hitem)]
  | record members =>
    obtain ⟨found, hfound, rfl⟩ := Option.map_eq_some_iff.1 h
    exact List.map_congr_left fun name hname => find?_members? hfound hname

/-- A field that may be left out is read as what it is found to be. -/
theorem withDefault_eq_some {read : Draft → Option α} {default value : α} {field : Option Draft}
    (h : withDefault read default field = some value) :
    (∀ d ∈ field, (read d).isSome) ∧ value = (field.bind read).getD default := by
  cases field with
  | none =>
    cases h
    exact ⟨fun d hd => (by cases hd), rfl⟩
  | some d =>
    have hread : read d = some value := h
    refine ⟨fun e he => ?_, ?_⟩
    · cases he
      rw [hread]
      rfl
    · rw [Option.bind_some, hread, Option.getD_some]

end Watchpost.Json.Draft
