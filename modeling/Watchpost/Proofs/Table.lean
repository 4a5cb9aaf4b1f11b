import Mathlib.Data.List.Nodup
import Watchpost.Table

/-! What tables are made of.

Entries are put into a table one after the other, so of those with one name the last one counts
(`get?_ofList`), and the order of entries with different names does not (`ofList_congr`). The
entries of a table make that table again (`ofList_entries`). -/
namespace Watchpost.Table

variable {κ : Type} [BEq κ]

/-- What stands under a name, in order. -/
def under (name : κ) (entries : List (κ × α)) : List α :=
  (entries.filter (·.1 == name)).map (·.2)

theorem under_cons (name : κ) (e : κ × α) (entries : List (κ × α)) :
    under name (e :: entries) =
      if e.1 == name then e.2 :: under name entries else under name entries := by
  unfold under
  rw [List.filter_cons]
  split <;> rfl

theorem under_append (name : κ) (xs ys : List (κ × α)) :
    under name (xs ++ ys) = under name xs ++ under name ys := by
  rw [under, List.filter_append, List.map_append]
  rfl

theorem mem_under_iff [LawfulBEq κ] {name : κ} {value : α} {entries : List (κ × α)} :
    value ∈ under name entries ↔ (name, value) ∈ entries := by
  simp only [under, List.mem_map, List.mem_filter, beq_iff_eq]
  constructor
  · rintro ⟨e, ⟨he, rfl⟩, rfl⟩
    exact he
  · exact fun h => ⟨(name, value), ⟨h, rfl⟩, rfl⟩

/-- Under a name of its own there is one entry at most, wherever it stands. -/
theorem under_eq_of_perm [LawfulBEq κ] {xs ys : List (κ × α)} (h : xs.Perm ys)
    (hdistinct : (xs.map (·.1)).Nodup) (name : κ) : under name xs = under name ys := by
  have hperm : (under name xs).Perm (under name ys) := (h.filter _).map _
  have hlength : (under name xs).length = (xs.map (·.1)).count name := by
    rw [under, List.length_map, List.count, List.countP_map, List.countP_eq_length_filter]
    rfl
  have hone : (under name xs).length ≤ 1 := hlength ▸ List.nodup_iff_count_le_one.1 hdistinct name
  match hxs : under name xs, hone with
  | [], _ =>
    rw [hxs] at hperm
    exact (List.nil_perm.1 hperm).symm
  | [a], _ =>
    rw [hxs] at hperm
    exact List.singleton_perm.1 hperm

/-! ### Tables of entries -/

theorem get?_foldl_insert (entries : List (String × α)) (t : Table α) (name : String) :
    (entries.foldl (fun t e => t.insert e.1 e.2) t).get? name =
      (under name entries).getLast?.or (t.get? name) := by
  induction entries generalizing t with
  | nil => rfl
  | cons e rest ih =>
    rw [List.foldl_cons, ih, get?_insert, under_cons]
    by_cases h : e.1 = name
    · rw [if_pos h.symm, if_pos (beq_iff_eq.2 h), List.getLast?_cons]
      cases (under name rest).getLast? <;> rfl
    · rw [if_neg (Ne.symm h), if_neg (mt beq_iff_eq.1 h)]

/-- **Of several entries with one name the last one counts.** -/
theorem get?_ofList (entries : List (String × α)) (name : String) :
    (ofList entries).get? name = (under name entries).getLast? := by
  rw [ofList, get?_foldl_insert, get?_empty, Option.or_none]

/-- **Only entries with one name have an order.** -/
theorem ofList_congr {xs ys : List (String × α)} (h : ∀ name, under name xs = under name ys) :
    ofList xs = ofList ys :=
  Table.ext fun name => by rw [get?_ofList, get?_ofList, h]

theorem insertEntry_behind {name other : String} (h : other < name) (value first : α)
    (rest : List (String × α)) :
    insertEntry name value ((other, first) :: rest) = (other, first) :: insertEntry name value rest := by
  have hne : name ≠ other := fun heq => String.lt_irrefl name (heq ▸ h)
  rw [insertEntry, if_neg (String.lt_asymm h), if_neg hne]

theorem insertEntry_last {name : String} (value : α) {entries : List (String × α)}
    (h : ∀ e ∈ entries, e.1 < name) : insertEntry name value entries = entries ++ [(name, value)] := by
  induction entries with
  | nil => rfl
  | cons e rest ih =>
    have hrest := ih fun d hd => h d (List.mem_cons_of_mem e hd)
    rw [insertEntry_behind (h e (List.mem_cons_self ..)), hrest]
    rfl

theorem entries_foldl_insert (entries : List (String × α)) (t : Table α)
    (h : (t.entries ++ entries).Pairwise fun a b => a.1 < b.1) :
    (entries.foldl (fun t e => t.insert e.1 e.2) t).entries = t.entries ++ entries := by
  induction entries generalizing t with
  | nil => exact (List.append_nil _).symm
  | cons e rest ih =>
    have hfirst : ∀ d ∈ t.entries, d.1 < e.1 := fun d hd =>
      (List.pairwise_append.1 h).2.2 d hd e (List.mem_cons_self ..)
    have hinsert : (t.insert e.1 e.2).entries = t.entries ++ [e] := insertEntry_last e.2 hfirst
    have hsame : (t.insert e.1 e.2).entries ++ rest = t.entries ++ e :: rest := by
      rw [hinsert, List.append_assoc]
      rfl
    rw [List.foldl_cons, ih (t.insert e.1 e.2) (by rw [hsame]; exact h), hsame]

/-- The entries of a table make that table again. -/
theorem ofList_entries (t : Table α) : ofList t.entries = t := by
  have h := entries_foldl_insert t.entries empty t.ordered
  obtain ⟨entries, ordered⟩ := t
  unfold ofList
  generalize entries.foldl (fun t e => t.insert e.1 e.2) empty = u at h ⊢
  obtain ⟨_, _⟩ := u
  cases h
  rfl

/-- Of what comes from the entries of a table under a name, the last comes from the greatest
entry. -/
theorem getLast?_under_filterMap (t : Table α) (f : String × α → Option (String × β)) (name : String) :
    (∃ e ∈ t.entries, ∃ value, f e = some (name, value) ∧
      (∀ d ∈ t.entries, ∀ other, f d = some (name, other) → d.1 ≤ e.1) ∧
      (under name (t.entries.filterMap f)).getLast? = some value) ∨
    (∀ e ∈ t.entries, ∀ value, f e ≠ some (name, value)) ∧
      (under name (t.entries.filterMap f)).getLast? = none := by
  obtain ⟨entries, ordered⟩ := t
  dsimp only
  induction entries with
  | nil => exact .inr ⟨nofun, rfl⟩
  | cons a rest ih =>
    obtain ⟨hfirst, hrest⟩ := List.pairwise_cons.1 ordered
    have hsplit : (a :: rest).filterMap f = (f a).toList ++ rest.filterMap f := by
      rw [List.filterMap_cons]
      cases f a <;> rfl
    rw [hsplit, under_append, List.getLast?_append]
    rcases ih hrest with ⟨e, he, value, hvalue, hgreatest, hlast⟩ | ⟨hnone, hlast⟩
    · refine .inl ⟨e, List.mem_cons_of_mem a he, value, hvalue, ?_, by rw [hlast, Option.some_or]⟩
      intro d hd other hother
      rcases List.mem_cons.1 hd with rfl | hd
      · exact String.not_lt.1 (String.lt_asymm (hfirst e he))
      · exact hgreatest d hd other hother
    · rw [hlast, Option.none_or]
      by_cases ha : ∃ value, f a = some (name, value)
      · obtain ⟨value, hvalue⟩ := ha
        refine .inl ⟨a, List.mem_cons_self, value, hvalue, ?_, ?_⟩
        · intro d hd other hother
          rcases List.mem_cons.1 hd with rfl | hd
          · exact String.le_refl _
          · exact absurd hother (hnone d hd other)
        · rw [hvalue, Option.toList_some, under_cons, if_pos (beq_iff_eq.2 rfl)]
          rfl
      · refine .inr ⟨fun e he value hvalue => ?_, ?_⟩
        · rcases List.mem_cons.1 he with rfl | he
          · exact ha ⟨value, hvalue⟩
          · exact hnone e he value hvalue
        · cases hfa : f a with
          | none => rfl
          | some b =>
            have hne : b.1 ≠ name := fun h => ha ⟨b.2, by rw [hfa, ← h]⟩
            rw [Option.toList_some, under_cons, if_neg (mt beq_iff_eq.1 hne)]
            rfl

/-! ### Changed and chosen values -/

theorem get?_map (f : String → α → β) (t : Table α) (name : String) :
    (t.map f).get? name = (t.get? name).map (f name) := by
  refine Option.ext fun value => ?_
  rw [get?_eq_some_iff, Option.map_eq_some_iff]
  constructor
  · intro h
    obtain ⟨⟨_, a⟩, ha, heq⟩ := List.mem_map.1 h
    cases heq
    exact ⟨a, get?_eq_some_iff.2 ha, rfl⟩
  · rintro ⟨a, ha, rfl⟩
    exact List.mem_map.2 ⟨_, get?_eq_some_iff.1 ha, rfl⟩

theorem get?_filter (keep : String → α → Bool) (t : Table α) (name : String) :
    (t.filter keep).get? name = (t.get? name).filter (keep name) := by
  refine Option.ext fun value => ?_
  rw [get?_filter_eq_some_iff, Option.filter_eq_some_iff]

end Watchpost.Table
