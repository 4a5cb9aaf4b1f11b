/-! Tables: values under names, the names in ascending order.

The order is that of the characters' code points, which is that of the bytes they
are stored as. Since a table has one form for what it holds, tables are equal when
they hold the same (`Table.ext`). -/
namespace Watchpost

/-- Entries are in ascending order, so no name comes twice. -/
structure Table (α : Type u) where
  entries : List (String × α)
  ordered : entries.Pairwise (fun a b => a.1 < b.1)

namespace Table

/-! ### Entries -/

/-- Puts a value under a name, in the place of an earlier one. -/
def insertEntry (name : String) (value : α) : List (String × α) → List (String × α)
  | [] => [(name, value)]
  | e :: rest =>
    if name < e.1 then (name, value) :: e :: rest
    else if name = e.1 then (name, value) :: rest
    else e :: insertEntry name value rest

theorem mem_insertEntry {name : String} {value : α} {entries : List (String × α)}
    {e : String × α} (h : e ∈ insertEntry name value entries) :
    e = (name, value) ∨ e ∈ entries := by
  induction entries with
  | nil => exact .inl (by simpa [insertEntry] using h)
  | cons a rest ih =>
    unfold insertEntry at h
    split at h
    · simpa using h
    · split at h
      · rcases List.mem_cons.1 h with rfl | h
        · exact .inl rfl
        · exact .inr (List.mem_cons_of_mem _ h)
      · rcases List.mem_cons.1 h with rfl | h
        · exact .inr (List.mem_cons_self ..)
        · exact (ih h).imp_right (List.mem_cons_of_mem _)

theorem lt_of_not_lt_of_ne {a b : String} (h : ¬a < b) (hne : a ≠ b) : b < a := by
  rcases String.le_total a b with hab | hba
  · exact absurd (String.le_antisymm hab (String.not_lt.1 h)) hne
  · exact String.not_le.1 fun hab => hne (String.le_antisymm hab hba)

theorem ordered_insertEntry (name : String) (value : α) {entries : List (String × α)}
    (h : entries.Pairwise (fun a b => a.1 < b.1)) :
    (insertEntry name value entries).Pairwise (fun a b => a.1 < b.1) := by
  induction entries with
  | nil => simp [insertEntry]
  | cons a rest ih =>
    have ⟨hfirst, hrest⟩ := List.pairwise_cons.1 h
    unfold insertEntry
    split
    · next hlt =>
      refine List.pairwise_cons.2 ⟨fun b hb => ?_, h⟩
      rcases List.mem_cons.1 hb with rfl | hb
      · exact hlt
      · exact String.lt_trans hlt (hfirst b hb)
    · next hlt =>
      split
      · next heq =>
        subst heq
        exact List.pairwise_cons.2 ⟨hfirst, hrest⟩
      · next hne =>
        refine List.pairwise_cons.2 ⟨fun b hb => ?_, ih hrest⟩
        rcases mem_insertEntry hb with rfl | hb
        · exact lt_of_not_lt_of_ne hlt hne
        · exact hfirst b hb

/-! ### Operations -/

def empty : Table α := ⟨[], .nil⟩

instance : Inhabited (Table α) := ⟨empty⟩

def get? (t : Table α) (name : String) : Option α :=
  (t.entries.find? (·.1 == name)).map (·.2)

def contains (t : Table α) (name : String) : Bool := (t.get? name).isSome

def insert (t : Table α) (name : String) (value : α) : Table α :=
  ⟨insertEntry name value t.entries, ordered_insertEntry name value t.ordered⟩

def erase (t : Table α) (name : String) : Table α :=
  ⟨t.entries.filter (·.1 != name), t.ordered.filter _⟩

def size (t : Table α) : Nat := t.entries.length

def isEmpty (t : Table α) : Bool := t.entries.isEmpty

def names (t : Table α) : List String := t.entries.map (·.1)

def values (t : Table α) : List α := t.entries.map (·.2)

/-- Of several entries with one name, the last one counts. -/
def ofList (entries : List (String × α)) : Table α :=
  entries.foldl (fun t e => t.insert e.1 e.2) empty

/-- Changes every value, which may depend on its name. -/
def map (f : String → α → β) (t : Table α) : Table β :=
  ⟨t.entries.map fun e => (e.1, f e.1 e.2), by
    simpa [List.pairwise_map] using t.ordered⟩

/-- Keeps the entries that a test holds of. -/
def filter (keep : String → α → Bool) (t : Table α) : Table α :=
  ⟨t.entries.filter fun e => keep e.1 e.2, t.ordered.filter _⟩

instance [DecidableEq α] : DecidableEq (Table α) := fun a b =>
  decidable_of_iff (a.entries = b.entries)
    ⟨fun h => by cases a; cases b; cases h; rfl, congrArg entries⟩

/-! ### Look-up -/

theorem get?_eq_some_iff {t : Table α} {name : String} {value : α} :
    t.get? name = some value ↔ (name, value) ∈ t.entries := by
  obtain ⟨entries, ordered⟩ := t
  simp only [get?]
  induction entries with
  | nil => simp
  | cons a rest ih =>
    have ⟨hfirst, hrest⟩ := List.pairwise_cons.1 ordered
    by_cases h : a.1 = name
    · have hnot : (name, value) ∉ rest := fun hm =>
        String.lt_irrefl name (by simpa [h] using hfirst _ hm)
      simp only [List.find?_cons, h, BEq.rfl, Option.map_some, Option.some.injEq, List.mem_cons,
        hnot, or_false]
      constructor
      · rintro rfl
        rw [← h]
      · rintro h'
        rw [← h']
    · have hne : (name, value) ≠ a := fun h' => h (by rw [← h'])
      simp [h, hne, ih hrest]

theorem find?_insertEntry (name : String) (value : α) (entries : List (String × α))
    (other : String) :
    (insertEntry name value entries).find? (·.1 == other) =
      if other = name then some (name, value) else entries.find? (·.1 == other) := by
  induction entries with
  | nil =>
    by_cases h : other = name
    · simp [insertEntry, h]
    · simp [insertEntry, h, Ne.symm h]
  | cons e rest ih =>
    unfold insertEntry
    by_cases h : other = name
    · subst h
      split
      · simp
      · split
        · simp
        · next hne => simp [Ne.symm hne, ih]
    · split
      · simp [Ne.symm h]
      · split
        · next heq => simp [Ne.symm h, ← heq]
        · simp only [List.find?_cons, ih, h, if_false]

@[simp] theorem get?_empty (name : String) : (empty : Table α).get? name = none := rfl

theorem get?_insert (t : Table α) (name : String) (value : α) (other : String) :
    (t.insert name value).get? other = if other = name then some value else t.get? other := by
  unfold get? insert
  rw [find?_insertEntry]
  split <;> rfl

theorem get?_erase (t : Table α) (name other : String) :
    (t.erase name).get? other = if other = name then none else t.get? other := by
  unfold get? erase
  rw [List.find?_filter]
  by_cases h : other = name
  · subst h
    simp
  · have hpred : (fun e : String × α => decide ((e.1 != name) = true ∧ (e.1 == other) = true)) =
        fun e => e.1 == other := by
      funext e
      by_cases he : e.1 = other
      · simp [he, h]
      · simp [he]
    rw [hpred, if_neg h]

theorem get?_filter_eq_some_iff {t : Table α} {keep : String → α → Bool} {name : String}
    {value : α} : (t.filter keep).get? name = some value ↔
      t.get? name = some value ∧ keep name value = true := by
  rw [get?_eq_some_iff, get?_eq_some_iff]
  exact List.mem_filter

theorem mem_values_iff {t : Table α} {value : α} :
    value ∈ t.values ↔ ∃ name, t.get? name = some value := by
  simp [values, get?_eq_some_iff]

/-- Tables that give every name the same value are equal. -/
theorem ext {a b : Table α} (h : ∀ name, a.get? name = b.get? name) : a = b := by
  have mem : ∀ e, e ∈ a.entries ↔ e ∈ b.entries := fun e =>
    (@get?_eq_some_iff _ a e.1 e.2).symm.trans ((h e.1).symm ▸ get?_eq_some_iff)
  obtain ⟨xs, hx⟩ := a
  obtain ⟨ys, hy⟩ := b
  suffices xs = ys by subst this; rfl
  clear h
  dsimp only at mem
  induction xs generalizing ys with
  | nil =>
    cases ys with
    | nil => rfl
    | cons y ys => exact absurd ((mem y).2 (List.mem_cons_self ..)) (List.not_mem_nil)
  | cons x xs ih =>
    cases ys with
    | nil => exact absurd ((mem x).1 (List.mem_cons_self ..)) (List.not_mem_nil)
    | cons y ys =>
      have ⟨hx1, hx2⟩ := List.pairwise_cons.1 hx
      have ⟨hy1, hy2⟩ := List.pairwise_cons.1 hy
      have hxy : x = y := by
        rcases List.mem_cons.1 ((mem x).1 (List.mem_cons_self ..)) with h | h
        · exact h
        · rcases List.mem_cons.1 ((mem y).2 (List.mem_cons_self ..)) with h' | h'
          · exact h'.symm
          · exact absurd (String.lt_trans (hx1 y h') (hy1 x h)) (String.lt_irrefl _)
      subst hxy
      refine congrArg (x :: ·) (ih hx2 ys hy2 fun e => ⟨fun he => ?_, fun he => ?_⟩)
      · rcases List.mem_cons.1 ((mem e).1 (List.mem_cons_of_mem _ he)) with rfl | h
        · exact absurd (hx1 e he) (String.lt_irrefl _)
        · exact h
      · rcases List.mem_cons.1 ((mem e).2 (List.mem_cons_of_mem _ he)) with rfl | h
        · exact absurd (hy1 e he) (String.lt_irrefl _)
        · exact h

end Table
end Watchpost
