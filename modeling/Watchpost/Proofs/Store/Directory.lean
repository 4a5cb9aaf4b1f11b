import Mathlib.Data.List.Basic
import Mathlib.Data.List.Forall2
import Mathlib.Data.Set.Card
import Watchpost.Proofs.Text.Bytes
import Watchpost.Store.Directory

/-! Which rules a directory is loaded as.

A file holds a rule or none, whatever else the directory holds (`Holds`). Of the files that hold one
with the same id the first counts, by the bytes of their names (`Loads`), so the order that the
directory lists them in does not matter (`loads_whatever_order`). -/
namespace Watchpost

/-! ### Names of files -/

namespace RuleFile

/-- How the names of files with rules end. -/
inductive Ending : String → Format → Prop where
  | yml : Ending ".yml" .yaml
  | yaml : Ending ".yaml" .yaml
  | json : Ending ".json" .json

theorem splitName_append {stem extension : List Char} (hstem : stem ≠ []) (hpoint : '.' ∉ extension) :
    Format.splitName (String.ofList (stem ++ '.' :: extension)) = (stem, some extension) := by
  have hrun : ∀ c ∈ extension.reverse, (c != '.') = true := by
    intro c hc
    rw [bne_iff_ne]
    rintro rfl
    exact hpoint (List.mem_reverse.1 hc)
  have hbackwards : (stem ++ '.' :: extension).reverse = extension.reverse ++ '.' :: stem.reverse := by
    simp
  have htake : (extension.reverse ++ '.' :: stem.reverse).takeWhile (· != '.') = extension.reverse := by
    rw [List.takeWhile_append_of_pos hrun]
    simp
  have hdrop : (extension.reverse ++ '.' :: stem.reverse).drop (extension.reverse.length + 1) =
      stem.reverse := by
    simp [List.drop_append]
  unfold Format.splitName
  dsimp only
  rw [String.toList_ofList, hbackwards, htake, hdrop, List.reverse_reverse, List.reverse_reverse,
    List.isEmpty_eq_false_iff.2 hstem, if_neg Bool.false_ne_true]

theorem splitName_eq {name : String} {stem extension : List Char}
    (h : Format.splitName name = (stem, some extension)) :
    stem ≠ [] ∧ name = String.ofList (stem ++ '.' :: extension) := by
  unfold Format.splitName at h
  dsimp only at h
  split at h
  · cases h
  · next hempty =>
    cases h
    refine ⟨fun hnil => hempty (List.isEmpty_iff.2 hnil), String.toList_injective ?_⟩
    have hsplit := List.takeWhile_append_dropWhile (p := (· != '.')) (l := name.toList.reverse)
    have hhead := List.head?_dropWhile_not (· != '.') name.toList.reverse
    generalize name.toList.reverse.takeWhile (· != '.') = extension at hsplit hempty ⊢
    generalize name.toList.reverse.dropWhile (· != '.') = rest at hsplit hhead
    rw [← hsplit] at hempty ⊢
    cases rest with
    | nil => simp at hempty
    | cons c rest =>
      have hc : c = '.' := by simpa using hhead
      subst hc
      rw [String.toList_ofList, ← List.reverse_inj, hsplit.symm]
      simp [List.drop_append]

/-- The ending of a name is what follows its last point. -/
theorem splitName_ending {stem ending : String} {format : Format} (hstem : stem ≠ "")
    (h : Ending ending format) :
    Format.splitName (stem ++ ending) = (stem.toList, some (ending.toList.drop 1)) := by
  have hne : stem.toList ≠ [] := fun hnil => hstem (String.toList_eq_nil_iff.1 hnil)
  obtain ⟨hpoint, hcons⟩ : '.' ∉ ending.toList.drop 1 ∧ ending.toList = '.' :: ending.toList.drop 1 := by
    cases h <;> decide
  rw [← splitName_append hne hpoint, ← hcons, String.ofList_append, String.ofList_toList,
    String.ofList_toList]

theorem ofName?_ending {stem ending : String} {format : Format} (hstem : stem ≠ "")
    (h : Ending ending format) :
    Format.ofName? (stem ++ ending) = some format ∧ RuleFile.stem (stem ++ ending) = stem := by
  have hsplit := splitName_ending hstem h
  constructor
  · unfold Format.ofName?
    rw [hsplit]
    cases h <;> rfl
  · rw [RuleFile.stem, hsplit, String.ofList_toList]

/-- A file with a format has a stem and one of the endings. -/
theorem exists_ending {name : String} {format : Format} (h : Format.ofName? name = some format) :
    ∃ stem ending, stem ≠ "" ∧ name = stem ++ ending ∧ Ending ending format := by
  unfold Format.ofName? at h
  rcases hsplit : Format.splitName name with ⟨stem, extension⟩
  rw [hsplit] at h
  cases extension with
  | none => cases h
  | some extension =>
    obtain ⟨hstem, hname⟩ := splitName_eq hsplit
    have hne : String.ofList stem ≠ "" := fun hnil => hstem (String.ofList_eq_empty_iff.1 hnil)
    have hends {ending : String} (hextension : String.ofList extension = ending) :
        name = String.ofList stem ++ ("." ++ ending) := by
      rw [hname, String.ofList_append, ← hextension, ← List.singleton_append, String.ofList_append]
    dsimp only [Option.map_some] at h
    split at h
    · next hextension =>
      cases h
      exact ⟨_, _, hne, hends (Option.some.inj hextension), .yml⟩
    · next hextension =>
      cases h
      exact ⟨_, _, hne, hends (Option.some.inj hextension), .yaml⟩
    · next hextension =>
      cases h
      exact ⟨_, _, hne, hends (Option.some.inj hextension), .json⟩
    · cases h

/-- The id of a rule is the one that its file tells, unless that is blank, or else what the file is
called. -/
inductive Called (stem : String) : Option String → String → Prop where
  | told {id : String} (h : Text.isBlankText id = false) : Called stem (some id) id
  | blank {id : String} (h : Text.isBlankText id = true) : Called stem (some id) stem
  | untold : Called stem none stem

theorem called_iff {stem id : String} {told : Option String} :
    Called stem told id ↔ (told.filter (!Text.isBlankText ·)).getD stem = id := by
  cases told with
  | none =>
    constructor
    · rintro ⟨⟩
      rfl
    · rintro rfl
      exact .untold
  | some other =>
    cases hblank : Text.isBlankText other with
    | true =>
      rw [Option.filter_some, hblank]
      constructor
      · rintro (h | h)
        · rw [hblank] at h
          cases h
        · rfl
      · rintro rfl
        exact .blank hblank
    | false =>
      rw [Option.filter_some, hblank]
      constructor
      · rintro (h | h)
        · rfl
        · rw [hblank] at h
          cases h
      · rintro rfl
        exact .told hblank

end RuleFile

namespace Directory

/-! ### Files that hold rules -/

/-- A file holds a rule under an id: its name tells how it is to be read, it is not too large, and
what it spells is valid. -/
def Holds (d : Directory) (file : String × FileContent) (rule : String × Definition) : Prop :=
  ∃ stem ending format text read, stem ≠ "" ∧ file.1 = stem ++ ending ∧
    RuleFile.Ending ending format ∧ file.2.size ≤ d.maxFileBytes ∧ file.2.text? = some text ∧
    RuleFile.ofText? format text = some read ∧ RuleFile.Called stem read.id rule.1 ∧
    read.definition = rule.2 ∧ rule.2.validate rule.1 = .ok ()

/-- What is read of a file is the rule that it holds. -/
theorem ruleIn_eq_ok_iff {d : Directory} {file : String × FileContent} {rule : String × Definition} :
    d.ruleIn file.1 (some file.2) = .ok rule ↔ d.Holds file rule := by
  obtain ⟨name, content⟩ := file
  obtain ⟨id, definition⟩ := rule
  constructor
  · intro h
    unfold ruleIn at h
    split at h
    · cases h
    · cases h
    · next format content' hformat hcontent =>
      cases hcontent
      split at h
      · cases h
      · next hsize =>
        split at h
        · cases h
        · cases h
        · next read hmap =>
          obtain ⟨text, htext, hread⟩ := Option.map_eq_some_iff.1 hmap
          obtain ⟨stem, ending, hstem, rfl, hending⟩ := RuleFile.exists_ending hformat
          dsimp only at h
          split at h
          · next hvalid =>
            cases h
            rw [(RuleFile.ofName?_ending hstem hending).2] at hvalid ⊢
            exact ⟨stem, ending, format, text, read, hstem, rfl, hending, Nat.le_of_not_lt hsize,
              htext, hread, RuleFile.called_iff.2 rfl, rfl, hvalid⟩
          · cases h
  · rintro ⟨stem, ending, format, text, read, hstem, hname, hending, hsize, htext, hread, hid,
      hdefinition, hvalid⟩
    obtain ⟨hformat, hcalled⟩ := RuleFile.ofName?_ending hstem hending
    dsimp only at hname hsize htext hid hdefinition hvalid
    unfold ruleIn
    dsimp only
    rw [hname, hformat]
    dsimp only
    rw [if_neg (Nat.not_lt.2 hsize), htext, Option.map_some, hread]
    dsimp only
    rw [hcalled, RuleFile.called_iff.1 hid, hdefinition, hvalid]

/-! ### The first file of each id -/

/-- The files with rules whose ids are new, and these rules. -/
def kept (d : Directory) (seen : List String) :
    List (String × FileContent) → List ((String × FileContent) × String × Definition)
  | [] => []
  | file :: rest =>
    match d.ruleIn file.1 (some file.2) with
    | .error _ => d.kept seen rest
    | .ok rule =>
      if rule.1 ∈ seen then d.kept seen rest else (file, rule) :: d.kept (rule.1 :: seen) rest

theorem any_id {found : List (String × Definition)} {id : String} :
    found.any (·.1 == id) = true ↔ id ∈ found.map (·.1) := by
  rw [List.any_eq_true, List.mem_map]
  simp only [beq_iff_eq]

/-- Gathering fails at the first rule that is one too many, and then there are too many in all. -/
theorem gather_eq (d : Directory) {found : List (String × Definition)}
    (files : List (String × FileContent)) (hfound : found.length ≤ d.maxRules) :
    d.gather found files =
      if found.length + (d.kept (found.map (·.1)) files).length ≤ d.maxRules then
        .ok (found.reverse ++ (d.kept (found.map (·.1)) files).map (·.2))
      else .error (.tooMany d.maxRules) := by
  induction files generalizing found with
  | nil =>
    rw [gather, kept, List.length_nil, Nat.add_zero, if_pos hfound, List.map_nil, List.append_nil]
  | cons file rest ih =>
    obtain ⟨name, content⟩ := file
    rw [gather]
    cases hrule : d.ruleIn name (some content) with
    | error e =>
      have hkept (seen : List String) : d.kept seen ((name, content) :: rest) = d.kept seen rest := by
        rw [kept, hrule]
      rw [hkept]
      exact ih hfound
    | ok rule =>
      obtain ⟨id, definition⟩ := rule
      dsimp only
      by_cases hseen : id ∈ found.map (·.1)
      · have hkept : d.kept (found.map (·.1)) ((name, content) :: rest) =
            d.kept (found.map (·.1)) rest := by
          rw [kept, hrule]
          exact if_pos hseen
        rw [if_pos (any_id.2 hseen), hkept]
        exact ih hfound
      · have hkept : d.kept (found.map (·.1)) ((name, content) :: rest) =
            ((name, content), id, definition) ::
              d.kept (((id, definition) :: found).map (·.1)) rest := by
          rw [kept, hrule]
          exact if_neg hseen
        rw [if_neg (mt any_id.1 hseen), hkept, List.length_cons, List.map_cons]
        by_cases hfull : d.maxRules ≤ found.length
        · rw [if_pos hfull, if_neg (by omega)]
        · have hlonger : ((id, definition) :: found).length ≤ d.maxRules := Nat.lt_of_not_le hfull
          rw [if_neg hfull, ih hlonger, List.length_cons, List.reverse_cons,
            List.append_assoc, List.singleton_append, Nat.add_right_comm, Nat.add_assoc]
          rfl

section
variable {d : Directory} {seen : List String} {files : List (String × FileContent)}

theorem kept_sublist (d : Directory) (seen : List String) (files : List (String × FileContent)) :
    ((d.kept seen files).map (·.1)).Sublist files := by
  fun_induction d.kept seen files with
  | case1 seen => exact .slnil
  | case2 seen file rest e h ih => exact .cons file ih
  | case3 seen file rest rule h hseen ih => exact .cons file ih
  | case4 seen file rest rule h hseen ih => exact .cons_cons file ih

theorem holds_of_mem_kept {e : (String × FileContent) × String × Definition}
    (h : e ∈ d.kept seen files) : d.Holds e.1 e.2 := by
  fun_induction d.kept seen files with
  | case1 seen => cases h
  | case2 seen file rest e hrule ih => exact ih h
  | case3 seen file rest rule hrule hseen ih => exact ih h
  | case4 seen file rest rule hrule hseen ih =>
    rcases List.mem_cons.1 h with rfl | h
    · exact ruleIn_eq_ok_iff.1 hrule
    · exact ih h

theorem not_mem_seen_of_mem_kept {e : (String × FileContent) × String × Definition}
    (h : e ∈ d.kept seen files) : e.2.1 ∉ seen := by
  fun_induction d.kept seen files with
  | case1 seen => cases h
  | case2 seen file rest e hrule ih => exact ih h
  | case3 seen file rest rule hrule hseen ih => exact ih h
  | case4 seen file rest rule hrule hseen ih =>
    rcases List.mem_cons.1 h with rfl | h
    · exact hseen
    · exact fun hmem => ih h (List.mem_cons_of_mem _ hmem)

/-- Of several files with one id the first one is kept. -/
theorem kept_nodup (d : Directory) (seen : List String) (files : List (String × FileContent)) :
    ((d.kept seen files).map fun e => e.2.1).Nodup := by
  fun_induction d.kept seen files with
  | case1 seen => exact .nil
  | case2 seen file rest e hrule ih => exact ih
  | case3 seen file rest rule hrule hseen ih => exact ih
  | case4 seen file rest rule hrule hseen ih =>
    refine List.nodup_cons.2 ⟨fun hmem => ?_, ih⟩
    obtain ⟨e, he, heq⟩ := List.mem_map.1 hmem
    exact not_mem_seen_of_mem_kept he (heq ▸ List.mem_cons_self)

/-- Every id is kept, unless it was seen before. -/
theorem exists_mem_kept {file : String × FileContent} {rule : String × Definition}
    (hfile : file ∈ files) (h : d.Holds file rule) :
    rule.1 ∈ seen ∨ ∃ e ∈ d.kept seen files, e.2.1 = rule.1 := by
  fun_induction d.kept seen files with
  | case1 seen => cases hfile
  | case2 seen other rest e hrule ih =>
    rcases List.mem_cons.1 hfile with rfl | hfile
    · rw [ruleIn_eq_ok_iff.2 h] at hrule
      cases hrule
    · exact ih hfile
  | case3 seen other rest found hrule hseen ih =>
    rcases List.mem_cons.1 hfile with rfl | hfile
    · rw [ruleIn_eq_ok_iff.2 h] at hrule
      cases hrule
      exact .inl hseen
    · exact ih hfile
  | case4 seen other rest found hrule hseen ih =>
    rcases List.mem_cons.1 hfile with rfl | hfile
    · rw [ruleIn_eq_ok_iff.2 h] at hrule
      cases hrule
      exact .inr ⟨_, List.mem_cons_self, rfl⟩
    · rcases ih hfile with hmem | ⟨e, he, heq⟩
      · rcases List.mem_cons.1 hmem with heq | hmem
        · exact .inr ⟨_, List.mem_cons_self, heq.symm⟩
        · exact .inl hmem
      · exact .inr ⟨e, List.mem_cons_of_mem _ he, heq⟩

/-- In files that are in order, none before a kept one holds a rule with the same id. -/
theorem kept_first {e : (String × FileContent) × String × Definition}
    (hsorted : files.Pairwise fun a b => a.1 < b.1) (he : e ∈ d.kept seen files)
    {other : String × FileContent} {rule : String × Definition} (hother : other ∈ files)
    (h : d.Holds other rule) (hid : rule.1 = e.2.1) : ¬other.1 < e.1.1 := by
  fun_induction d.kept seen files with
  | case1 seen => cases he
  | case2 seen file rest fault hrule ih =>
    obtain ⟨-, hrest⟩ := List.pairwise_cons.1 hsorted
    rcases List.mem_cons.1 hother with rfl | hother
    · rw [ruleIn_eq_ok_iff.2 h] at hrule
      cases hrule
    · exact ih hrest he hother
  | case3 seen file rest found hrule hseen ih =>
    obtain ⟨-, hrest⟩ := List.pairwise_cons.1 hsorted
    rcases List.mem_cons.1 hother with rfl | hother
    · rw [ruleIn_eq_ok_iff.2 h] at hrule
      cases hrule
      exact absurd (hid ▸ hseen) (not_mem_seen_of_mem_kept he)
    · exact ih hrest he hother
  | case4 seen file rest found hrule hseen ih =>
    obtain ⟨hfirst, hrest⟩ := List.pairwise_cons.1 hsorted
    rcases List.mem_cons.1 he with rfl | hlater
    · rcases List.mem_cons.1 hother with rfl | hother
      · exact String.lt_irrefl _
      · exact String.lt_asymm (hfirst other hother)
    · rcases List.mem_cons.1 hother with rfl | hother
      · rw [ruleIn_eq_ok_iff.2 h] at hrule
        cases hrule
        refine absurd ?_ (not_mem_seen_of_mem_kept hlater)
        rw [← hid]
        exact List.mem_cons_self
      · exact ih hrest hlater hother

end

/-! ### Directories -/

/-- No two files of a directory have one name. -/
def Distinct (files : List (String × FileContent)) : Prop := (files.map (·.1)).Nodup

theorem inOrder_perm (files : List (String × FileContent)) : (inOrder files).Perm files :=
  List.mergeSort_perm files _

theorem inOrder_sorted {files : List (String × FileContent)} (h : Distinct files) :
    (inOrder files).Pairwise fun a b => a.1 < b.1 := by
  have hle : (inOrder files).Pairwise fun a b => decide (a.1 ≤ b.1) = true := by
    refine List.pairwise_mergeSort (fun a b c hab hbc => ?_) (fun a b => ?_) files
    · exact decide_eq_true (String.le_trans (of_decide_eq_true hab) (of_decide_eq_true hbc))
    · rw [Bool.or_eq_true, decide_eq_true_eq, decide_eq_true_eq]
      exact String.le_total a.1 b.1
  have hne : (inOrder files).Pairwise fun a b => a.1 ≠ b.1 :=
    List.pairwise_map.1 (((inOrder_perm files).map _).nodup_iff.2 h)
  refine (hle.and hne).imp fun {a b} hab => ?_
  have hle : ¬b.1 < a.1 := String.not_lt.2 (of_decide_eq_true hab.1)
  exact Table.lt_of_not_lt_of_ne hle hab.2.symm

/-- Names that differ have one order, however they are listed. -/
theorem inOrder_eq_of_perm {files listing : List (String × FileContent)} (h : Distinct files)
    (hperm : listing.Perm files) : inOrder listing = inOrder files := by
  have hlisting : Distinct listing := ((hperm.map _).nodup_iff).2 h
  refine List.Perm.eq_of_pairwise (fun a b _ _ hab hba => ?_) (inOrder_sorted hlisting)
    (inOrder_sorted h) ((inOrder_perm listing).trans (hperm.trans (inOrder_perm files).symm))
  exact absurd hba (String.lt_asymm hab)

/-- A file is the first of those that hold rules with the same id, by the bytes of the names. -/
structure IsFirst (d : Directory) (files : List (String × FileContent))
    (file : String × FileContent) (rule : String × Definition) : Prop where
  mem : file ∈ files
  holds : d.Holds file rule
  first : ∀ other ∈ files, ∀ definition, d.Holds other (rule.1, definition) →
    ¬Text.bytes other.1.toList < Text.bytes file.1.toList

/-- What files are loaded as: one rule for each id, from the first file that holds one with it, and
the rules in the order of these files' names. -/
structure Loads (d : Directory) (files : List (String × FileContent))
    (rules : List (String × Definition)) : Prop where
  distinct : (rules.map (·.1)).Nodup
  complete : ∀ file ∈ files, ∀ rule, d.Holds file rule → rule.1 ∈ rules.map (·.1)
  ordered : ∃ firsts : List (String × FileContent),
    firsts.Pairwise (fun a b => Text.bytes a.1.toList < Text.bytes b.1.toList) ∧
      List.Forall₂ (d.IsFirst files) firsts rules

/-- The ids of the rules in files. -/
def ids (d : Directory) (files : List (String × FileContent)) : Set String :=
  {id | ∃ file ∈ files, ∃ definition, d.Holds file (id, definition)}

/-- What is kept of the files in order is what a directory of them loads. -/
theorem loads_kept {d : Directory} {files : List (String × FileContent)} (h : Distinct files) :
    d.Loads files ((d.kept [] (inOrder files)).map (·.2)) where
  distinct := by
    rw [List.map_map]
    exact kept_nodup d [] (inOrder files)
  complete file hfile rule hrule := by
    have hkept : rule.1 ∈ ([] : List String) ∨ ∃ e ∈ d.kept [] (inOrder files), e.2.1 = rule.1 :=
      exists_mem_kept ((inOrder_perm files).mem_iff.2 hfile) hrule
    obtain ⟨e, he, heq⟩ := hkept.resolve_left List.not_mem_nil
    rw [← heq, List.map_map]
    exact List.mem_map_of_mem he
  ordered := by
    have hsorted := inOrder_sorted h
    have hsub := kept_sublist d [] (inOrder files)
    refine ⟨(d.kept [] (inOrder files)).map (·.1), ?_, ?_⟩
    · exact (hsorted.sublist hsub).imp fun hlt => Text.bytes_lt_iff.2 hlt
    · rw [List.forall₂_map_left_iff, List.forall₂_map_right_iff, List.forall₂_same]
      intro e he
      have hmem : e.1 ∈ files := (inOrder_perm files).mem_iff.1 (hsub.subset (List.mem_map_of_mem he))
      refine ⟨hmem, holds_of_mem_kept he, fun other hother definition hholds hlt => ?_⟩
      exact kept_first hsorted he ((inOrder_perm files).mem_iff.2 hother) hholds rfl
        (Text.bytes_lt_iff.1 hlt)

theorem exists_of_forall₂ {R : α → β → Prop} {as : List α} {bs : List β} (h : List.Forall₂ R as bs)
    {b : β} (hb : b ∈ bs) : ∃ a ∈ as, R a b := by
  induction h with
  | nil => cases hb
  | cons hfirst hrest ih =>
    rcases List.mem_cons.1 hb with rfl | hb
    · exact ⟨_, List.mem_cons_self, hfirst⟩
    · obtain ⟨a, ha, hab⟩ := ih hb
      exact ⟨a, List.mem_cons_of_mem _ ha, hab⟩

theorem Loads.ids_eq {d : Directory} {files : List (String × FileContent)}
    {rules : List (String × Definition)} (h : d.Loads files rules) :
    d.ids files = ↑(rules.map (·.1)).toFinset := by
  ext id
  rw [List.coe_toFinset]
  constructor
  · rintro ⟨file, hfile, definition, hholds⟩
    exact h.complete file hfile (id, definition) hholds
  · intro hid
    obtain ⟨rule, hrule, rfl⟩ := List.mem_map.1 hid
    obtain ⟨firsts, -, hfirsts⟩ := h.ordered
    obtain ⟨file, -, hfirst⟩ := exists_of_forall₂ hfirsts hrule
    exact ⟨file, hfirst.mem, rule.2, hfirst.holds⟩

/-- There are as many rules as ids. -/
theorem Loads.ncard_ids {d : Directory} {files : List (String × FileContent)}
    {rules : List (String × Definition)} (h : d.Loads files rules) :
    (d.ids files).ncard = rules.length := by
  rw [h.ids_eq, Set.ncard_coe_finset, List.toFinset_card_of_nodup h.distinct, List.length_map]

/-- A directory loads unless there are too many ids in it. -/
theorem rules_eq {d : Directory} {files : List (String × FileContent)} (hfiles : d.files = some files)
    (h : Distinct files) :
    d.rules = if (d.ids files).ncard ≤ d.maxRules then
        .ok ((d.kept [] (inOrder files)).map (·.2))
      else .error (.tooMany d.maxRules) := by
  rw [(loads_kept h).ncard_ids, List.length_map, rules, hfiles]
  dsimp only
  rw [gather_eq d (inOrder files) (Nat.zero_le _), List.length_nil, Nat.zero_add]
  rfl

theorem gather_listing (d : Directory) (listing : Option (List (String × FileContent)))
    (found : List (String × Definition)) (files : List (String × FileContent)) :
    { d with files := listing }.gather found files = d.gather found files := by
  induction files generalizing found with
  | nil => rfl
  | cons file rest ih =>
    have hrule : { d with files := listing }.ruleIn file.1 (some file.2) =
        d.ruleIn file.1 (some file.2) := rfl
    rw [gather, gather, hrule]
    simp only [ih]

/-- Files that are listed in another order are loaded as the same. -/
theorem rules_listing {d : Directory} {files listing : List (String × FileContent)}
    (hfiles : d.files = some files) (h : Distinct files) (hperm : listing.Perm files) :
    { d with files := some listing }.rules = d.rules := by
  rw [rules, rules, hfiles]
  dsimp only
  rw [gather_listing, inOrder_eq_of_perm h hperm]

/-! ### As a store -/

theorem rulesFor_eq_ok_iff {d : Directory} (target : String) {rules : List (String × Definition)} :
    d.rulesFor target = .ok rules ↔ d.rules = .ok rules := by
  rw [rulesFor]
  cases d.rules with
  | error e => exact ⟨fun h => (by cases h), fun h => (by cases h)⟩
  | ok found =>
    exact ⟨fun h => congrArg _ (Except.ok.inj h), fun h => congrArg _ (Except.ok.inj h)⟩

theorem exists_rulesFor_eq_error_iff (d : Directory) (target : String) :
    (∃ e, d.rulesFor target = .error e) ↔ ∃ e, d.rules = .error e := by
  rw [rulesFor]
  cases d.rules with
  | error e => exact ⟨fun _ => ⟨e, rfl⟩, fun _ => ⟨_, rfl⟩⟩
  | ok found => exact ⟨fun ⟨_, h⟩ => (by cases h), fun ⟨_, h⟩ => (by cases h)⟩

/-- A rule is fetched from all of them. -/
theorem fetch_eq_ok_iff {d : Directory} {id : String} {answer : Option Definition} :
    d.fetch id = .ok answer ↔
      ∃ rules, d.rules = .ok rules ∧ (rules.find? (·.1 == id)).map (·.2) = answer := by
  rw [fetch]
  constructor
  · intro h
    cases hrules : d.rulesFor id with
    | error e =>
      rw [hrules] at h
      cases h
    | ok rules =>
      rw [hrules] at h
      exact ⟨rules, (rulesFor_eq_ok_iff id).1 hrules, Except.ok.inj h⟩
  · rintro ⟨rules, hrules, rfl⟩
    rw [(rulesFor_eq_ok_iff id).2 hrules]
    rfl

theorem exists_fetch_eq_error_iff {d : Directory} {id : String} :
    (∃ e, d.fetch id = .error e) ↔ ∃ e, d.rules = .error e := by
  rw [← exists_rulesFor_eq_error_iff d id, fetch]
  cases d.rulesFor id with
  | error e => exact ⟨fun _ => ⟨e, rfl⟩, fun _ => ⟨e, rfl⟩⟩
  | ok rules => exact ⟨fun ⟨_, h⟩ => (by cases h), fun ⟨_, h⟩ => (by cases h)⟩

theorem find?_id_eq_some_iff {rules : List (String × Definition)} (h : (rules.map (·.1)).Nodup)
    {id : String} {definition : Definition} :
    (rules.find? (·.1 == id)).map (·.2) = some definition ↔ (id, definition) ∈ rules := by
  constructor
  · intro hfind
    obtain ⟨rule, hrule, rfl⟩ := Option.map_eq_some_iff.1 hfind
    obtain rfl : rule.1 = id := by simpa using List.find?_some hrule
    exact List.mem_of_find?_eq_some hrule
  · intro hmem
    cases hfind : rules.find? (·.1 == id) with
    | none => simpa using List.find?_eq_none.1 hfind _ hmem
    | some rule =>
      have hid : rule.1 = id := by simpa using List.find?_some hfind
      have heq : rule = (id, definition) :=
        List.inj_on_of_nodup_map h (List.mem_of_find?_eq_some hfind) hmem hid
      rw [heq]
      rfl

theorem find?_id_eq_none_iff {rules : List (String × Definition)} {id : String} :
    (rules.find? (·.1 == id)).map (·.2) = none ↔ id ∉ rules.map (·.1) := by
  rw [Option.map_eq_none_iff, List.find?_eq_none, List.mem_map]
  constructor
  · rintro h ⟨rule, hrule, heq⟩
    exact h rule hrule (beq_iff_eq.2 heq)
  · intro h rule hrule heq
    exact h ⟨rule, hrule, beq_iff_eq.1 heq⟩

/-- **The order in which a directory lists its files does not matter.** It cannot be loaded if its
files hold rules of too many ids. Otherwise it is loaded as the first rule of each id, and a call for
an id finds what is loaded under it. -/
theorem loads_whatever_order {d : Directory} {files : List (String × FileContent)}
    (hfiles : d.files = some files) (hdistinct : Distinct files) :
    ((∃ e, d.rules = .error e) ↔ d.maxRules < (d.ids files).ncard) ∧
      (∀ rules, d.rules = .ok rules → d.Loads files rules) ∧
      (∀ rules, d.fetchAll = .ok rules ↔ d.rules = .ok rules) ∧
      (∀ id definition, d.fetch id = .ok (some definition) ↔
        ∃ rules, d.fetchAll = .ok rules ∧ (id, definition) ∈ rules) ∧
      (∀ id, d.fetch id = .ok none ↔ ∃ rules, d.fetchAll = .ok rules ∧ id ∉ rules.map (·.1)) ∧
      (∀ id, (∃ e, d.fetch id = .error e) ↔ ∃ e, d.fetchAll = .error e) ∧
      ∀ listing, listing.Perm files →
        let shuffled := { d with files := some listing }
        shuffled.rules = d.rules ∧ shuffled.fetchAll = d.fetchAll ∧
          ∀ id, shuffled.fetch id = d.fetch id := by
  have hrules := rules_eq hfiles hdistinct
  have hloads (rules : List (String × Definition)) (h : d.rules = .ok rules) : d.Loads files rules := by
    rw [hrules] at h
    split at h
    · cases h
      exact loads_kept hdistinct
    · cases h
  refine ⟨?_, hloads, fun rules => rulesFor_eq_ok_iff "*", fun id definition => ?_, fun id => ?_,
    fun id => ?_, fun listing hperm => ?_⟩
  · rw [hrules]
    split
    · next hfew => exact ⟨fun ⟨e, he⟩ => (by cases he), fun hmany => absurd hfew (Nat.not_le.2 hmany)⟩
    · next hmany => exact ⟨fun _ => Nat.lt_of_not_le hmany, fun _ => ⟨_, rfl⟩⟩
  · rw [fetch_eq_ok_iff]
    refine exists_congr fun rules => ?_
    rw [fetchAll, rulesFor_eq_ok_iff]
    exact and_congr_right fun h => find?_id_eq_some_iff (hloads rules h).distinct
  · rw [fetch_eq_ok_iff]
    refine exists_congr fun rules => ?_
    rw [fetchAll, rulesFor_eq_ok_iff]
    exact and_congr_right fun _ => find?_id_eq_none_iff
  · rw [exists_fetch_eq_error_iff, fetchAll, exists_rulesFor_eq_error_iff]
  · have hlisting := rules_listing hfiles hdistinct hperm
    have hrulesFor (target : String) :
        { d with files := some listing }.rulesFor target = d.rulesFor target := by
      rw [rulesFor, rulesFor, hlisting]
    exact ⟨hlisting, hrulesFor "*", fun id => by rw [fetch, fetch, hrulesFor]⟩

/-- Two files hold rules of one id, one is called by its name, and three hold none. -/
def mixedFiles : List (String × FileContent) :=
  [("Copy.json", .bytes "\x7b\"id\": \"usb\", \"sql\": \"b = 2\"\x7d".toUTF8.data.toList),
    ("bad.json", .bytes "sql: e = 5\n".toUTF8.data.toList), ("folder.yml", .folder 4096),
    ("notes.txt", .bytes "sql: d = 4\n".toUTF8.data.toList),
    ("plain.yaml", .bytes "sql: c = 3\n".toUTF8.data.toList),
    ("usb.yml", .bytes "id: usb\nsql: a = 1\n".toUTF8.data.toList)]

def mixedDirectory : Directory := { path := "rules", files := some mixedFiles, maxRules := 2 }

def mixedRules : List (String × Definition) := [("usb", { sql := "b = 2" }), ("plain", { sql := "c = 3" })]

theorem loads_whatever_order_mixed :
    mixedDirectory.files = some mixedFiles ∧ Distinct mixedFiles ∧
      mixedDirectory.Loads mixedFiles mixedRules ∧
      { mixedDirectory with files := some mixedFiles.reverse }.rules = .ok mixedRules ∧
      mixedDirectory.fetch "plain" = .ok (some { sql := "c = 3" }) := by
  have hdistinct : Distinct mixedFiles := by
    unfold Distinct
    decide
  have hrules : mixedDirectory.rules = .ok mixedRules := by
    have hsorted : inOrder mixedFiles = mixedFiles := List.mergeSort_of_pairwise (by decide)
    have hread : (mixedDirectory.gather [] mixedFiles).toOption = some mixedRules := by decide +kernel
    have heq : mixedDirectory.rules = mixedDirectory.gather [] (inOrder mixedFiles) := rfl
    rw [heq, hsorted]
    cases hgather : mixedDirectory.gather [] mixedFiles with
    | error e =>
      rw [hgather] at hread
      cases hread
    | ok rules =>
      rw [hgather] at hread
      exact congrArg _ (Option.some.inj hread)
  have hfiles : mixedDirectory.files = some mixedFiles := rfl
  obtain ⟨-, hloads, hall, hfetch, -, -, hlisting⟩ := loads_whatever_order hfiles hdistinct
  refine ⟨rfl, hdistinct, hloads mixedRules hrules, ?_, ?_⟩
  · rw [(hlisting mixedFiles.reverse (List.reverse_perm mixedFiles)).1, hrules]
  · exact (hfetch "plain" _).2 ⟨mixedRules, (hall _).2 hrules, by decide⟩

end Directory
end Watchpost
