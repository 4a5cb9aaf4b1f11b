import Watchpost.Proofs.Registry.Restoring
import Watchpost.Proofs.Registry.Written
import Watchpost.Proofs.Table

/-! Storing a registry loses nothing.

What a restored registry knows of an id is what the snapshot says of it (`get?_restore`,
`version?_restore`). A registry that came about by loading, changing and restoring holds only
rules that their own definitions compile to (`Reached.sound`), so it is the one that is restored
from its snapshot. The definitions in a foreign snapshot need not compile; the ids of those that
do not are deleted in the registry that is restored, and storing that one loses nothing any more
(`restore_lossless`). -/
namespace Watchpost

/-! ### Rules -/

namespace Rule

theorem nameFor_nameFor (id name : String) : nameFor id (nameFor id name) = nameFor id name := by
  by_cases h : Text.isBlankText name
  · simp [nameFor, h]
  · simp [nameFor, h]

/-- **A rule is what its definition compiles to**, also if it took its name from its id. -/
theorem compile_definition {id : String} {d : Definition} {rule : Rule}
    (h : compile id d = .ok rule) : compile id rule.definition = .ok rule := by
  unfold compile at h ⊢
  cases hvalid : d.validate id with
  | error e =>
    rw [hvalid] at h
    cases h
  | ok =>
    rw [hvalid] at h
    dsimp only [bind, Except.bind] at h
    split at h
    · next condition hcondition =>
      cases h
      have hvalid' : (definition ⟨id, nameFor id d.name, d.severity, d.description, d.enabled, d.sql,
        condition⟩).validate id = .ok () := hvalid
      rw [hvalid']
      dsimp only [bind, Except.bind, definition]
      rw [hcondition, nameFor_nameFor]
    · cases h

end Rule

namespace Registry

/-! ### Restored entries -/

theorem get?_restoreEntry (r : Registry) (id : String) (e : Snapshot.Entry) (other : String) :
    (r.restoreEntry id e).1.get? other =
      if other = id then (Rule.compile id e.definition).toOption.or (r.get? id)
      else r.get? other := by
  unfold restoreEntry
  dsimp only
  split
  · next rule hrule =>
    rw [hrule]
    exact r.rules.get?_insert id rule other
  · next error herror =>
    rw [herror]
    split
    · next hid =>
      rw [hid]
      rfl
    · rfl

/-- What is reported of an entry that does not compile. -/
def failure? (id : String) (e : Snapshot.Entry) : Option (String × Error) :=
  match Rule.compile id e.definition with
  | .ok _ => none
  | .error error => some (id, error)

theorem failure?_eq_some_iff {id : String} {e : Snapshot.Entry} {failure : String × Error} :
    failure? id e = some failure ↔
      failure.1 = id ∧ Rule.compile id e.definition = .error failure.2 := by
  unfold failure?
  cases Rule.compile id e.definition with
  | ok rule => simp
  | error error =>
    obtain ⟨name, other⟩ := failure
    simp [eq_comm]

theorem failure_restoreEntry (r : Registry) (id : String) (e : Snapshot.Entry) :
    (r.restoreEntry id e).2 = failure? id e := by
  unfold restoreEntry failure?
  cases Rule.compile id e.definition <;> rfl

theorem views_restoreEntries_of_not_mem {r : Registry} {es : List (String × Snapshot.Entry)}
    {id : String} (h : ∀ e ∈ es, e.1 ≠ id) :
    (restoreEntries r es).1.get? id = r.get? id ∧
      (restoreEntries r es).1.version? id = r.version? id := by
  induction es generalizing r with
  | nil => exact ⟨rfl, rfl⟩
  | cons e rest ih =>
    obtain ⟨name, entry⟩ := e
    have hne : id ≠ name := (h _ (List.mem_cons_self ..)).symm
    have hrest := ih (r := (r.restoreEntry name entry).1) fun e he => h e (List.mem_cons_of_mem _ he)
    rw [get?_restoreEntry, version?_restoreEntry, if_neg hne, if_neg hne] at hrest
    exact hrest

theorem views_restoreEntries_of_mem {r : Registry} {es : List (String × Snapshot.Entry)}
    (hordered : es.Pairwise fun a b => a.1 < b.1) {id : String} {e : Snapshot.Entry}
    (h : (id, e) ∈ es) :
    (restoreEntries r es).1.get? id =
        (Rule.compile id e.definition).toOption.or (r.get? id) ∧
      (restoreEntries r es).1.version? id = some e.seq := by
  induction es generalizing r with
  | nil => cases h
  | cons first rest ih =>
    obtain ⟨name, entry⟩ := first
    obtain ⟨hfirst, hrest⟩ := List.pairwise_cons.1 hordered
    rcases List.mem_cons.1 h with heq | h
    · cases heq
      have hothers : ∀ d ∈ rest, d.1 ≠ id := fun d hd heq => String.lt_irrefl id (heq ▸ hfirst d hd)
      have hviews := views_restoreEntries_of_not_mem (r := (r.restoreEntry id e).1) hothers
      rw [get?_restoreEntry, version?_restoreEntry, if_pos rfl, if_pos rfl] at hviews
      exact hviews
    · have hne : id ≠ name := fun heq => String.lt_irrefl id (heq ▸ hfirst _ h)
      have hviews := ih (r := (r.restoreEntry name entry).1) hrest h
      rw [get?_restoreEntry, if_neg hne] at hviews
      exact hviews

/-- The failures come in the order of the entries. -/
theorem failures_restoreEntries (r : Registry) (es : List (String × Snapshot.Entry)) :
    (restoreEntries r es).2 = es.filterMap fun e => failure? e.1 e.2 := by
  induction es generalizing r with
  | nil => rfl
  | cons e rest ih =>
    obtain ⟨id, entry⟩ := e
    have hstep : (restoreEntries r ((id, entry) :: rest)).2 =
        (r.restoreEntry id entry).2.toList ++ (restoreEntries (r.restoreEntry id entry).1 rest).2 :=
      rfl
    rw [hstep, ih, failure_restoreEntry, List.filterMap_cons]
    cases failure? id entry <;> rfl

/-! ### Restored registries -/

/-- The rules of a restored registry are those whose definitions compile. -/
theorem get?_restore (s : Snapshot) (id : String) :
    (restore s).1.get? id =
      (s.rules.get? id).bind fun e => (Rule.compile id e.definition).toOption := by
  cases h : s.rules.get? id with
  | some e =>
    rw [Option.bind_some]
    exact (views_restoreEntries_of_mem s.rules.ordered (Table.get?_eq_some_iff.1 h)).1.trans
      (Option.or_none ..)
  | none =>
    refine (views_restoreEntries_of_not_mem fun e he heq => ?_).1
    subst heq
    exact Option.some_ne_none e.2 ((Table.get?_eq_some_iff.2 he).symm.trans h)

/-- An id that is both in force and deleted has the number it is in force with. -/
theorem version?_restore (s : Snapshot) (id : String) :
    (restore s).1.version? id = ((s.rules.get? id).map (·.seq)).or (s.tombstones.get? id) := by
  cases h : s.rules.get? id with
  | some e =>
    exact (views_restoreEntries_of_mem s.rules.ordered (Table.get?_eq_some_iff.1 h)).2
  | none =>
    refine (views_restoreEntries_of_not_mem fun e he heq => ?_).2
    subst heq
    exact Option.some_ne_none e.2 ((Table.get?_eq_some_iff.2 he).symm.trans h)

theorem failures_restore (s : Snapshot) :
    (restore s).2 = s.rules.entries.filterMap fun e => failure? e.1 e.2 :=
  failures_restoreEntries ..

theorem mem_failures_restore {s : Snapshot} {id : String} {error : Error} :
    (id, error) ∈ (restore s).2 ↔
      ∃ e, s.rules.get? id = some e ∧ Rule.compile id e.definition = .error error := by
  rw [failures_restore, List.mem_filterMap]
  constructor
  · rintro ⟨⟨name, e⟩, he, hfailure⟩
    obtain ⟨rfl, herror⟩ := failure?_eq_some_iff.1 hfailure
    exact ⟨e, Table.get?_eq_some_iff.2 he, herror⟩
  · rintro ⟨e, he, herror⟩
    exact ⟨(id, e), Table.get?_eq_some_iff.1 he, failure?_eq_some_iff.2 ⟨rfl, herror⟩⟩

/-- No id fails twice. -/
theorem ordered_failures_restore (s : Snapshot) :
    (restore s).2.Pairwise fun a b => a.1 < b.1 := by
  rw [failures_restore, List.pairwise_filterMap]
  refine s.rules.ordered.imp fun {a b} hlt c hc d hd => ?_
  rw [(failure?_eq_some_iff.1 hc).1, (failure?_eq_some_iff.1 hd).1]
  exact hlt

/-! ### Stored registries -/

theorem get?_rules_snapshot (r : Registry) (id : String) :
    r.snapshot.rules.get? id =
      (r.get? id).map fun rule => ⟨(r.version? id).getD 0, rule.definition⟩ :=
  Table.get?_map ..

theorem get?_tombstones_snapshot (r : Registry) (id : String) :
    r.snapshot.tombstones.get? id = if (r.get? id).isSome then none else r.version? id := by
  have hfilter : r.snapshot.tombstones.get? id =
      (r.version? id).filter fun _ => !(r.get? id).isSome := Table.get?_filter ..
  rw [hfilter]
  cases (r.get? id).isSome <;> cases r.version? id <;> rfl

/-- Every rule is what its definition compiles to, and has a number. -/
def Sound (r : Registry) : Prop :=
  ∀ id rule, r.get? id = some rule →
    Rule.compile id rule.definition = .ok rule ∧ (r.version? id).isSome

/-- A sound registry is restored as it was. -/
theorem Sound.restore_snapshot {r : Registry} (h : r.Sound) : restore r.snapshot = (r, []) := by
  refine Prod.ext (ext_of_views (fun id => ?_) (fun id => ?_) (lastSeq_restore r.snapshot))
    (List.eq_nil_iff_forall_not_mem.2 fun failure hfailure => ?_)
  · rw [get?_restore, get?_rules_snapshot]
    cases hrule : r.get? id with
    | none => rfl
    | some rule =>
      have hcompile := (h id rule hrule).1
      simp [hcompile, Except.toOption]
  · rw [version?_restore, get?_rules_snapshot, get?_tombstones_snapshot]
    cases hrule : r.get? id with
    | none => rfl
    | some rule =>
      obtain ⟨version, hversion⟩ := Option.isSome_iff_exists.1 (h id rule hrule).2
      simp [hversion]
  · obtain ⟨e, he, herror⟩ := mem_failures_restore.1 hfailure
    rw [get?_rules_snapshot] at he
    obtain ⟨rule, hrule, rfl⟩ := Option.map_eq_some_iff.1 he
    cases herror.symm.trans (h _ rule hrule).1

/-- A restored registry is sound, whatever it was restored from. -/
theorem sound_restore (s : Snapshot) : (restore s).1.Sound := by
  intro id rule hrule
  rw [get?_restore] at hrule
  obtain ⟨e, he, hcompile⟩ := Option.bind_eq_some_iff.1 hrule
  refine ⟨?_, by rw [version?_restore, he]; rfl⟩
  cases hresult : Rule.compile id e.definition with
  | error error =>
    rw [hresult] at hcompile
    cases hcompile
  | ok other =>
    rw [hresult] at hcompile
    cases hcompile
    exact Rule.compile_definition hresult

/-! ### Registries that come about -/

/-- A rule that was compiled, under whatever id and from whatever definition. -/
def Compiled (rule : Rule) : Prop := ∃ id d, Rule.compile id d = .ok rule

theorem Compiled.compile_definition {rule : Rule} (h : Compiled rule) :
    Rule.compile rule.id rule.definition = .ok rule := by
  obtain ⟨id, d, hcompile⟩ := h
  rw [Rule.id_of_compile hcompile]
  exact Rule.compile_definition hcompile

/-- The registries that come about by loading, changing and restoring. -/
inductive Reached : Registry → Prop
  | loaded {rules : List Rule} (h : ∀ rule ∈ rules, Compiled rule) : Reached (ofRules rules)
  | changed {r : Registry} {c : Change} (h : Reached r) (hrule : ∀ rule, c.rule? = some rule → Compiled rule) :
      Reached (r.apply c).1
  | restored (s : Snapshot) : Reached (restore s).1

theorem sound_ofRules {rules : List Rule} (h : ∀ rule ∈ rules, Compiled rule) :
    (ofRules rules).Sound := by
  intro id rule hrule
  have hid := keyed_ofRules rules id rule hrule
  rw [get?_ofRules] at hrule
  have hmem := List.mem_of_getLast? hrule
  refine ⟨?_, ?_⟩
  · rw [← hid]
    exact (h rule (List.mem_filter.1 hmem).1).compile_definition
  · rw [version?_ofRules, if_neg (List.ne_nil_of_mem hmem)]
    rfl

theorem Sound.apply {r : Registry} (h : r.Sound) {c : Change}
    (hc : ∀ rule, c.rule? = some rule → Compiled rule) : (r.apply c).1.Sound := by
  cases hs : r.isStale c with
  | true =>
    rw [apply_of_stale hs]
    exact h
  | false =>
    rw [apply_of_timely hs]
    intro id rule hrule
    rw [get?_enforce] at hrule
    rw [version?_enforce]
    split at hrule
    · next hid =>
      have hrule' : rule.id = c.id := by
        cases c with
        | upsert seq new =>
          cases hrule
          rfl
        | delete seq name => cases hrule
      rw [if_pos hid, hid, ← hrule']
      exact ⟨(hc rule hrule).compile_definition, rfl⟩
    · next hid =>
      rw [if_neg hid]
      exact h id rule hrule

theorem Reached.sound {r : Registry} (h : Reached r) : r.Sound := by
  induction h with
  | loaded h => exact sound_ofRules h
  | changed _ hc ih => exact ih.apply hc
  | restored s => exact sound_restore s

/-- What becomes of changes that are put into force one after the other. -/
def verdicts (r : Registry) : List Change → List Verdict
  | [] => []
  | c :: rest => (r.apply c).2 :: verdicts (r.apply c).1 rest

/-- **Storing a registry loses nothing.** A registry that came about is the one restored from its
snapshot, also if that was written down and read in between, so both answer further changes alike.
Of any other snapshot, what fails are the ids whose definitions do not compile. They are deleted
in the registry that is restored, and that one is stored without a failure and without a loss. -/
theorem restore_lossless :
    (∀ r : Registry, Reached r →
      restore r.snapshot = (r, []) ∧
      (Snapshot.ofText? r.snapshot.write).map restore = some (r, []) ∧
      ∀ cs : List Change,
        (restore r.snapshot).1.verdicts cs = r.verdicts cs ∧
        (restore r.snapshot).1.applyAll cs = r.applyAll cs) ∧
    ∀ s s' : Snapshot, s' = (restore s).1.snapshot →
      (∀ id error, (id, error) ∈ (restore s).2 ↔
        ∃ e, s.rules.get? id = some e ∧ Rule.compile id e.definition = .error error) ∧
      ((restore s).2.Pairwise fun a b => a.1 < b.1) ∧
      (∀ id error e, (id, error) ∈ (restore s).2 → s.rules.get? id = some e →
        s'.rules.get? id = none ∧ s'.tombstones.get? id = some e.seq) ∧
      (restore s').2 = [] ∧
      (restore s').1.snapshot = s' := by
  refine ⟨fun r hr => ?_, ?_⟩
  · have hrestore := hr.sound.restore_snapshot
    refine ⟨hrestore, ?_, fun cs => ?_⟩
    · rw [Snapshot.ofText?_write, Option.map_some, hrestore]
    · rw [hrestore]
      exact ⟨rfl, rfl⟩
  · rintro s _ rfl
    have hrestore := (sound_restore s).restore_snapshot
    refine ⟨fun id error => mem_failures_restore, ordered_failures_restore s, ?_, ?_, ?_⟩
    · intro id error e hfailure he
      obtain ⟨e', he', herror⟩ := mem_failures_restore.1 hfailure
      cases he.symm.trans he'
      have hnone : (restore s).1.get? id = none := by
        rw [get?_restore, he, Option.bind_some, herror]
        rfl
      rw [get?_rules_snapshot, get?_tombstones_snapshot, hnone, version?_restore, he]
      exact ⟨rfl, rfl⟩
    · rw [hrestore]
    · rw [hrestore]

/-- A rule with a blank name. -/
def unnamed : Definition := { name := " ", sql := "a = 1" }

/-- A snapshot in which one definition does not compile, and whose id is deleted as well. -/
def foreign : Snapshot :=
  { lastSeq := 1
    rules := (Table.empty.insert "A" ⟨4, unnamed⟩).insert "C" ⟨5, { sql := " " }⟩
    tombstones := Table.empty.insert "C" 7 }

theorem restore_lossless_foreign : ∃ r : Registry, Reached r ∧
    (r.get? "B").map (·.name) = some "B" ∧ r.version? "A" = some 2 ∧
    restore r.snapshot = (r, []) ∧
    (∃ error, ("C", error) ∈ (restore foreign).2) ∧
    (restore foreign).1.snapshot.tombstones.get? "C" = some 5 ∧
    (restore (restore foreign).1.snapshot).2 = [] := by
  have hcompile : (Rule.compile "B" unnamed).toOption.map (·.name) = some "B" := by decide +kernel
  have hfails : ∃ error, Rule.compile "C" { sql := " " } = .error error := ⟨_, rfl⟩
  obtain ⟨rule, hrule, hname⟩ := Option.map_eq_some_iff.1 hcompile
  have hok : Rule.compile "B" unnamed = .ok rule := by
    cases hresult : Rule.compile "B" unnamed with
    | ok other =>
      rw [hresult] at hrule
      cases hrule
      rfl
    | error e =>
      rw [hresult] at hrule
      cases hrule
  have hid := Rule.id_of_compile hok
  have hloaded : Reached (ofRules [rule]) := .loaded fun other hother => by
    cases List.mem_singleton.1 hother
    exact ⟨"B", unnamed, hok⟩
  have hreached : Reached ((ofRules [rule]).apply (.delete 2 "A")).1 :=
    hloaded.changed fun other hother => by cases hother
  have htimely : (ofRules [rule]).isStale (.delete 2 "A") = false := by
    rw [← Bool.not_eq_true, isStale_iff]
    rintro ⟨version, hversion, hlt⟩
    rw [version_ofRules_le hversion] at hlt
    cases UInt64.not_lt.2 UInt64.zero_le hlt
  obtain ⟨error, herror⟩ := hfails
  have hfailure : ("C", error) ∈ (restore foreign).2 :=
    (restore_lossless.2 foreign _ rfl).1 "C" error |>.2 ⟨_, rfl, herror⟩
  obtain ⟨-, -, htombstone, hagain, -⟩ := restore_lossless.2 foreign _ rfl
  refine ⟨_, hreached, ?_, ?_, (restore_lossless.1 _ hreached).1, ⟨error, hfailure⟩,
    (htombstone "C" error _ hfailure rfl).2, hagain⟩
  · rw [apply_of_timely htimely, get?_enforce, if_neg (by decide), get?_ofRules]
    simp [hid, hname]
  · rw [apply_of_timely htimely, version?_enforce]
    exact if_pos rfl

end Registry
end Watchpost
