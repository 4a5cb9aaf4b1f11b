import Watchpost.Proofs.Json.Writing
import Watchpost.Proofs.Table
import Watchpost.Registry.Snapshot

/-! Snapshots are read as they were written.

All that is written of a snapshot are texts and numbers of 64 bits, so its text is read as the
draft of its value (`Json.ofText?_write`), and each part is found in that draft under its name
(`ofText?_write`). -/
namespace Watchpost

namespace Json

theorem integral_record {α : Type} {write : α → Json} (h : ∀ a, (write a).Integral)
    (entries : List (String × α)) :
    (Json.record (entries.map fun e => (e.1, write e.2))).Integral := by
  show IntegralMembers _
  induction entries with
  | nil => trivial
  | cons e rest ih => exact ⟨h e.2, ih⟩

section
variable {α : Type} {write : α → Json} {read : Draft → Option α}

/-- Entries are read as they were written and in that order, if their values are. -/
theorem Draft.mapM_ofMembers (h : ∀ a, read (ofJson (write a)) = some a)
    (entries : List (String × α)) :
    (ofMembers (entries.map fun e => (e.1, write e.2))).mapM
      (fun e => do return (← e.1, ← read e.2)) = some entries := by
  induction entries with
  | nil => rfl
  | cons e rest ih =>
    rw [List.map_cons, ofMembers, List.mapM_cons, ih]
    dsimp only
    rw [h]
    rfl

/-- A table is read as it was written, if its values are. -/
theorem Draft.table?_ofJson (h : ∀ a, read (ofJson (write a)) = some a) (t : Table α) :
    table? read (ofJson (.record (t.map fun _ a => write a).entries)) = some t := by
  have hread : table? read (ofJson (.record (t.map fun _ a => write a).entries)) =
      (some t.entries).bind fun entries => some (Table.ofList entries) := by
    rw [← mapM_ofMembers h t.entries]
    rfl
  rw [hread, Option.bind_some, Table.ofList_entries]

end

end Json

/-! ### Definitions -/

namespace Definition

/-- A severity is read by its name. -/
theorem ofText?_name (s : Severity) : Severity.ofText? s.name = some s := by
  cases s <;> decide

theorem ofDraft?_toJson (d : Definition) : ofDraft? (.ofJson d.toJson) = some d := by
  simp [toJson, ofDraft?, Json.Draft.ofJson, Json.Draft.ofMembers, Json.Draft.fields?,
    Json.Draft.members?, fieldNames, ofFields?, Json.Draft.withDefault, Json.Draft.required, Json.Draft.text?,
    Json.Draft.bool?, severity?, Json.Draft.nullable, Json.Draft.isNull, ofText?_name]

end Definition

namespace Snapshot

/-! ### Snapshots -/

/-- A number is written as an integer, which fits. -/
theorem integral_seqJson (seq : UInt64) : (seqJson seq).Integral := by
  have hlt := seq.toNat_lt
  have hlo : -0x8000000000000000 ≤ (seq.toNat : Int) := by omega
  have hhi : (seq.toNat : Int) ≤ 0xFFFFFFFFFFFFFFFF := by omega
  exact Bool.and_eq_true_iff.2 ⟨decide_eq_true hlo, decide_eq_true hhi⟩

theorem seq?_seqJson (seq : UInt64) : seq? (.ofJson (seqJson seq)) = some seq := by
  have hlt := seq.toNat_lt
  have hlo : 0 ≤ (seq.toNat : Int) := by omega
  have hhi : (seq.toNat : Int) ≤ 0xFFFFFFFFFFFFFFFF := by omega
  have hbound : IntegerKind.nat64.holds seq.toNat = true :=
    Bool.and_eq_true_iff.2 ⟨decide_eq_true hlo, decide_eq_true hhi⟩
  simp [seq?, seqJson, Json.Draft.ofJson, Json.Draft.integer?, hbound]

theorem Entry.integral_toJson (e : Entry) : e.toJson.Integral :=
  ⟨integral_seqJson e.seq, ⟨trivial, trivial, trivial, trivial, trivial, trivial⟩, trivial⟩

/-- An entry has both of its members, so neither has a default. -/
theorem Entry.ofDraft?_toJson (e : Entry) : Entry.ofDraft? (.ofJson e.toJson) = some e := by
  simp [Entry.toJson, Entry.ofDraft?, Json.Draft.ofJson, Json.Draft.ofMembers, Json.Draft.fields?,
    Json.Draft.members?, Json.Draft.required, seq?_seqJson, Definition.ofDraft?_toJson]

theorem integral_toJson (s : Snapshot) : s.toJson.Integral :=
  ⟨integral_seqJson s.lastSeq, Json.integral_record Entry.integral_toJson s.rules.entries,
    Json.integral_record integral_seqJson s.tombstones.entries, trivial⟩

theorem ofDraft?_toJson (s : Snapshot) : ofDraft? (.ofJson s.toJson) = some s := by
  have hrules := Json.Draft.table?_ofJson Entry.ofDraft?_toJson s.rules
  have htombstones := Json.Draft.table?_ofJson seq?_seqJson s.tombstones
  have hfields (lastSeq rules tombstones : Json) :
      (Json.Draft.ofJson (.record [
        ("lastSeq", lastSeq), ("rules", rules), ("tombstones", tombstones)])).fields?
          ["lastSeq", "rules", "tombstones"] =
        some [some (.ofJson lastSeq), some (.ofJson rules), some (.ofJson tombstones)] := by
    simp [Json.Draft.ofJson, Json.Draft.ofMembers, Json.Draft.fields?, Json.Draft.members?]
  rw [toJson, ofDraft?, hfields]
  simp [Json.Draft.required, Json.Draft.withDefault, seq?_seqJson, hrules, htombstones]

/-- **A snapshot is read as it was written**, whatever is in it. -/
theorem ofText?_write (s : Snapshot) : ofText? s.write = some s := by
  unfold ofText? write
  rw [Json.ofText?_write s.integral_toJson, Option.bind_some, ofDraft?_toJson]

end Snapshot

end Watchpost
