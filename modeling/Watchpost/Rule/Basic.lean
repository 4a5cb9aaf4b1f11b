import Watchpost.Condition.Compile
import Watchpost.Condition.Evaluate
import Watchpost.Rule.Definition

/-! Rules, ready to be asked about events. -/
namespace Watchpost

/-- A definition with its condition read. -/
structure Rule where
  id : String
  name : String
  severity : Severity
  description : String
  enabled : Bool
  sql : String
  condition : Condition
  deriving DecidableEq

namespace Rule

/-- A rule without a name is called by its id. -/
def nameFor (id name : String) : String := if Text.isBlankText name then id else name

def compile (id : String) (d : Definition) : Except Error Rule := do
  d.validate id
  match Condition.compile d.sql with
  | .ok condition =>
    .ok { id, name := nameFor id d.name, severity := d.severity, description := d.description,
          enabled := d.enabled, sql := d.sql, condition }
  | .error e => .error e.toError

def definition (r : Rule) : Definition :=
  { name := r.name, severity := r.severity, description := r.description, enabled := r.enabled,
    sql := r.sql }

/-- A rule that is switched off never fires. -/
def fires (r : Rule) (e : Event) : Bool := r.enabled && r.condition.holds e

def render (r : Rule) : String :=
  s!"[{r.severity.name}] {r.id} ({r.name}): {r.condition.render}"

end Rule
end Watchpost
