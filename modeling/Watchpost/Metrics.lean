import Watchpost.Rule.Update
import Watchpost.Severity
import Watchpost.Table

/-! Metrics: what an observer is told of the replicas at work. -/
namespace Watchpost

/-! ### The metrics -/

inductive Metric where
  | events
  | dropped
  | alerts
  | applied
  | compileFailures
  | fetchFailures
  | sinkFailures
  | activeRules
  | evaluation
  deriving DecidableEq

namespace Metric

def all : List Metric :=
  [events, dropped, alerts, applied, compileFailures, fetchFailures, sinkFailures, activeRules,
    evaluation]

def name : Metric → String
  | events => "vigil_cep_events_processed_total"
  | dropped => "vigil_cep_records_dropped_total"
  | alerts => "vigil_cep_alerts_emitted_total"
  | applied => "vigil_cep_rule_updates_applied_total"
  | compileFailures => "vigil_cep_rule_compile_failures_total"
  | fetchFailures => "vigil_cep_rule_fetch_failures_total"
  | sinkFailures => "vigil_cep_sink_failures_total"
  | activeRules => "vigil_cep_active_rules"
  | evaluation => "vigil_cep_evaluation_duration_seconds"

def kind : Metric → String
  | activeRules => "gauge"
  | evaluation => "histogram"
  | _ => "counter"

def description : Metric → String
  | events => "Total number of normalized events evaluated against the rule set"
  | dropped => "Raw records dropped because they lacked an identifier or were undecodable"
  | alerts => "Alerts emitted by rule matches, by severity"
  | applied => "Rule updates applied to a replica registry, by action"
  | compileFailures => "Rule definitions rejected by the predicate compiler"
  | fetchFailures => "Rule store reads that failed or timed out"
  | sinkFailures => "Alerts or events that could not be handed to a sink"
  | activeRules => "Compiled rules registered per replica"
  | evaluation => "Time spent evaluating all rules against one event"

end Metric

/-! ### Samples -/

/-- What is counted, with its label. -/
inductive Counter where
  | events
  | dropped
  | alerts (severity : Severity)
  | applied (action : UpdateAction)
  | compileFailures
  | fetchFailures
  | sinkFailures
  deriving DecidableEq

def Counter.metric : Counter → Metric
  | events => .events
  | dropped => .dropped
  | alerts _ => .alerts
  | applied _ => .applied
  | compileFailures => .compileFailures
  | fetchFailures => .fetchFailures
  | sinkFailures => .sinkFailures

def Counter.label : Counter → String
  | alerts severity => "severity=" ++ severity.name
  | applied action => "action=" ++ action.name
  | _ => ""

inductive Sample where
  | count (c : Counter)
  | activeRules (replica rules : Nat)
  | evaluation
  deriving DecidableEq

namespace Sample

def metric : Sample → Metric
  | count c => c.metric
  | activeRules .. => .activeRules
  | evaluation => .evaluation

def label : Sample → String
  | count c => c.label
  | activeRules replica _ => "replica=" ++ toString replica
  | evaluation => ""

/-- What the samples of one metric with one label are shown under. -/
def series (s : Sample) : String := s.metric.name ++ "\x7b" ++ s.label ++ "\x7d"

end Sample

/-- All samples that were taken, the newest first. -/
abbrev Metrics := List Sample

namespace Metrics

/-- How often a counter was raised. -/
def total (ms : Metrics) (c : Counter) : Nat := ms.count (.count c)

/-- The number of rules that a replica told last. -/
def gauge? (ms : Metrics) (replica : Nat) : Option Nat :=
  ms.findSome? fun
    | .activeRules r n => if r = replica then some n else none
    | _ => none

/-- Adds a sample to what is shown. -/
def note (s : Sample) (shown : Table Nat) : Table Nat :=
  match s with
  | .activeRules _ n => shown.insert s.series n
  | _ => shown.insert s.series ((shown.get? s.series).getD 0 + 1)

/-- What is shown of every series that was touched: how often it was raised, or the last number. -/
def report (ms : Metrics) : Table Nat := ms.foldr note .empty

end Metrics
end Watchpost
