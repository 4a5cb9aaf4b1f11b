import Watchpost.Json.Basic
import Watchpost.Metrics

/-! What a replica did, in numbers. -/
namespace Watchpost

structure Stats where
  events : UInt64 := 0
  dropped : UInt64 := 0
  alerts : UInt64 := 0
  applied : UInt64 := 0
  stale : UInt64 := 0
  compileFailures : UInt64 := 0
  fetchFailures : UInt64 := 0
  sinkFailures : UInt64 := 0
  deriving DecidableEq

namespace Stats

instance : Add Stats where
  add a b :=
    { events := a.events + b.events
      dropped := a.dropped + b.dropped
      alerts := a.alerts + b.alerts
      applied := a.applied + b.applied
      stale := a.stale + b.stale
      compileFailures := a.compileFailures + b.compileFailures
      fetchFailures := a.fetchFailures + b.fetchFailures
      sinkFailures := a.sinkFailures + b.sinkFailures }

/-- What a counter counts. Severities and actions are added up. -/
def of (s : Stats) : Counter → UInt64
  | .events => s.events
  | .dropped => s.dropped
  | .alerts _ => s.alerts
  | .applied _ => s.applied
  | .compileFailures => s.compileFailures
  | .fetchFailures => s.fetchFailures
  | .sinkFailures => s.sinkFailures

def bump (s : Stats) : Counter → Stats
  | .events => { s with events := s.events + 1 }
  | .dropped => { s with dropped := s.dropped + 1 }
  | .alerts _ => { s with alerts := s.alerts + 1 }
  | .applied _ => { s with applied := s.applied + 1 }
  | .compileFailures => { s with compileFailures := s.compileFailures + 1 }
  | .fetchFailures => { s with fetchFailures := s.fetchFailures + 1 }
  | .sinkFailures => { s with sinkFailures := s.sinkFailures + 1 }

end Stats
end Watchpost
