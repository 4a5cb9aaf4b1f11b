import Watchpost.Store.Basic
import Watchpost.Store.Retry

/-! A fetch under way: calls of a store under a policy, moment by moment.

A call reads the store at the moment of its answer, not at the moment it is made. -/
namespace Watchpost

inductive Fetch.Stage where
  /-- A call was made; it takes some time and may fail. -/
  | called (delay : Nat) (failure : Option String)
  /-- The next call is still to be made. -/
  | resting
  deriving DecidableEq

structure Fetch where
  /-- How many calls may follow. -/
  left : Nat
  /-- When it goes on. -/
  due : Nat
  stage : Fetch.Stage
  deriving DecidableEq

/-- How far a fetch is. -/
inductive Progress (α : Type u) where
  | waiting (f : Fetch)
  | answered (answer : Except Error α)
  | broken

namespace Fetch

/-- Makes a call. -/
def call (p : FetchPolicy) (now left : Nat) (s : Store) : Progress α :=
  match s.conduct with
  | .answers delay failure => .waiting ⟨left, now + p.span delay, .called delay failure⟩
  | .breaks => .broken

/-- Makes the first call. -/
def start (p : FetchPolicy) (now : Nat) (s : Store) : Progress α × Store :=
  (call p now (p.attempts - 1) s, s.called)

/-- Takes an answer: it ends the fetch if it is a value or the last one. -/
def take (p : FetchPolicy) (now left : Nat) (answer : Except Error α) : Progress α :=
  match answer, left with
  | .error _, left + 1 => .waiting ⟨left, now + p.backoff, .resting⟩
  | answer, _ => .answered answer

/-- Goes on with a fetch that is due. -/
def resume (p : FetchPolicy) (target : String) (read : Store → α) (now : Nat) (f : Fetch)
    (s : Store) : Progress α × Store :=
  match f.stage with
  | .called delay failure =>
    (take p now f.left (p.judge target delay (answerOf target failure (read s))), s)
  | .resting => (call p now f.left s, s.called)

/-- What going on takes of a turn: waking up and reading the store take a unit each. -/
def price (p : FetchPolicy) (f : Fetch) : Nat :=
  match f.stage with
  | .called delay failure =>
    (if 0 < delay then 1 else 0) + if failure.isNone && delay ≤ p.timeout then 1 else 0
  | .resting => 1

end Fetch
end Watchpost
