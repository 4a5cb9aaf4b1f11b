import Watchpost.Error

/-! Calls that are given up after a while and made again.

Times are in milliseconds. -/
namespace Watchpost

structure FetchPolicy where
  /-- How long an answer is waited for. -/
  timeout : Nat
  /-- How often a call is made again. -/
  retries : Nat
  /-- How long it takes until it is made again. -/
  backoff : Nat
  deriving DecidableEq

/-- A call: how long it takes and what it answers in the end. -/
structure Call (α : Type u) where
  delay : Nat
  answer : Except Error α

/-- What came of calls: the last answer, how many calls there were and how long they took. -/
structure Retried (α : Type u) where
  answer : Except Error α
  calls : Nat
  elapsed : Nat

namespace FetchPolicy
variable (p : FetchPolicy)

def timedOut (target : String) : Error := .fetch target s!"timed out after {p.timeout}ms"

/-- What a call is taken to have answered. An answer just at the timeout counts. -/
def judge (target : String) (delay : Nat) (answer : Except Error α) : Except Error α :=
  if delay ≤ p.timeout then answer else .error (p.timedOut target)

/-- How long a call is waited for. -/
def span (delay : Nat) : Nat := min delay p.timeout

/-- Calls may be counted in 32 bits. -/
def maxAttempts : Nat := 0xFFFFFFFF

def attempts : Nat := min (p.retries + 1) maxAttempts

/-- All calls together take no longer. -/
def longest : Nat := p.attempts * (p.timeout + p.backoff)

/-- Makes a call, the one with number `n`, and up to `left` more. -/
def retryFrom (target : String) (call : Nat → Call α) (n : Nat) : (left : Nat) → Retried α
  | 0 =>
    let c := call n
    ⟨p.judge target c.delay c.answer, 1, p.span c.delay⟩
  | left + 1 =>
    let c := call n
    match p.judge target c.delay c.answer with
    | .ok value => ⟨.ok value, 1, p.span c.delay⟩
    | .error _ =>
      let rest := retryFrom target call (n + 1) left
      ⟨rest.answer, rest.calls + 1, p.span c.delay + p.backoff + rest.elapsed⟩

/-- Calls until there is a value or the policy allows no more. -/
def retry (target : String) (call : Nat → Call α) : Retried α :=
  p.retryFrom target call 0 (p.attempts - 1)

end FetchPolicy
end Watchpost
