import Mathlib.Algebra.Ring.Nat
import Watchpost.Store.Retry

/-! What comes of calls that are made again.

Calls are made one after the other until one answers with a value in time or the policy allows no
more (`tries_retryFrom`). So it is known how many there are, what the last one is taken to have
answered and how long they take with the pauses between them (`retry_exact`). -/
namespace Watchpost.FetchPolicy

variable (p : FetchPolicy) (target : String)

/-! ### Single calls -/

/-- A call answers with a value in time. An answer just at the timeout counts. -/
def Serves (c : Call α) : Prop := c.delay ≤ p.timeout ∧ ∃ value, c.answer = .ok value

/-- No call before this one answers with a value in time. -/
def First (script : Nat → Call α) (n : Nat) : Prop :=
  p.Serves (script n) ∧ ∀ i < n, ¬p.Serves (script i)

/-- What a call is taken to have answered. -/
def verdict (c : Call α) : Except Error α := p.judge target c.delay c.answer

variable {p target} {c : Call α}

theorem verdict_in_time (h : c.delay ≤ p.timeout) : p.verdict target c = c.answer := if_pos h

theorem verdict_late (h : p.timeout < c.delay) :
    p.verdict target c = .error (p.timedOut target) := if_neg (Nat.not_le.2 h)

variable (target) in
theorem serves_iff : p.Serves c ↔ ∃ value, p.verdict target c = .ok value := by
  rcases Nat.lt_or_ge p.timeout c.delay with hlate | htime
  · rw [verdict_late hlate]
    exact ⟨fun h => absurd h.1 (Nat.not_le.2 hlate), fun ⟨value, h⟩ => by cases h⟩
  · rw [verdict_in_time htime]
    exact ⟨fun h => h.2, fun h => ⟨htime, h⟩⟩

variable (target) in
theorem exists_error_of_not_serves (h : ¬p.Serves c) :
    ∃ e, p.verdict target c = .error e ∧ (c.delay ≤ p.timeout → c.answer = .error e) ∧
      (p.timeout < c.delay → e = p.timedOut target) := by
  cases hverdict : p.verdict target c with
  | ok value => exact absurd ((serves_iff target).2 ⟨value, hverdict⟩) h
  | error e =>
    refine ⟨e, rfl, fun htime => ?_, fun hlate => ?_⟩
    · rw [← verdict_in_time htime, hverdict]
    · rw [verdict_late hlate] at hverdict
      cases hverdict
      rfl

/-! ### Calls in a row -/

variable (p target)

/-- How long calls are waited for, those with the numbers from `n` on. -/
def waits (script : Nat → Call α) (n calls : Nat) : Nat :=
  ((List.range' n calls).map fun i => p.span (script i).delay).sum

/-- What came of calls with the numbers from `n` on, of which `left` may follow the first. -/
structure Tries (script : Nat → Call α) (n left : Nat) (r : Retried α) (last : Nat) : Prop where
  calls : r.calls = last + 1
  last_le : last ≤ left
  unserved : ∀ i < last, ¬p.Serves (script (n + i))
  served : last < left → p.Serves (script (n + last))
  answer : r.answer = p.verdict target (script (n + last))
  elapsed : r.elapsed = p.waits script n r.calls + p.backoff * last

variable {script : Nat → Call α}

variable {p target} in
theorem retryFrom_of_ok {n left : Nat} {value : α}
    (h : p.verdict target (script n) = .ok value) :
    p.retryFrom target script n (left + 1) = ⟨.ok value, 1, p.span (script n).delay⟩ := by
  unfold verdict at h
  rw [retryFrom, h]

variable {p target} in
theorem retryFrom_of_error {n left : Nat} {e : Error}
    (h : p.verdict target (script n) = .error e) :
    p.retryFrom target script n (left + 1) =
      ⟨(p.retryFrom target script (n + 1) left).answer,
        (p.retryFrom target script (n + 1) left).calls + 1,
        p.span (script n).delay + p.backoff + (p.retryFrom target script (n + 1) left).elapsed⟩ := by
  unfold verdict at h
  rw [retryFrom, h]

variable (script) in
/-- **Calls are made until one serves or no more may follow.** -/
theorem tries_retryFrom (n left : Nat) :
    ∃ last, p.Tries target script n left (p.retryFrom target script n left) last := by
  -- A call that serves is the last one; after any other the rest is that of the next call.
  induction left generalizing n with
  | zero =>
    exact ⟨0, rfl, Nat.le_refl 0, fun i hi => absurd hi (Nat.not_lt_zero i),
      fun h => absurd h (Nat.lt_irrefl 0), rfl, rfl⟩
  | succ left ih =>
    cases hverdict : p.verdict target (script n) with
    | ok value =>
      rw [retryFrom_of_ok hverdict]
      exact ⟨0, rfl, Nat.zero_le _, fun i hi => absurd hi (Nat.not_lt_zero i),
        fun _ => (serves_iff target).2 ⟨value, hverdict⟩, hverdict.symm, rfl⟩
    | error e =>
      obtain ⟨last, hcalls, hlast, hunserved, hserved, hanswer, helapsed⟩ := ih (n + 1)
      have hplace (i : Nat) : n + 1 + i = n + (i + 1) := by omega
      have hfirst : ¬p.Serves (script n) := by
        rw [serves_iff target, hverdict]
        rintro ⟨value, h⟩
        cases h
      rw [retryFrom_of_error hverdict]
      refine ⟨last + 1, congrArg (· + 1) hcalls, Nat.succ_le_succ hlast, fun i hi => ?_,
        fun h => ?_, ?_, ?_⟩
      · cases i with
        | zero => exact hfirst
        | succ i => exact hplace i ▸ hunserved i (Nat.lt_of_succ_lt_succ hi)
      · exact hplace last ▸ hserved (Nat.lt_of_succ_lt_succ h)
      · exact hplace last ▸ hanswer
      · have hwaits (calls : Nat) : p.waits script n (calls + 1) =
            p.span (script n).delay + p.waits script (n + 1) calls := rfl
        have hpause : p.backoff * (last + 1) = p.backoff * last + p.backoff := Nat.mul_succ ..
        dsimp only
        rw [hwaits, helapsed, hpause]
        omega

/-- **Calls are made again just as the policy says**: until one answers with a value in time, and at
most so often as it allows. The last one tells what comes of them; it takes as long as each call is
waited for, with a pause between any two. -/
theorem retry_exact (hretries : p.retries < maxAttempts) (script : Nat → Call α) :
    (∀ n, p.First script n →
      (p.retry target script).calls = min (n + 1) (p.retries + 1) ∧
      (n + 1 ≤ p.retries + 1 → ∃ value, (script n).answer = .ok value ∧
        (p.retry target script).answer = .ok value)) ∧
    ((∀ n, ¬p.Serves (script n)) → (p.retry target script).calls = p.retries + 1) ∧
    ((∀ n < p.retries + 1, ¬p.Serves (script n)) →
      ∃ e, (p.retry target script).answer = .error e ∧
        ((script p.retries).delay ≤ p.timeout → (script p.retries).answer = .error e) ∧
        (p.timeout < (script p.retries).delay → e = p.timedOut target)) ∧
    (p.retry target script).elapsed =
      ((List.range (p.retry target script).calls).map fun n =>
        min (script n).delay p.timeout).sum +
          p.backoff * ((p.retry target script).calls - 1) ∧
    ∀ n, n + 1 < (p.retry target script).calls → ¬p.Serves (script n) := by
  have hattempts : p.attempts - 1 = p.retries := by
    unfold attempts
    omega
  obtain ⟨last, hcalls, hlast, hunserved, hserved, hanswer, helapsed⟩ :=
    p.tries_retryFrom target script 0 p.retries
  have hretry : p.retry target script = p.retryFrom target script 0 p.retries := by
    rw [retry, hattempts]
  rw [← hretry] at hcalls hanswer helapsed
  simp only [Nat.zero_add] at hunserved hserved hanswer
  -- Without a call that serves, calls are made as long as the policy allows.
  have hexhausted (h : ∀ n < p.retries + 1, ¬p.Serves (script n)) : last = p.retries :=
    Nat.le_antisymm hlast (Nat.not_lt.1 fun hlt => h last (by omega) (hserved hlt))
  refine ⟨fun n ⟨hserves, hfirst⟩ => ?_, fun hnone => ?_, fun hnone => ?_, ?_, fun n hn => ?_⟩
  · have hle : last ≤ n := Nat.not_lt.1 fun hlt => hunserved n hlt hserves
    rcases Nat.lt_or_ge p.retries n with hlate | htime
    · have := hexhausted fun i hi => hfirst i (by omega)
      exact ⟨by omega, fun h => by omega⟩
    · have hsame : last = n := Nat.le_antisymm hle
        (Nat.not_lt.1 fun hlt => hfirst last hlt (hserved (by omega)))
      subst hsame
      obtain ⟨value, hvalue⟩ := hserves.2
      refine ⟨by omega, fun _ => ⟨value, hvalue, ?_⟩⟩
      rw [hanswer, verdict_in_time hserves.1, hvalue]
  · rw [hcalls, hexhausted fun n _ => hnone n]
  · obtain ⟨e, he, htime, hlate⟩ := exists_error_of_not_serves target
      (hnone p.retries (Nat.lt_succ_self _))
    refine ⟨e, ?_, htime, hlate⟩
    rw [hanswer, hexhausted hnone, he]
  · rw [helapsed, hcalls, waits, ← List.range_eq_range']
    rfl
  · exact hunserved n (by omega)

/-- A store that first is too slow, then fails, and at last answers just in time. -/
def recovering : Nat → Call Nat
  | 0 => ⟨150, .ok 7⟩
  | 1 => ⟨5, .error (.fetch "A" "unavailable")⟩
  | _ => ⟨100, .ok 7⟩

theorem retry_exact_recovering :
    (⟨100, 2, 10⟩ : FetchPolicy).retries < maxAttempts ∧
    (⟨100, 2, 10⟩ : FetchPolicy).First recovering 2 ∧
    ((⟨100, 2, 10⟩ : FetchPolicy).retry "A" recovering).calls = 3 ∧
    (∃ value, (recovering 2).answer = .ok value ∧
      ((⟨100, 2, 10⟩ : FetchPolicy).retry "A" recovering).answer = .ok value) ∧
    ((⟨100, 2, 10⟩ : FetchPolicy).retry "A" recovering).elapsed = 225 := by
  let p : FetchPolicy := ⟨100, 2, 10⟩
  have hretries : p.retries < maxAttempts := by decide
  have hfirst : p.First recovering 2 := by
    refine ⟨⟨Nat.le_refl 100, 7, rfl⟩, fun i hi => ?_⟩
    rintro ⟨htime, value, hvalue⟩
    match i with
    | 0 => exact absurd htime (by decide)
    | 1 => cases hvalue
  obtain ⟨hserved, -, -, helapsed, -⟩ := p.retry_exact "A" hretries recovering
  obtain ⟨hcalls, hvalue⟩ := hserved 2 hfirst
  have hthree : (p.retry "A" recovering).calls = 3 := hcalls
  refine ⟨hretries, hfirst, hthree, hvalue (by decide), ?_⟩
  rw [helapsed, hthree]
  rfl

end Watchpost.FetchPolicy
