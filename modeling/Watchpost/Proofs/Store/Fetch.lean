import Watchpost.Proofs.Store.Retry
import Watchpost.Store.Fetch

/-! Fetches under way, and the calls they make.

A fetch that is gone on with whenever it is due comes to what calls in a row come to, after as many
calls and at that moment (`comes_start`). -/
namespace Watchpost

namespace Store

/-- A store that takes its next calls as a script says from number `n` on, and from which the same
is read all the time. -/
structure Plays (s : Store) (target : String) (read : Store → α) (value : α)
    (script : Nat → Call α) (n : Nat) : Prop where
  reads : ∀ t : Store, t.definitions = s.definitions → read t = value
  takes : ∀ i, ∃ delay failure, (s.script[i]?).getD s.usual = .answers delay failure ∧
    script (n + i) = ⟨delay, answerOf target failure value⟩

variable {s : Store} {target : String} {read : Store → α} {value : α} {script : Nat → Call α}
  {n : Nat}

theorem Plays.conduct (h : s.Plays target read value script n) : ∃ delay failure,
    s.conduct = .answers delay failure ∧ script n = ⟨delay, answerOf target failure value⟩ := by
  obtain ⟨delay, failure, htakes, hscript⟩ := h.takes 0
  refine ⟨delay, failure, ?_, hscript⟩
  rw [← htakes]
  unfold Store.conduct
  cases s.script <;> rfl

theorem Plays.called (h : s.Plays target read value script n) :
    s.called.Plays target read value script (n + 1) where
  reads t ht := h.reads t ht
  takes i := by
    obtain ⟨delay, failure, htakes, hscript⟩ := h.takes (i + 1)
    refine ⟨delay, failure, ?_, ?_⟩
    · rw [← htakes, Store.called, List.getElem?_tail]
    · rw [← hscript, Nat.add_assoc, Nat.add_comm 1]

end Store

namespace Fetch

/-- A fetch that is gone on with whenever it is due comes to an answer at a moment, and makes some
more calls before. -/
inductive Comes (p : FetchPolicy) (target : String) (read : Store → α) :
    Fetch → Store → Except Error α → Nat → Nat → Prop where
  | answers {f : Fetch} {s s' : Store} {answer : Except Error α}
      (h : f.resume p target read f.due s = (.answered answer, s')) :
      Comes p target read f s answer f.due 0
  | rests {f g : Fetch} {s s' : Store} {answer : Except Error α} {moment calls : Nat}
      (h : f.resume p target read f.due s = (.waiting g, s')) (hrests : g.stage = .resting)
      (hrest : Comes p target read g s' answer moment calls) :
      Comes p target read f s answer moment calls
  | calls {f g : Fetch} {s s' : Store} {answer : Except Error α} {moment calls : Nat}
      (h : f.resume p target read f.due s = (.waiting g, s')) (hcalls : g.stage ≠ .resting)
      (hrest : Comes p target read g s' answer moment calls) :
      Comes p target read f s answer moment (calls + 1)

variable {p : FetchPolicy} {target : String} {read : Store → α} {value : α} {s : Store}
  {script : Nat → Call α} {n delay : Nat} {failure : Option String}

/-- A fetch that has made a call. -/
def afterCall (p : FetchPolicy) (now left delay : Nat) (failure : Option String) : Fetch :=
  ⟨left, now + p.span delay, .called delay failure⟩

theorem exists_call (h : s.Plays target read value script n) (p : FetchPolicy) (now left : Nat) :
    ∃ delay failure, script n = ⟨delay, answerOf target failure value⟩ ∧
      (call p now left s : Progress α) = .waiting (afterCall p now left delay failure) := by
  obtain ⟨delay, failure, hconduct, hscript⟩ := h.conduct
  refine ⟨delay, failure, hscript, ?_⟩
  rw [call, hconduct]
  rfl

theorem resume_afterCall (p : FetchPolicy) (now left : Nat) (hread : read s = value)
    (hcall : script n = ⟨delay, answerOf target failure value⟩) :
    (afterCall p now left delay failure).resume p target read (now + p.span delay) s =
      (take p (now + p.span delay) left (p.verdict target (script n)), s) := by
  rw [hcall, ← hread]
  rfl

theorem take_last (now : Nat) (answer : Except Error α) :
    take p now 0 answer = .answered answer := by
  cases answer <;> rfl

/-- Once a call is made, the fetch comes to what that call and those after it come to. -/
theorem comes_afterCall (p : FetchPolicy) (now left : Nat)
    (h : s.Plays target read value script (n + 1))
    (hcall : script n = ⟨delay, answerOf target failure value⟩) :
    ∃ calls, (p.retryFrom target script n left).calls = calls + 1 ∧
      Comes p target read (afterCall p now left delay failure) s
        (p.retryFrom target script n left).answer
        (now + (p.retryFrom target script n left).elapsed) calls := by
  -- The answer ends the fetch, or there is a pause and the next call is made.
  induction left generalizing n now delay failure s with
  | zero =>
    have hresume := resume_afterCall p now 0 (h.reads s rfl) hcall
    rw [take_last] at hresume
    rw [FetchPolicy.retryFrom, hcall]
    rw [hcall] at hresume
    exact ⟨0, rfl, .answers hresume⟩
  | succ left ih =>
    have hresume := resume_afterCall p now (left + 1) (h.reads s rfl) hcall
    cases hverdict : p.verdict target (script n) with
    | ok found =>
      rw [FetchPolicy.retryFrom_of_ok hverdict, hcall]
      rw [hverdict] at hresume
      exact ⟨0, rfl, .answers hresume⟩
    | error e =>
      rw [FetchPolicy.retryFrom_of_error hverdict, hcall]
      rw [hverdict] at hresume
      let later := now + p.span delay + p.backoff
      obtain ⟨delay', failure', hcall', hnext⟩ := exists_call h p later left
      have hrested : (⟨left, later, .resting⟩ : Fetch).resume p target read later s =
          (.waiting (afterCall p later left delay' failure'), s.called) := by
        rw [resume, hnext]
      obtain ⟨calls, hcalls, hcomes⟩ := ih later h.called hcall'
      refine ⟨calls + 1, congrArg (· + 1) hcalls, .rests hresume rfl (.calls hrested ?_ ?_)⟩
      · exact fun h => by cases h
      · dsimp only
        rw [← Nat.add_assoc, ← Nat.add_assoc]
        exact hcomes

/-- **A fetch comes to what calls in a row come to**, after as many calls and at the same moment. -/
theorem comes_start (h : s.Plays target read value script 0) (p : FetchPolicy) (now : Nat) :
    ∃ f calls, start p now s = ((.waiting f : Progress α), s.called) ∧
      (p.retry target script).calls = calls + 1 ∧
      Comes p target read f s.called (p.retry target script).answer
        (now + (p.retry target script).elapsed) calls := by
  obtain ⟨delay, failure, hcall, hstart⟩ := exists_call h p now (p.attempts - 1)
  obtain ⟨calls, hcalls, hcomes⟩ := comes_afterCall p now (p.attempts - 1) h.called hcall
  refine ⟨_, calls, ?_, hcalls, hcomes⟩
  rw [start, hstart]

end Fetch
end Watchpost
