import Watchpost.Proofs.Channel
import Watchpost.Proofs.Lane.Serving

/-! Stories of a lane.

A story tells in order what was put into the channels of a lane, what its replica took and when it
looked for updates in vain, whatever the schedule is (`Does`, `Story`). All that is said of stories
later comes down to the steps of the replica, since nothing else touches that
(`Does.replica_or`). -/
namespace Watchpost

namespace Lane

/-! ### Stories -/

/-- What happens to messages at a lane. -/
inductive Entry where
  | put (p : Put)
  /-- There will be no more messages. -/
  | ended
  | took (t : Taken)

def Taken.update? : Taken → Option (RuleUpdate × UInt64)
  | update u seq => some (u, seq)
  | noUpdate | record _ => none

def Taken.record? : Taken → Option Record
  | record r => some r
  | update _ _ | noUpdate => none

namespace Entry

def put? : Entry → Option Put
  | put p => some p
  | ended | took _ => none

def taken? : Entry → Option Taken
  | took t => some t
  | ended | put _ => none

end Entry

section
variable (es : List Entry)

/-- The updates that were put in, the oldest first. -/
def told : List RuleUpdate := updatesPut (es.filterMap Entry.put?)

/-- The records that were put in, the oldest first. -/
def given : List Record := recordsPut (es.filterMap Entry.put?)

/-- The updates that the replica took, with their numbers. -/
def handled : List (RuleUpdate × UInt64) := (es.filterMap Entry.taken?).filterMap Taken.update?

/-- The records that the replica took. -/
def processed : List Record := (es.filterMap Entry.taken?).filterMap Taken.record?

end

section
variable (es more : List Entry)

theorem told_append : told (es ++ more) = told es ++ told more := by
  simp [told, updatesPut]

theorem given_append : given (es ++ more) = given es ++ given more := by
  simp [given, recordsPut]

theorem handled_append : handled (es ++ more) = handled es ++ handled more := by
  simp [handled]

theorem processed_append : processed (es ++ more) = processed es ++ processed more := by
  simp [processed]

end

def tells (us : List RuleUpdate) : List Entry := us.map fun u => .put (.update u)

def gives (rs : List Record) : List Entry := rs.map fun r => .put (.record r)

theorem told_tells (us : List RuleUpdate) : told (tells us) = us := by
  induction us with
  | nil => rfl
  | cons u rest ih => exact congrArg (u :: ·) ih

theorem given_gives (rs : List Record) : given (gives rs) = rs := by
  induction rs with
  | nil => rfl
  | cons r rest ih => exact congrArg (r :: ·) ih

theorem given_tells (us : List RuleUpdate) : given (tells us) = [] := by
  induction us with
  | nil => rfl
  | cons u rest ih => exact ih

theorem told_gives (rs : List Record) : told (gives rs) = [] := by
  induction rs with
  | nil => rfl
  | cons r rest ih => exact ih

theorem taken_tells (us : List RuleUpdate) : (tells us).filterMap Entry.taken? = [] := by
  induction us with
  | nil => rfl
  | cons u rest ih => exact ih

theorem taken_gives (rs : List Record) : (gives rs).filterMap Entry.taken? = [] := by
  induction rs with
  | nil => rfl
  | cons r rest ih => exact ih

theorem told_taken (ts : List Taken) : told (ts.map .took) = [] := by
  induction ts with
  | nil => rfl
  | cons t rest ih => exact ih

/-- What the replica comes by next, as an entry. -/
def taking (l : Lane) : List Entry := l.takes?.toList.map .took

/-- What a lane does or what is done to it, and what that means for its messages. Each step may be
made in another world. -/
inductive Does (l : Lane) : List Entry → Lane → Prop where
  | nothing : Does l [] l
  | replica {l' : Lane} {w w' : World} (h : l.replicaStep w = some (w', l')) : Does l l.taking l'
  | worker {l' : Lane} {w w' : World} (h : l.workerStep w = some (w', l')) : Does l [] l'
  | tell {us : List RuleUpdate} {updates : Channel RuleUpdate} (hopen : l.updates.isOpen = true)
      (hput : l.updates.Puts us updates) : Does l (tells us) { l with updates }
  | give {rs : List Record} {records : Channel Record} (hopen : l.records.isOpen = true)
      (hput : l.records.Puts rs records) : Does l (gives rs) { l with records }
  | endInput : Does l [.ended] l.endInput

/-- What happened at a lane since it was as at the start. -/
inductive Story (start : Lane) : List Entry → Lane → Prop where
  | nil : Story start [] start
  | snoc {es more : List Entry} {l l' : Lane} (h : Story start es l) (hdoes : l.Does more l') :
      Story start (es ++ more) l'

section
variable {es more : List Entry} {l l' : Lane}

/-- Telling and giving handle nothing. -/
theorem handled_of_none (h : more.filterMap Entry.taken? = []) : handled (es ++ more) = handled es := by
  simp [handled, h]

theorem processed_of_none (h : more.filterMap Entry.taken? = []) :
    processed (es ++ more) = processed es := by
  simp [processed, h]

/-- A step handles the update that it takes, if it takes one. -/
theorem handled_taking (es : List Entry) (l : Lane) :
    handled (es ++ l.taking) = handled es ++ (l.takes?.bind Taken.update?).toList := by
  rw [handled_append]
  unfold taking
  cases l.takes? with
  | none => rfl
  | some taken => cases taken <;> rfl

/-- A step processes the record that it takes, if it takes one. -/
theorem processed_taking (es : List Entry) (l : Lane) :
    processed (es ++ l.taking) = processed es ++ (l.takes?.bind Taken.record?).toList := by
  rw [processed_append]
  unfold taking
  cases l.takes? with
  | none => rfl
  | some taken => cases taken <;> rfl

/-- What a lane does is a step of its replica, or leaves that and its task alone. -/
theorem Does.replica_or (hdoes : l.Does more l') :
    (more = l.taking ∧ ∃ w w', l.replicaStep w = some (w', l')) ∨
      more.filterMap Entry.taken? = [] ∧ l'.replica = l.replica ∧ l'.task = l.task := by
  cases hdoes with
  | replica hstep => exact .inl ⟨rfl, _, _, hstep⟩
  | nothing | endInput => exact .inr ⟨rfl, rfl, rfl⟩
  | tell => exact .inr ⟨taken_tells _, rfl, rfl⟩
  | give => exact .inr ⟨taken_gives _, rfl, rfl⟩
  | worker hstep =>
    obtain ⟨worker, requests, outcomes, rfl⟩ := ofWorker_workerStep hstep
    exact .inr ⟨rfl, rfl, rfl⟩

theorem isOver_of_replicaStep {w w' : World} (h : l.replicaStep w = some (w', l')) :
    l.isOver = false := by
  unfold replicaStep at h
  unfold isOver
  split at h
  · next htask => rw [htask]
  · next htask => rw [htask]
  · next htask => rw [htask]
  · cases h
  · cases h

theorem isBroken_of_live (h : l.isOver = false) : l.isBroken = false := by
  unfold isOver at h
  unfold isBroken
  cases htask : l.task with
  | broken =>
    rw [htask] at h
    cases h
  | _ => rfl

/-- A lane that is broken stays so. -/
theorem isBroken_of_does (hdoes : l.Does more l') (h : l'.isBroken = false) : l.isBroken = false := by
  rcases hdoes.replica_or with ⟨-, w, w', hstep⟩ | ⟨-, -, htask⟩
  · exact isBroken_of_live (isOver_of_replicaStep hstep)
  · unfold isBroken at h ⊢
    rw [← htask]
    exact h

end

end Lane
end Watchpost
