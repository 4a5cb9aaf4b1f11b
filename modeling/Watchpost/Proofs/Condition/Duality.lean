import Watchpost.Condition.Evaluate

/-! Dual conditions.

The dual of a condition asks for the opposite at every node of its tree. Of texts it holds exactly
when the condition does not (`holds_dual`): an absent field equals nothing and is in no list, and
so differs from everything and is outside of every list. Patterns are the exception, since an
absent field is neither like one nor unlike it (`like_absent`). -/
namespace Watchpost

/-- `=` and `!=` change places. -/
def Comparison.dual : Comparison → Comparison
  | eq => ne
  | ne => eq
  | c => c

namespace Condition

/-- `AND` and `OR` change places at every node, and so do each test and its opposite. -/
def dual : Condition → Condition
  | both l r => either l.dual r.dual
  | either l r => both l.dual r.dual
  | compare field c l => compare field c.dual l
  | among field ls negated => among field ls !negated
  | like field p negated => like field p !negated

/-- Nowhere are numbers asked for their order. -/
def Textual : Condition → Prop
  | both l r | either l r => l.Textual ∧ r.Textual
  | compare _ c _ => c.isOrder = false
  | among _ _ _ | like _ _ _ => True

/-- The fields that patterns are held against. -/
def patternFields : Condition → List String
  | both l r | either l r => l.patternFields ++ r.patternFields
  | compare _ _ _ | among _ _ _ => []
  | like field _ _ => [field]

variable {e : Event} {field : String}

/-- An absent field differs from every literal. -/
theorem compares_dual {c : Comparison} (h : c.isOrder = false) (l : Literal) :
    compares e field c.dual l = !compares e field c l := by
  cases c with
  | eq => rfl
  | ne => exact (Bool.not_not _).symm
  | gt | ge | lt | le => cases h

/-- An absent field is outside of every list. -/
theorem among_dual (ls : List Literal) (negated : Bool) :
    (among field ls !negated).holds e = !(among field ls negated).holds e := by
  unfold holds
  cases e.text field with
  | none => rfl
  | some s => exact Bool.bne_not ..

theorem like_dual (h : (e.text field).isSome = true) (p : Like) (negated : Bool) :
    (like field p !negated).holds e = !(like field p negated).holds e := by
  obtain ⟨s, hs⟩ := Option.isSome_iff_exists.1 h
  unfold holds
  rw [hs]
  exact Bool.bne_not ..

/-- An absent field is neither like a pattern nor unlike it. -/
theorem like_absent (h : e.text field = none) (p : Like) (negated : Bool) :
    (like field p negated).holds e = false := by
  unfold holds
  rw [h]

/-- **The dual of a condition holds when the condition does not**, if it asks for texts only and
there is something to hold each pattern against. -/
theorem holds_dual {c : Condition} (htextual : c.Textual)
    (hpresent : ∀ field ∈ c.patternFields, (e.text field).isSome = true) :
    c.dual.holds e = !c.holds e := by
  induction c with
  | both l r ihl ihr =>
    have hl := ihl htextual.1 fun f hf => hpresent f (List.mem_append_left _ hf)
    have hr := ihr htextual.2 fun f hf => hpresent f (List.mem_append_right _ hf)
    rw [dual, holds, holds, hl, hr, Bool.not_and]
  | either l r ihl ihr =>
    have hl := ihl htextual.1 fun f hf => hpresent f (List.mem_append_left _ hf)
    have hr := ihr htextual.2 fun f hf => hpresent f (List.mem_append_right _ hf)
    rw [dual, holds, holds, hl, hr, Bool.not_or]
  | compare field c l => exact compares_dual htextual l
  | among field ls negated => exact among_dual ls negated
  | like field p negated => exact like_dual (hpresent field (List.mem_singleton_self field)) p negated

/-- **Duality is negation**, but for a pattern that an absent field is held against: neither it nor
its dual holds. -/
theorem duality (e : Event) :
    (∀ c : Condition, c.Textual → (∀ field ∈ c.patternFields, (e.text field).isSome = true) →
      c.dual.holds e = !c.holds e) ∧
    ∀ (field : String) (p : Like) (negated : Bool), e.text field = none →
      (like field p negated).holds e = false ∧ (like field p negated).dual.holds e = false :=
  ⟨fun _ htextual hpresent => holds_dual htextual hpresent, fun _ p negated h =>
    ⟨like_absent h p negated, like_absent h p !negated⟩⟩

/-- A report was printed; neither who did it nor how it ended is known. -/
def printed : Event :=
  { msgId := "1", timestamp := ⟨0, 0⟩, action := some "PRINT",
    ext := Table.empty.insert "fname" "report.pdf" }

/-- No success, and nothing but a report or an unlisted user. -/
def unclear : Condition :=
  .both (.compare "outcome" .ne (.text "success"))
    (.either (.like "fname" ((Like.read? "%.pdf").get (by decide +kernel)) true)
      (.among "suid" [.text "alice", .integer 7] true))

theorem duality_unclear : unclear.Textual ∧
    (∀ field ∈ unclear.patternFields, (printed.text field).isSome = true) ∧
    unclear.holds printed = true ∧ unclear.dual.holds printed = false ∧
    printed.text "outcome" = none ∧
    (∀ p, (like "outcome" p true).holds printed = false ∧
      (like "outcome" p true).dual.holds printed = false) := by
  have htextual : unclear.Textual := ⟨rfl, trivial, trivial⟩
  have hpresent : ∀ field ∈ unclear.patternFields, (printed.text field).isSome = true := by decide
  have hholds : unclear.holds printed = true := by decide +kernel
  have habsent : printed.text "outcome" = none := by decide
  have hdual := (duality printed).1 unclear htextual hpresent
  rw [hholds] at hdual
  exact ⟨htextual, hpresent, hholds, hdual, habsent, fun p =>
    (duality printed).2 "outcome" p true habsent⟩

end Condition
end Watchpost
