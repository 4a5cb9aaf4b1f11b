import Watchpost.Condition.Basic
import Watchpost.Event

/-! Whether a condition holds of an event.

Texts are compared as texts. An order is one of numbers, where what is absent or no
number counts as zero. An absent field equals nothing, is in no list and is like no
pattern, nor unlike one. -/
namespace Watchpost

/-- Whether numbers stand in the order that a comparison asks for. -/
def Comparison.ordered (c : Comparison) (a b : Double) : Bool :=
  match c with
  | eq | ne => false
  | gt => b.lt a
  | ge => b.le a
  | lt => a.lt b
  | le => a.le b

def Comparison.isOrder : Comparison → Bool
  | eq | ne => false
  | gt | ge | lt | le => true

namespace Condition

/-- A comparison of a field, present or absent, with a literal. -/
def compares (e : Event) (field : String) (c : Comparison) (l : Literal) : Bool :=
  match c with
  | .eq => e.text field == some l.asText
  | .ne => e.text field != some l.asText
  | c => c.ordered (e.number field) l.asNumber

def holds (e : Event) : Condition → Bool
  | both l r => l.holds e && r.holds e
  | either l r => l.holds e || r.holds e
  | compare field c l => compares e field c l
  | among field ls negated =>
    match e.text field with
    | none => negated
    | some s => (ls.any fun l => l.asText == s) != negated
  | like field p negated =>
    match e.text field with
    | none => false
    | some s => p.takes s != negated

end Condition
end Watchpost
