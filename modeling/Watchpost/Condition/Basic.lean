import Watchpost.Condition.Literal
import Watchpost.Like

/-! Conditions: what an event has to be for a rule to fire. -/
namespace Watchpost

/-- How a field is compared with a literal. -/
inductive Comparison where
  | eq
  | ne
  | gt
  | ge
  | lt
  | le
  deriving DecidableEq

/-- Fields are told by name; `negated` asks for the opposite. -/
inductive Condition where
  | both (l r : Condition)
  | either (l r : Condition)
  | compare (field : String) (comparison : Comparison) (literal : Literal)
  | among (field : String) (literals : List Literal) (negated : Bool)
  | like (field : String) (pattern : Like) (negated : Bool)
  deriving DecidableEq

def Comparison.render : Comparison → String
  | eq => "="
  | ne => "!="
  | gt => ">"
  | ge => ">="
  | lt => "<"
  | le => "<="

namespace Condition

/-- The fields a condition asks for, from left to right. -/
def fields : Condition → List String
  | both l r | either l r => l.fields ++ r.fields
  | compare field _ _ | among field _ _ | like field _ _ => [field]

def height : Condition → Nat
  | both l r | either l r => 1 + max l.height r.height
  | compare _ _ _ | among _ _ _ | like _ _ _ => 0

def negation (negated : Bool) : String := if negated then "NOT " else ""

/-- The text of a condition, with every connective in parentheses. -/
def render : Condition → String
  | both l r => s!"({l.render} AND {r.render})"
  | either l r => s!"({l.render} OR {r.render})"
  | compare field comparison literal => s!"{field} {comparison.render} {literal.render}"
  | among field literals negated =>
    let list := ", ".intercalate (literals.map Literal.render)
    s!"{field} {negation negated}IN ({list})"
  | like field pattern negated => s!"{field} {negation negated}LIKE {quoted pattern.source}"

end Condition
end Watchpost
