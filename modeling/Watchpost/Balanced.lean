/-! Joining a list into a balanced tree.

Long chains are cut in the middle again and again, so what is built from `n`
parts is only as deep as the logarithm of `n`, and the parts keep their order. -/
namespace Watchpost

/-- Joins the parts of a list; `none` stands for an empty one. -/
def balanced (join : α → α → α) (none : α) (parts : List α) : α :=
  match h : parts with
  | [] => none
  | [part] => part
  | _ :: _ :: _ =>
    let half := parts.length / 2
    join (balanced join none (parts.take half)) (balanced join none (parts.drop half))
termination_by parts.length
decreasing_by all_goals simp [h]; omega

/-- Two parts or more are cut in the middle. -/
theorem balanced_halves (join : α → α → α) (none : α) {parts : List α} (h : 2 ≤ parts.length) :
    balanced join none parts = join (balanced join none (parts.take (parts.length / 2)))
      (balanced join none (parts.drop (parts.length / 2))) := by
  cases parts with
  | nil => cases h
  | cons part rest =>
    cases rest with
    | nil => exact absurd h (Nat.not_succ_le_self 1)
    | cons next rest => rw [balanced]

end Watchpost
