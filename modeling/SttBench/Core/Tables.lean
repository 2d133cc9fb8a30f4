import Mathlib.Tactic

/-! # Tables with one entry changed -/

namespace Tables

variable {α β : Type*} [DecidableEq α] {f : α → Option β} {a x : α} {v w : β}

lemma update_some_iff : Function.update f a (some v) x = some w ↔
    x = a ∧ v = w ∨ x ≠ a ∧ f x = some w := by
  by_cases hx : x = a <;> simp [hx]

lemma update_none_iff : Function.update f a none x = some w ↔ x ≠ a ∧ f x = some w := by
  by_cases hx : x = a <;> simp [hx]

end Tables
