import SttBench.Core.Tables

/-!
# Requests and the workers assigned to them

A client has at most one open request, and one worker has it in hand.
-/

open Tables

variable {ω β : Type*}

structure Assigned (pend : ω → Option β) (held : ℕ → Option (ω × β)) : Prop where
  open_of_held : ∀ i o b, held i = some (o, b) → pend o = some b
  held_of_open : ∀ o b, pend o = some b → ∃ i, held i = some (o, b)
  unique : ∀ i j o b b', held i = some (o, b) → held j = some (o, b') → i = j

namespace Assigned

variable {pend : ω → Option β} {held : ℕ → Option (ω × β)} {o : ω} {b : β} {i : ℕ}

lemma empty : Assigned (fun _ : ω => (none : Option β)) fun _ => none where
  open_of_held := by simp
  held_of_open := by simp
  unique := by simp

lemma held_ne (h : Assigned pend held) (ho : pend o = none) (j : ℕ) (b : β) :
    held j ≠ some (o, b) := fun hj => by
  have := h.open_of_held j o b hj
  rw [ho] at this
  exact absurd this (by simp)

variable [DecidableEq ω]

theorem assign (h : Assigned pend held) (ho : pend o = none) (hi : held i = none) (b : β) :
    Assigned (Function.update pend o (some b)) (Function.update held i (some (o, b))) where
  open_of_held j o' b' hj := by
    obtain ⟨-, ⟨⟩⟩ | ⟨-, hheld⟩ := update_some_iff.mp hj
    · exact Function.update_self ..
    · refine update_some_iff.mpr (.inr ⟨?_, h.open_of_held j o' b' hheld⟩)
      rintro rfl
      exact h.held_ne ho j b' hheld
  held_of_open o' b' ho' := by
    obtain ⟨rfl, rfl⟩ | ⟨-, hopen⟩ := update_some_iff.mp ho'
    · exact ⟨i, Function.update_self ..⟩
    · obtain ⟨j, hj⟩ := h.held_of_open o' b' hopen
      refine ⟨j, update_some_iff.mpr (.inr ⟨?_, hj⟩)⟩
      rintro rfl
      cases hi.symm.trans hj
  unique j k o' b₁ b₂ hj hk := by
    rcases update_some_iff.mp hj with ⟨rfl, ⟨⟩⟩ | ⟨-, hheld⟩ <;>
      rcases update_some_iff.mp hk with ⟨rfl, hsame⟩ | ⟨-, hheld'⟩
    · rfl
    · exact absurd hheld' (h.held_ne ho k b₂)
    · cases hsame
      exact absurd hheld (h.held_ne ho j b₁)
    · exact h.unique j k o' b₁ b₂ hheld hheld'

theorem release (h : Assigned pend held) (hi : held i = some (o, b)) :
    Assigned (Function.update pend o none) (Function.update held i none) where
  open_of_held j o' b' hj := by
    obtain ⟨hji, hheld⟩ := update_none_iff.mp hj
    refine update_none_iff.mpr ⟨?_, h.open_of_held j o' b' hheld⟩
    rintro rfl
    exact hji (h.unique j i o' b' b hheld hi)
  held_of_open o' b' ho' := by
    obtain ⟨hne, hopen⟩ := update_none_iff.mp ho'
    obtain ⟨j, hj⟩ := h.held_of_open o' b' hopen
    refine ⟨j, update_none_iff.mpr ⟨?_, hj⟩⟩
    rintro rfl
    cases hi.symm.trans hj
    exact hne rfl
  unique j k o' b₁ b₂ hj hk :=
    h.unique j k o' b₁ b₂ (update_none_iff.mp hj).2 (update_none_iff.mp hk).2

end Assigned
