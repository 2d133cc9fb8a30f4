import Mathlib.Data.List.Basic

/-! # Two schedules of one periodic task -/

variable {τ : Type*} {onTime : τ → Prop} {runs : List τ} {expected planned now : ℕ}

structure Drift (onTime : τ → Prop) (runs : List τ) (expected planned : ℕ) : Prop where
  le : expected ≤ planned
  eq_iff : expected = planned ↔ ∀ run ∈ runs, onTime run

lemma Drift.start (onTime : τ → Prop) (first : ℕ) : Drift onTime [] first first :=
  ⟨Nat.le_refl first, by simp⟩

lemma Drift.run (h : Drift onTime runs expected planned) {run : τ} {a b : ℕ} (hle : a ≤ b)
    (hrun : onTime run ↔ a = b) : Drift onTime (runs ++ [run]) (expected + a) (planned + b) := by
  have hbehind := h.le
  refine ⟨Nat.add_le_add h.le hle, ?_⟩
  rw [List.forall_mem_append, List.forall_mem_singleton, ← h.eq_iff, hrun]
  omega

lemma Drift.lateness_iff (h : Drift onTime runs expected planned) (hdue : planned ≤ now) :
    now - expected = now - planned ↔ ∀ run ∈ runs, onTime run := by
  have hbehind := h.le
  rw [← h.eq_iff]
  omega

/-! ## Every run, with those before it -/

def Along (P : List τ → τ → Prop) (runs : List τ) : Prop :=
  ∀ before run after, runs = before ++ run :: after → P before run

variable {P : List τ → τ → Prop}

lemma Along.nil : Along P [] := by
  intro before run after hsplit
  simp at hsplit

lemma Along.concat (h : Along P runs) {run : τ} (hrun : P runs run) : Along P (runs ++ [run]) := by
  intro before run' after hsplit
  obtain rfl | ⟨after, last, rfl⟩ := after.eq_nil_or_concat
  · obtain ⟨rfl, hlast⟩ := List.append_inj' hsplit rfl
    obtain rfl := List.singleton_inj.mp hlast
    exact hrun
  · have hsplit : runs ++ [run] = (before ++ run' :: after) ++ [last] := by simpa using hsplit
    exact h _ _ _ (List.append_inj_left' hsplit rfl)
