import Mathlib.Data.List.Basic

/-!
# Decoders of a stream

If appended input changes no result, the pieces in which a stream arrives do not matter.
-/

namespace SttBench

inductive Decoder.Step (σ β : Type)
  | next (s : σ) (n : ℕ) (out : List β)
  | halt (out : List β)

structure Decoder (σ α β : Type) where
  /-- The step at the front of a buffer, or `none` if more input is needed. -/
  step : σ → List α → Option (Decoder.Step σ β)
  progress : ∀ {s b s' n out}, step s b = some (.next s' n out) → 0 < n ∧ n ≤ b.length
  stable : ∀ {s b r} (x : List α), step s b = some r → step s (b ++ x) = some r

namespace Decoder

variable {σ α β : Type} (D : Decoder σ α β)

/-- Where a decoder has come to; a decoder that is through has no state. -/
@[ext]
structure Result (σ α β : Type) where
  state : Option σ
  rest : List α
  out : List β

def Result.prepend (out : List β) (r : Result σ α β) : Result σ α β := { r with out := out ++ r.out }

lemma Result.prepend_nil (r : Result σ α β) : r.prepend [] = r := rfl

lemma Result.prepend_prepend (o₁ o₂ : List β) (r : Result σ α β) :
    (r.prepend o₂).prepend o₁ = r.prepend (o₁ ++ o₂) :=
  Result.ext rfl rfl (List.append_assoc ..).symm

def run (s : σ) (b : List α) : Result σ α β :=
  match _h : D.step s b with
  | none => ⟨some s, b, []⟩
  | some (.halt out) => ⟨none, [], out⟩
  | some (.next s' n out) => (run s' (b.drop n)).prepend out
termination_by b.length
decreasing_by
  obtain ⟨hpos, hle⟩ := D.progress _h
  rw [List.length_drop]
  omega

section

variable {D}

lemma run_of_none {s : σ} {b : List α} (h : D.step s b = none) : D.run s b = ⟨some s, b, []⟩ := by
  rw [run]
  split <;> simp_all

lemma run_of_halt {s : σ} {b : List α} {out : List β} (h : D.step s b = some (.halt out)) :
    D.run s b = ⟨none, [], out⟩ := by
  rw [run]
  split <;> simp_all

lemma run_of_next {s s' : σ} {b : List α} {n : ℕ} {out : List β}
    (h : D.step s b = some (.next s' n out)) : D.run s b = (D.run s' (b.drop n)).prepend out := by
  rw [run]
  split <;> simp_all

end

def resume (r : Result σ α β) (x : List α) : Result σ α β :=
  match r.state with
  | none => r
  | some s => (D.run s (r.rest ++ x)).prepend r.out

lemma resume_prepend (out : List β) (r : Result σ α β) (x : List α) :
    D.resume (r.prepend out) x = (D.resume r x).prepend out := by
  obtain ⟨state, rest, o⟩ := r
  cases state with
  | none => rfl
  | some s => exact (Result.prepend_prepend ..).symm

theorem run_append (s : σ) (b x : List α) : D.run s (b ++ x) = D.resume (D.run s b) x := by
  fun_induction run D s b with
  | case1 s b h => exact (Result.prepend_nil _).symm
  | case2 s b out h => rw [run_of_halt (D.stable x h), resume]
  | case3 s b s' n out h ih =>
    rw [run_of_next (D.stable x h), List.drop_append_of_le_length (D.progress h).2, ih,
      resume_prepend]

end Decoder

end SttBench
