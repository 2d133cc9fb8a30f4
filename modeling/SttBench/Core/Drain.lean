import Mathlib.Tactic

/-!
# Loops that drain a queue of deadlines

That such a loop stops is a matter of counting the turns that are due.
-/

namespace Drain

section Loop

variable {σ ρ : Type*}

def loop (body : ℕ → σ → σ ⊕ ρ) : ℕ → ℕ → σ → Option ρ
  | 0, _, _ => none
  | fuel + 1, turn, s =>
    match body turn s with
    | .inl s' => loop body fuel (turn + 1) s'
    | .inr r => some r

theorem loop_stops {body : ℕ → σ → σ ⊕ ρ} {P : σ → Prop} {R : ρ → Prop} (μ : σ → ℕ)
    (hgo : ∀ turn s s', P s → body turn s = .inl s' → P s' ∧ μ s' < μ s)
    (hstop : ∀ turn s r, P s → body turn s = .inr r → R r) (turn : ℕ) {s : σ} (hs : P s) :
    ∃ r, R r ∧ ∀ fuel, μ s < fuel → loop body fuel turn s = some r := by
  induction hn : μ s using Nat.strong_induction_on generalizing turn s with
  | h n ih =>
    cases hbody : body turn s with
    | inr r =>
      refine ⟨r, hstop turn s r hs hbody, fun fuel hfuel => ?_⟩
      obtain ⟨fuel, rfl⟩ := Nat.exists_eq_add_one_of_ne_zero (Nat.ne_zero_of_lt hfuel)
      rw [loop, hbody]
    | inl s' =>
      obtain ⟨hs', hlt⟩ := hgo turn s s' hs hbody
      obtain ⟨r, hr, hloop⟩ := ih (μ s') (hn ▸ hlt) (turn + 1) hs' rfl
      refine ⟨r, hr, fun fuel hfuel => ?_⟩
      obtain ⟨fuel, rfl⟩ := Nat.exists_eq_add_one_of_ne_zero (Nat.ne_zero_of_lt hfuel)
      rw [loop, hbody]
      exact hloop fuel (by omega)

end Loop

section Turns

variable {R : Type*} [AddCommGroup R] [LinearOrder R] {now period t : R}

noncomputable def turnsDue (now period t : R) : ℕ := sInf {n : ℕ | now < t + n • period}

variable [IsOrderedAddMonoid R] [Archimedean R]

lemma turnsDue_eq_add_one (hperiod : 0 < period) (hdue : t ≤ now) :
    turnsDue now period t = turnsDue now period (t + period) + 1 := by
  have hset : {n : ℕ | now < t + period + n • period} =
      {n : ℕ | now < t + (n + 1) • period} := by
    ext n
    rw [Set.mem_ofPred_eq, Set.mem_ofPred_eq, succ_nsmul', add_assoc]
  obtain ⟨n, hn⟩ := exists_lt_nsmul hperiod (now - t)
  have hmem : {n : ℕ | now < t + n • period}.Nonempty := ⟨n, sub_lt_iff_lt_add'.mp hn⟩
  have hpos : 0 < turnsDue now period t := by
    rw [Nat.pos_iff_ne_zero]
    intro hzero
    have hlast := Nat.sInf_mem hmem
    rw [← turnsDue, hzero] at hlast
    exact absurd (by simpa using hlast) (not_lt.mpr hdue)
  rw [turnsDue, turnsDue, hset]
  exact (Nat.sInf_add hpos).symm

end Turns

section Grid

variable {n : ℕ} {now t t' : ℚ}

def placesDue (n : ℕ) (now t : ℚ) : ℕ := if t ≤ now then (⌊now * n⌋ - ⌊t * n⌋).toNat + 1 else 0

lemma placesDue_pos (hdue : t ≤ now) : 0 < placesDue n now t := by
  rw [placesDue, if_pos hdue]
  exact Nat.succ_pos _

lemma placesDue_lt (hn : 0 < n) (hdue : t ≤ now) (hlt : t < t') (hplace : ∃ k : ℤ, t' * n = k) :
    placesDue n now t' < placesDue n now t := by
  obtain ⟨k, hk⟩ := hplace
  have hpos : (0 : ℚ) < n := Nat.cast_pos.mpr hn
  by_cases hdue' : t' ≤ now
  · have hfloor : ⌊t * n⌋ < k := Int.floor_lt.mpr (hk ▸ mul_lt_mul_of_pos_right hlt hpos)
    have hlast : k ≤ ⌊now * n⌋ := Int.le_floor.mpr (hk ▸ mul_le_mul_of_nonneg_right hdue' hpos.le)
    rw [placesDue, placesDue, if_pos hdue, if_pos hdue', hk, Int.floor_intCast]
    omega
  · rw [placesDue, if_neg hdue']
    exact placesDue_pos hdue

end Grid

end Drain
