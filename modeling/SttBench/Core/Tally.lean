import Mathlib.Algebra.BigOperators.Fin
import Mathlib.Algebra.Order.Floor.Div

/-! # Totals -/

namespace SttBench.Tally

open List

variable {σ ε α : Type*}

theorem foldl_add {f : σ → ε → σ} {m : σ → ℕ} {w : ε → ℕ} (h : ∀ s e, m (f s e) = m s + w e)
    (es : List ε) (s : σ) : m (es.foldl f s) = m s + (es.map w).sum := by
  induction es generalizing s with
  | nil => simp
  | cons e es ih => rw [foldl_cons, ih, h, map_cons, sum_cons, Nat.add_assoc]

theorem foldl_append {f : σ → ε → σ} {m : σ → List α} {w : ε → List α}
    (h : ∀ s e, m (f s e) = m s ++ w e) (es : List ε) (s : σ) :
    m (es.foldl f s) = m s ++ es.flatMap w := by
  induction es generalizing s with
  | nil => simp
  | cons e es ih => rw [foldl_cons, ih, h, flatMap_cons, append_assoc]

theorem foldl_keep {f : σ → ε → σ} {P : σ → Prop} (h : ∀ s e, P s → P (f s e)) (es : List ε)
    {s : σ} (hs : P s) : P (es.foldl f s) := by
  induction es generalizing s with
  | nil => exact hs
  | cons e es ih => exact ih (h s e hs)

theorem sum_update {n : ℕ} {τ : Type*} (t : Fin n → τ) (i : Fin n) {x : τ} (μ : τ → ℕ) {d : ℕ}
    (h : μ x = μ (t i) + d) : ∑ j, μ (Function.update t i x j) = (∑ j, μ (t j)) + d := by
  rw [← Finset.add_sum_erase _ _ (Finset.mem_univ i),
    ← Finset.add_sum_erase Finset.univ (fun j => μ (t j)) (Finset.mem_univ i)]
  have hrest : ∑ j ∈ Finset.univ.erase i, μ (Function.update t i x j) =
      ∑ j ∈ Finset.univ.erase i, μ (t j) := by
    refine Finset.sum_congr rfl ?_
    intro j hj
    rw [Function.update_of_ne (Finset.ne_of_mem_erase hj)]
  rw [hrest, Function.update_self, h]
  omega

/-! ## Logs with an owner -/

section

variable {n : ℕ} (key : α → ℕ)

theorem countP_append_own {i : Fin n} (log : List α) {new : List α} (hnew : ∀ a ∈ new, key a = i)
    (j : Fin n) : (log ++ new).countP (fun a => key a = j) =
      log.countP (fun a => key a = j) + if j = i then new.length else 0 := by
  rw [countP_append, Nat.add_left_cancel_iff]
  split_ifs with hj
  · subst hj
    exact countP_eq_length.mpr fun a ha => decide_eq_true (hnew a ha)
  · refine countP_eq_zero.mpr ?_
    intro a ha hown
    exact hj (Fin.ext ((of_decide_eq_true hown).symm.trans (hnew a ha)))

theorem length_eq_sum_countP {log : List α} (hlog : ∀ a ∈ log, key a < n) :
    log.length = ∑ i : Fin n, log.countP fun a => key a = i := by
  induction log with
  | nil => simp
  | cons a log ih =>
    obtain ⟨ha, hlog⟩ := forall_mem_cons.mp hlog
    have hone : ∑ i : Fin n, (if key a = i then 1 else 0) = 1 := by
      rw [Finset.sum_eq_single (⟨key a, ha⟩ : Fin n)]
      · exact if_pos rfl
      · intro i _ hi
        exact if_neg fun h => hi (Fin.ext h.symm)
      · exact fun h => (h (Finset.mem_univ _)).elim
    simp only [length_cons, countP_cons, decide_eq_true_eq, Finset.sum_add_distrib,
      hone, ih hlog]

end

theorem ceilDiv_succ (m : ℕ) {k : ℕ} (hk : 0 < k) :
    (m + 1) ⌈/⌉ k = m ⌈/⌉ k + if m % k = 0 then 1 else 0 := by
  have hdvd : k ∣ m + k - 1 + 1 ↔ m % k = 0 := by
    rw [Nat.sub_add_cancel (by omega), Nat.dvd_add_self_right, Nat.dvd_iff_mod_eq_zero]
  rw [Nat.ceilDiv_eq_add_pred_div, Nat.ceilDiv_eq_add_pred_div,
    show m + 1 + k - 1 = m + k - 1 + 1 by omega, Nat.succ_div]
  simp only [hdvd]

end SttBench.Tally
