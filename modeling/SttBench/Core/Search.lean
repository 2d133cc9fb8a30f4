import Mathlib.Tactic

/-! # First occurrence of a pattern -/

namespace Search

variable {α : Type*} [DecidableEq α]

def find (pat : List α) : List α → Option ℕ
  | [] => none
  | a :: l => if pat <+: a :: l then some 0 else (find pat l).map (· + 1)

lemma find_fits {pat : List α} : ∀ {l : List α} {i : ℕ}, find pat l = some i →
    i + pat.length ≤ l.length
  | [], i, h => by simp [find] at h
  | a :: l, i, h => by
    rw [find] at h
    split at h
    · rename_i hp
      obtain rfl : 0 = i := by simpa using h
      have := hp.length_le
      simpa using this
    · obtain ⟨j, hj, rfl⟩ := Option.map_eq_some_iff.mp h
      have := find_fits hj
      simp only [List.length_cons]
      omega

theorem find_append {pat : List α} (r : List α) : ∀ {l : List α} {i : ℕ}, find pat l = some i →
    find pat (l ++ r) = some i
  | [], i, h => by simp [find] at h
  | a :: l, i, h => by
    rw [List.cons_append, find]
    rw [find] at h
    split at h
    · rename_i hp
      have hp' : pat <+: a :: (l ++ r) := hp.trans (List.prefix_append (a :: l) r)
      rw [if_pos hp']
      exact h
    · rename_i hp
      obtain ⟨j, hj, rfl⟩ := Option.map_eq_some_iff.mp h
      have hlen := find_fits hj
      -- an occurrence at the front of the longer list would already fit in the shorter one
      have hp' : ¬ pat <+: a :: (l ++ r) := by
        intro hpre
        refine hp (List.prefix_of_prefix_length_le hpre (List.prefix_append (a :: l) r) ?_)
        simp only [List.length_cons]
        omega
      rw [if_neg hp', find_append r hj]
      rfl

lemma find_skip {c : α} {pat r : List α} : ∀ {l : List α}, c ∉ l →
    find (c :: pat) (l ++ r) = (find (c :: pat) r).map (· + l.length)
  | [], _ => by simp
  | a :: l, hl => by
    simp only [List.mem_cons, not_or] at hl
    have hp : ¬ c :: pat <+: a :: (l ++ r) := by
      intro hpre
      exact hl.1 (List.cons_prefix_cons.mp hpre).1
    rw [List.cons_append, find, if_neg hp, find_skip hl.2, Option.map_map]
    congr 1

end Search
