import Mathlib.Tactic

/-! # Ranges that tile an interval -/

namespace Tiling

structure Range where
  oldest : ℕ
  newest : ℕ
deriving DecidableEq, Repr

def Range.size (r : Range) : ℕ := r.newest - r.oldest + 1

def TilesFrom : ℕ → List Range → ℕ → Prop
  | k, [], m => k = m
  | k, r :: rs, m => r.oldest = k ∧ r.oldest ≤ r.newest ∧ TilesFrom (r.newest + 1) rs m

def Tiles (rs : List Range) (m : ℕ) : Prop := TilesFrom 1 rs (m + 1)

@[simp] lemma tiles_nil : Tiles [] 0 := rfl

variable {rs : List Range}

lemma TilesFrom.concat {r : Range} :
    ∀ {k m : ℕ}, TilesFrom k rs m → r.oldest = m → r.oldest ≤ r.newest →
      TilesFrom k (rs ++ [r]) (r.newest + 1) := by
  induction rs with
  | nil =>
    intro k m h hm hle
    exact ⟨hm.trans h.symm, hle, rfl⟩
  | cons r' rs ih =>
    rintro k m ⟨hk, hle', h⟩ hm hle
    exact ⟨hk, hle', ih h hm hle⟩

lemma Tiles.concat {r : Range} {m : ℕ} (h : Tiles rs m)
    (hm : r.oldest = m + 1) (hle : r.oldest ≤ r.newest) : Tiles (rs ++ [r]) r.newest :=
  TilesFrom.concat h hm hle

lemma TilesFrom.le : ∀ {k m : ℕ}, TilesFrom k rs m → k ≤ m := by
  induction rs with
  | nil => intro k m h; exact Nat.le_of_eq h
  | cons r rs ih =>
    rintro k m ⟨hk, hle, h⟩
    have := ih h
    omega

lemma TilesFrom.of_append {rs rs' : List Range} :
    ∀ {k m : ℕ}, TilesFrom k (rs ++ rs') m → ∃ j, TilesFrom k rs j ∧ TilesFrom j rs' m := by
  induction rs with
  | nil =>
    intro k m h
    exact ⟨k, rfl, h⟩
  | cons r rs ih =>
    rintro k m ⟨hk, hle, h⟩
    obtain ⟨j, hj, h⟩ := ih h
    exact ⟨j, ⟨hk, hle, hj⟩, h⟩

lemma Tiles.of_isPrefix {rs rs' : List Range} {m : ℕ} (h : Tiles rs' m) (hbegin : rs <+: rs') :
    ∃ k ≤ m, Tiles rs k := by
  obtain ⟨rest, rfl⟩ := hbegin
  obtain ⟨j, hj, hrest⟩ := h.of_append
  have hle := hj.le
  have hle' := hrest.le
  refine ⟨j - 1, by omega, ?_⟩
  rwa [Tiles, Nat.sub_add_cancel hle]

lemma TilesFrom.mem_bounds {r : Range} :
    ∀ {k m : ℕ}, TilesFrom k rs m → r ∈ rs → k ≤ r.oldest ∧ r.oldest ≤ r.newest ∧ r.newest < m := by
  induction rs with
  | nil => intro k m _ hr; simp at hr
  | cons r' rs ih =>
    rintro k m ⟨hk, hle, h⟩ hr
    have hm := h.le
    rcases List.mem_cons.mp hr with rfl | hr
    · omega
    · have := ih h hr
      omega

theorem TilesFrom.consecutive :
    ∀ {k m : ℕ}, TilesFrom k rs m →
      (∀ r, rs.head? = some r → r.oldest = k) ∧
        ∀ (i : ℕ) (a b : Range), rs[i]? = some a → rs[i + 1]? = some b →
          b.oldest = a.newest + 1 := by
  induction rs with
  | nil => intro k m _; simp
  | cons r rs ih =>
    rintro k m ⟨hk, _, h⟩
    obtain ⟨hhead, htail⟩ := ih h
    refine ⟨by simpa using hk, ?_⟩
    intro i a b ha hb
    cases i with
    | zero =>
      have har : r = a := by simpa using ha
      subst har
      exact hhead b (by simpa [List.head?_eq_getElem?] using hb)
    | succ j => exact htail j a b (by simpa using ha) (by simpa using hb)

end Tiling
