import Mathlib.Tactic

/-! # Buffers that are overwritten in place -/

namespace Buffer

open List Option

variable {α : Type*} {b b' p m s t r : List α} {pos len : ℕ}

def write (b : List α) (pos : ℕ) (s : List α) : Option (List α) :=
  if pos + s.length ≤ b.length then some (b.take pos ++ (s ++ b.drop (pos + s.length))) else none

def slice (b : List α) (pos len : ℕ) : Option (List α) :=
  if pos + len ≤ b.length then some ((b.drop pos).take len) else none

def set (b : List α) (pos : ℕ) (a : α) : Option (List α) := write b pos [a]

def blit (src : List α) (srcPos : ℕ) (dst : List α) (dstPos len : ℕ) : Option (List α) :=
  (slice src srcPos len).bind (write dst dstPos)

/-! ## Runs -/

lemma exists_run (h : pos + len ≤ b.length) :
    ∃ p m r, b = p ++ (m ++ r) ∧ p.length = pos ∧ m.length = len := by
  refine ⟨b.take pos, (b.drop pos).take len, (b.drop pos).drop len, by simp, ?_, ?_⟩
  · rw [length_take]
    omega
  · rw [length_take, length_drop]
    omega

lemma write_run (h : m.length = s.length) :
    write (p ++ (m ++ r)) p.length s = some (p ++ (s ++ r)) := by
  have hfits : p.length + s.length ≤ (p ++ (m ++ r)).length := by
    rw [length_append, length_append]
    omega
  have hrest : (p ++ (m ++ r)).drop (p.length + s.length) = r := by
    rw [← h, ← append_assoc, ← length_append, drop_left]
  rw [write, if_pos hfits, take_left, hrest]

lemma write_all (h : b.length = s.length) : write b 0 s = some s := by
  have hrun := write_run (p := []) (r := []) h
  rwa [nil_append, nil_append, append_nil, append_nil] at hrun

lemma slice_run : slice (p ++ (m ++ r)) p.length m.length = some m := by
  rw [slice, if_pos (by simp), drop_left, take_left]

lemma blit_all : blit s 0 b pos s.length = write b pos s := by
  rw [blit, slice, if_pos (by simp), drop_zero, take_length, bind_some]

lemma length_of_write (h : write b pos s = some b') : b'.length = b.length := by
  rw [write] at h
  split_ifs at h with hfits
  cases h
  simp only [length_append, length_take, length_drop]
  omega

lemma isSome_write : (write b pos s).isSome ↔ pos + s.length ≤ b.length := by
  rw [write]
  split_ifs with h <;> simp [h]

lemma exists_write (b : List α) (pos : ℕ) (s : List α) (h : pos + s.length ≤ b.length) :
    ∃ b', write b pos s = some b' :=
  isSome_iff_exists.mp (isSome_write.mpr h)

lemma prefix_of_write (hp : p <+: b) (h : write b p.length s = some b') : p ++ s <+: b' := by
  rw [write] at h
  split_ifs at h
  cases h
  rw [← prefix_iff_eq_take.mp hp, ← append_assoc]
  exact prefix_append _ _

lemma blit_front (h : s <+: b) (next : List α) (hroom : s.length ≤ next.length) :
    ∃ b', blit b 0 next 0 s.length = some b' ∧ b'.length = next.length ∧ s <+: b' := by
  have hslice : slice b 0 s.length = some s := by
    have hlen := h.length_le
    rw [slice, if_pos (by omega), drop_zero, ← prefix_iff_eq_take.mp h]
  obtain ⟨b', hb'⟩ := exists_write next 0 s (by omega)
  refine ⟨b', by rw [blit, hslice, bind_some, hb'], length_of_write hb', ?_⟩
  exact prefix_of_write nil_prefix hb'

private lemma exists_runs (h : pos + (s ++ t).length ≤ b.length) :
    ∃ p m₁ m₂ r, b = p ++ (m₁ ++ (m₂ ++ r)) ∧ p.length = pos ∧ m₁.length = s.length ∧
      m₂.length = t.length := by
  obtain ⟨p, m, r, rfl, hp, hm⟩ := exists_run h
  rw [length_append] at hm
  refine ⟨p, m.take s.length, m.drop s.length, r, ?_, hp, ?_, ?_⟩
  · rw [← append_assoc (m.take _), take_append_drop]
  · rw [length_take]
    omega
  · rw [length_drop]
    omega

lemma write_append : (write b pos s).bind (write · (pos + s.length) t) = write b pos (s ++ t) := by
  by_cases hall : pos + (s ++ t).length ≤ b.length
  · obtain ⟨p, m₁, m₂, r, rfl, rfl, h₁, h₂⟩ := exists_runs hall
    rw [write_run h₁, bind_some, ← append_assoc, ← length_append, write_run h₂,
      ← append_assoc m₁, write_run (by simp [h₁, h₂])]
    simp
  · have hnone : write b pos (s ++ t) = none := if_neg hall
    rw [hnone, bind_eq_none_iff]
    intro b' hb'
    refine if_neg ?_
    rw [length_of_write hb']
    rwa [length_append, ← Nat.add_assoc] at hall

lemma write_append_rev :
    (write b (pos + s.length) t).bind (write · pos s) = write b pos (s ++ t) := by
  by_cases hall : pos + (s ++ t).length ≤ b.length
  · obtain ⟨p, m₁, m₂, r, rfl, rfl, h₁, h₂⟩ := exists_runs hall
    have hlate : write (p ++ (m₁ ++ (m₂ ++ r))) (p.length + s.length) t =
        some (p ++ (m₁ ++ (t ++ r))) := by
      rw [← h₁, ← append_assoc, ← length_append, write_run h₂, append_assoc]
    rw [hlate, bind_some, write_run h₁, ← append_assoc m₁,
      write_run (by simp [h₁, h₂]), append_assoc]
  · have hnone : write b pos (s ++ t) = none := if_neg hall
    have hlate : write b (pos + s.length) t = none :=
      if_neg (by rwa [length_append, ← Nat.add_assoc] at hall)
    rw [hnone, hlate, bind_none]

lemma set_four {a₀ a₁ a₂ a₃ : α} :
    ((set b pos a₀).bind fun b => (set b (pos + 1) a₁).bind fun b =>
      (set b (pos + 2) a₂).bind fun b => set b (pos + 3) a₃) = write b pos [a₀, a₁, a₂, a₃] := by
  have htwo : ∀ b : List α, ((set b (pos + 2) a₂).bind fun b => set b (pos + 3) a₃) =
      write b (pos + 2) [a₂, a₃] := fun b => write_append
  have hthree : ∀ b : List α, ((set b (pos + 1) a₁).bind fun b => write b (pos + 2) [a₂, a₃]) =
      write b (pos + 1) [a₁, a₂, a₃] := fun b => write_append
  simp only [htwo, hthree]
  exact write_append

lemma set_four_bind {a₀ a₁ a₂ a₃ : α} {β : Type*} (k : List α → Option β) :
    ((set b pos a₀).bind fun b => (set b (pos + 1) a₁).bind fun b =>
      (set b (pos + 2) a₂).bind fun b => (set b (pos + 3) a₃).bind k) =
      (write b pos [a₀, a₁, a₂, a₃]).bind k := by
  rw [← set_four]
  simp only [bind_assoc]

lemma foldlM_set {f : List α → ℕ → Option α} {g : ℕ → α} (hpos : pos ≤ b.length) {n : ℕ}
    (hf : ∀ i < n, ∀ w, write b pos ((List.range i).map g) = some w → f w i = some (g i)) :
    (List.range n).foldlM (fun w i => (f w i).bind (set w (pos + i))) b =
      write b pos ((List.range n).map g) := by
  induction n with
  | zero => simp [write, hpos]
  | succ n ih =>
    have hnext : ∀ w, write b pos ((List.range n).map g) = some w →
        (f w n).bind (set w (pos + n)) = write w (pos + ((List.range n).map g).length) [g n] := by
      intro w hw
      rw [hf n (Nat.lt_succ_self n) w hw, bind_some, length_map, length_range]
      rfl
    rw [range_succ, foldlM_append, ih fun i hi => hf i (hi.trans (Nat.lt_succ_self n)),
      map_append, map_singleton, ← write_append]
    cases hw : write b pos ((List.range n).map g) with
    | none => rfl
    | some w =>
      rw [bind_some, ← hnext w hw]
      simp

/-! ## Steps that write -/

def Writes (f : List α → ℕ → Option (List α × ℕ)) (s : List α) : Prop :=
  ∀ b pos, f b pos = (write b pos s).map fun b => (b, pos + s.length)

lemma Writes.andThen {f g : List α → ℕ → Option (List α × ℕ)} (hf : Writes f s)
    (hg : Writes g t) : Writes (fun b pos => (f b pos).bind fun x => g x.1 x.2) (s ++ t) := by
  intro b pos
  beta_reduce
  rw [hf b pos, ← write_append, bind_map, map_bind]
  refine congrArg _ (funext fun b => ?_)
  rw [Function.comp_apply, Function.comp_apply, hg, length_append, Nat.add_assoc]

/-! ## Growth -/

def grown (need n : ℕ) (hn : 0 < n) : ℕ :=
  if n < need then grown need (n * 2) (by omega) else n
termination_by need - n

lemma le_grown (need n : ℕ) (hn : 0 < n) : need ≤ grown need n hn := by
  fun_induction grown need n hn with
  | case1 n hn hlt ih => exact ih
  | case2 n hn hge => exact Nat.not_lt.mp hge

abbrev Alloc (α : Type*) := (n : ℕ) → {b : List α // b.length = n}

def reserve (alloc : Alloc α) (b : List α) (len extra : ℕ) : Option (List α) :=
  if b.length < len + extra then
    blit b 0 (alloc (grown (len + extra) (max 1 (b.length * 2)) (by omega))).1 0 len
  else some b

lemma reserve_spec (alloc : Alloc α) (h : s <+: b) (extra : ℕ) :
    ∃ b', reserve alloc b s.length extra = some b' ∧ s.length + extra ≤ b'.length ∧ s <+: b' := by
  rw [reserve]
  split_ifs with hfull
  · generalize hnext : alloc (grown (s.length + extra) _ _) = next
    have hroom : s.length + extra ≤ next.1.length := by
      rw [next.2]
      exact le_grown ..
    obtain ⟨b', hb', hlen, hs⟩ := blit_front h next.1 (by omega)
    exact ⟨b', hb', hlen.symm ▸ hroom, hs⟩
  · exact ⟨b, rfl, Nat.not_lt.mp hfull, h⟩

end Buffer
