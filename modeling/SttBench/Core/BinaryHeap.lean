import Mathlib.Tactic

/-!
# Binary heaps

Sifting up and down in the first `n` places of a sequence, over any linear order of keys.
-/

namespace BinaryHeap

open Function

variable {α β : Type*} {n i j : ℕ} {f : ℕ → α}

def parent (i : ℕ) : ℕ := (i - 1) / 2

lemma parent_lt (hi : 0 < i) : parent i < i := by
  unfold parent
  omega

lemma parent_eq_iff (hj : 0 < j) : parent j = i ↔ j = 2 * i + 1 ∨ j = 2 * i + 2 := by
  unfold parent
  omega

/-! ## What is in the heap -/

def contents (n : ℕ) (f : ℕ → α) : Multiset α := (Multiset.range n).map f

lemma contents_succ (n : ℕ) (f : ℕ → α) : contents (n + 1) f = f n ::ₘ contents n f := by
  simp [contents, Multiset.range_succ]

@[simp] lemma card_contents (n : ℕ) (f : ℕ → α) : Multiset.card (contents n f) = n := by
  simp [contents]

lemma mem_contents {a : α} : a ∈ contents n f ↔ ∃ i < n, f i = a := by
  simp [contents]

lemma contents_congr {g : ℕ → α} (h : ∀ i < n, f i = g i) : contents n f = contents n g :=
  Multiset.map_congr rfl fun i hi => h i (Multiset.mem_range.mp hi)

def swap (f : ℕ → α) (i j : ℕ) : ℕ → α := f ∘ Equiv.swap i j

@[simp] lemma swap_left (f : ℕ → α) (i j : ℕ) : swap f i j i = f j := by
  simp [swap]

@[simp] lemma swap_right (f : ℕ → α) (i j : ℕ) : swap f i j j = f i := by
  simp [swap]

lemma swap_of_ne {k : ℕ} (hi : k ≠ i) (hj : k ≠ j) : swap f i j k = f k := by
  simp [swap, Equiv.swap_apply_of_ne_of_ne hi hj]

lemma contents_swap (hi : i < n) (hj : j < n) : contents n (swap f i j) = contents n f := by
  have hrange : (Multiset.range n).map (Equiv.swap i j) = Multiset.range n := by
    have hmap : (Finset.range n).map (Equiv.swap i j).toEmbedding = Finset.range n := by
      ext k
      simp only [Finset.mem_map_equiv, Equiv.symm_swap, Finset.mem_range]
      rcases eq_or_ne k i with rfl | hki
      · simpa using iff_of_true hj hi
      · rcases eq_or_ne k j with rfl | hkj
        · simpa using iff_of_true hi hj
        · rw [Equiv.swap_apply_of_ne_of_ne hki hkj]
    exact congrArg Finset.val hmap
  rw [contents, swap, ← Multiset.map_map, hrange, contents]

lemma cons_contents_update (hi : i < n) (a : α) :
    f i ::ₘ contents n (update f i a) = a ::ₘ contents n f := by
  have hmem : i ∈ Multiset.range n := Multiset.mem_range.mpr hi
  have hrest : ((Multiset.range n).erase i).map (update f i a) =
      ((Multiset.range n).erase i).map f := by
    refine Multiset.map_congr rfl fun k hk => update_of_ne ?_ a f
    exact ((Multiset.nodup_range n).mem_erase_iff.mp hk).1
  rw [contents, contents, ← Multiset.cons_erase hmem, Multiset.map_cons, Multiset.map_cons,
    update_self, hrest, Multiset.cons_swap]

lemma cons_contents_pop (n : ℕ) (f : ℕ → α) :
    f 0 ::ₘ contents n (update f 0 (f n)) = contents (n + 1) f := by
  cases n with
  | zero => simp [contents_succ]
  | succ n => rw [cons_contents_update (Nat.succ_pos n), contents_succ (n + 1)]

/-! ## The order -/

variable [LinearOrder β] (key : α → β)

def Ordered (n : ℕ) (f : ℕ → α) : Prop :=
  ∀ j, 0 < j → j < n → key (f (parent j)) ≤ key (f j)

variable {key}

theorem Ordered.root_le (h : Ordered key n f) (hi : i < n) : key (f 0) ≤ key (f i) := by
  induction i using Nat.strong_induction_on with
  | h i ih =>
    rcases Nat.eq_zero_or_pos i with rfl | hpos
    · exact le_rfl
    · have hlt := parent_lt hpos
      exact (ih (parent i) hlt (hlt.trans hi)).trans (h i hpos hi)

lemma Ordered.root_le_of_mem (h : Ordered key n f) {a : α} (ha : a ∈ contents n f) :
    key (f 0) ≤ key a := by
  obtain ⟨i, hi, rfl⟩ := mem_contents.mp ha
  exact h.root_le hi

lemma Ordered.mono {m : ℕ} (h : Ordered key n f) (hm : m ≤ n) : Ordered key m f :=
  fun j hpos hj => h j hpos (hj.trans_le hm)

lemma Ordered.congr {g : ℕ → α} (h : Ordered key n f) (hg : ∀ i < n, f i = g i) :
    Ordered key n g := by
  intro j hpos hj
  rw [← hg j hj, ← hg (parent j) ((parent_lt hpos).trans hj)]
  exact h j hpos hj

variable (key)

structure UpReady (n : ℕ) (f : ℕ → α) (i : ℕ) : Prop where
  ordered : ∀ j, 0 < j → j < n → j ≠ i → key (f (parent j)) ≤ key (f j)
  grand : ∀ j, 0 < j → j < n → parent j = i → 0 < i → key (f (parent i)) ≤ key (f j)

structure DownReady (n : ℕ) (f : ℕ → α) (i : ℕ) : Prop where
  ordered : ∀ j, 0 < j → j < n → parent j ≠ i → key (f (parent j)) ≤ key (f j)
  grand : ∀ j, 0 < j → j < n → parent j = i → 0 < i → key (f (parent i)) ≤ key (f j)

variable {key}

lemma Ordered.upReady (h : Ordered key n f) (a : α) :
    UpReady key (n + 1) (update f n a) n where
  ordered j hpos hj hne := by
    have hjn : j < n := by omega
    have hparent := (parent_lt hpos).trans hjn
    rw [update_of_ne hjn.ne, update_of_ne hparent.ne]
    exact h j hpos hjn
  grand j hpos hj heq _ := absurd (parent_lt hpos) (by omega)

lemma UpReady.move (h : UpReady key n f i) (hi : 0 < i) (hin : i < n)
    (hlt : key (f i) < key (f (parent i))) : UpReady key n (swap f i (parent i)) (parent i) := by
  have hpi := parent_lt hi
  have hup : ∀ hpos : 0 < parent i, key (f (parent (parent i))) ≤ key (f (parent i)) :=
    fun hpos => h.ordered (parent i) hpos (hpi.trans hin) hpi.ne
  constructor
  · intro j hpos hj hne
    have hpj := parent_lt hpos
    rcases eq_or_ne j i with rfl | hji
    · rw [swap_left, swap_right]
      exact hlt.le
    rw [swap_of_ne hji hne]
    rcases eq_or_ne (parent j) i with hpar | hpar
    · rw [hpar, swap_left]
      exact h.grand j hpos hj hpar hi
    rcases eq_or_ne (parent j) (parent i) with hsib | hsib
    · rw [hsib, swap_right]
      exact hlt.le.trans (hsib ▸ h.ordered j hpos hj hji)
    · rw [swap_of_ne hpar hsib]
      exact h.ordered j hpos hj hji
  · intro j hpos hj hpar hi'
    have hpp := parent_lt hi'
    rw [swap_of_ne (by omega) hpp.ne]
    rcases eq_or_ne j i with rfl | hji
    · rw [swap_left]
      exact hup hi'
    · have hjp : j ≠ parent i := by
        have := parent_lt hpos
        omega
      rw [swap_of_ne hji hjp]
      exact (hup hi').trans (hpar ▸ h.ordered j hpos hj hji)

lemma UpReady.ordered_of_stop (h : UpReady key n f i)
    (hstop : 0 < i → key (f (parent i)) ≤ key (f i)) : Ordered key n f := by
  intro j hpos hj
  rcases eq_or_ne j i with rfl | hji
  · exact hstop hpos
  · exact h.ordered j hpos hj hji

lemma Ordered.downReady (h : Ordered key n f) (a : α) :
    DownReady key n (update f 0 a) 0 where
  ordered j hpos hj hne := by
    rw [update_of_ne hpos.ne', update_of_ne hne]
    exact h j hpos hj
  grand _ _ _ _ h0 := absurd h0 (lt_irrefl 0)

lemma DownReady.move {c : ℕ} (h : DownReady key n f i) (hc : 0 < c) (hcn : c < n)
    (hpar : parent c = i) (hlt : key (f c) < key (f i))
    (hleast : ∀ d, 0 < d → d < n → parent d = i → key (f c) ≤ key (f d)) :
    DownReady key n (swap f i c) c := by
  have hic : i < c := hpar ▸ parent_lt hc
  constructor
  · intro j hpos hj hne
    have hpj := parent_lt hpos
    rcases eq_or_ne j c with rfl | hjc
    · rw [hpar, swap_left, swap_right]
      exact hlt.le
    rcases eq_or_ne (parent j) i with hsib | hsib
    · rw [hsib, swap_left, swap_of_ne (by omega) hjc]
      exact hleast j hpos hj hsib
    rw [swap_of_ne hsib hne]
    rcases eq_or_ne j i with rfl | hji
    · rw [swap_left]
      exact h.grand c hc hcn hpar hpos
    · rw [swap_of_ne hji hjc]
      exact h.ordered j hpos hj hsib
  · intro j hpos hj hjc _
    have hcj : c < j := hjc ▸ parent_lt hpos
    rw [hpar, swap_left, swap_of_ne (by omega) (by omega)]
    have := h.ordered j hpos hj (by omega)
    rwa [hjc] at this

lemma DownReady.ordered_of_stop (h : DownReady key n f i)
    (hstop : ∀ d, 0 < d → d < n → parent d = i → key (f i) ≤ key (f d)) : Ordered key n f := by
  intro j hpos hj
  rcases eq_or_ne (parent j) i with hpar | hpar
  · rw [hpar]
    exact hstop j hpos hj hpar
  · exact h.ordered j hpos hj hpar

/-! ## The loops -/

variable (lt : α → α → Bool)

def siftUp (f : ℕ → α) (i : ℕ) : ℕ → α :=
  if _h : 0 < i then
    if lt (f i) (f (parent i)) then siftUp (swap f i (parent i)) (parent i) else f
  else f
termination_by i
decreasing_by exact parent_lt _h

def pick (n : ℕ) (f : ℕ → α) (s c : ℕ) : ℕ := if c < n && lt (f c) (f s) then c else s

def smallest (n : ℕ) (f : ℕ → α) (i : ℕ) : ℕ :=
  pick lt n f (pick lt n f i (2 * i + 1)) (2 * i + 2)

lemma pick_cases (n : ℕ) (f : ℕ → α) (s c : ℕ) :
    pick lt n f s c = s ∨ pick lt n f s c = c ∧ c < n := by
  unfold pick
  split_ifs with htake
  · simp only [Bool.and_eq_true, decide_eq_true_eq] at htake
    exact .inr ⟨rfl, htake.1⟩
  · exact .inl rfl

lemma smallest_cases (n : ℕ) (f : ℕ → α) (i : ℕ) :
    smallest lt n f i = i ∨ (smallest lt n f i = 2 * i + 1 ∨ smallest lt n f i = 2 * i + 2) ∧
      smallest lt n f i < n := by
  unfold smallest
  obtain hright | ⟨hright, hn⟩ := pick_cases lt n f (pick lt n f i (2 * i + 1)) (2 * i + 2)
  · rw [hright]
    obtain hleft | ⟨hleft, hn⟩ := pick_cases lt n f i (2 * i + 1)
    · exact .inl hleft
    · rw [hleft]
      exact .inr ⟨.inl rfl, hn⟩
  · rw [hright]
    exact .inr ⟨.inr rfl, hn⟩

def siftDown (n : ℕ) (f : ℕ → α) (i : ℕ) : ℕ → α :=
  if _h : smallest lt n f i ≠ i then siftDown n (swap f i (smallest lt n f i)) (smallest lt n f i)
  else f
termination_by n - i
decreasing_by
  obtain heq | ⟨hchild, hlt⟩ := smallest_cases lt n f i
  · exact absurd heq _h
  · omega

variable {lt}

lemma contents_siftUp (hi : i < n) : contents n (siftUp lt f i) = contents n f := by
  induction f, i using siftUp.induct lt with
  | case1 f i hpos hlt ih =>
    have hparent := (parent_lt hpos).trans hi
    rw [siftUp, dif_pos hpos, if_pos hlt, ih hparent, contents_swap hi hparent]
  | case2 f i hpos hlt => rw [siftUp, dif_pos hpos, if_neg hlt]
  | case3 f i hpos => rw [siftUp, dif_neg hpos]

lemma contents_siftDown (hi : i < n) : contents n (siftDown lt n f i) = contents n f := by
  induction f, i using siftDown.induct lt n with
  | case1 f i hne ih =>
    have hlt := ((smallest_cases lt n f i).resolve_left hne).2
    rw [siftDown, dif_pos hne, ih hlt, contents_swap hi hlt]
  | case2 f i heq => rw [siftDown, dif_neg heq]

def Tests (lt : α → α → Bool) (key : α → β) (n : ℕ) (f : ℕ → α) : Prop :=
  ∀ a ∈ contents n f, ∀ b ∈ contents n f, lt a b = true ↔ key a < key b

lemma Tests.apply (h : Tests lt key n f) (hi : i < n) (hj : j < n) :
    lt (f i) (f j) = true ↔ key (f i) < key (f j) :=
  h _ (mem_contents.mpr ⟨i, hi, rfl⟩) _ (mem_contents.mpr ⟨j, hj, rfl⟩)

lemma Tests.of_contents {g : ℕ → α} (h : Tests lt key n f) (hg : contents n g = contents n f) :
    Tests lt key n g := by
  rw [Tests, hg]
  exact h

theorem ordered_siftUp (htest : Tests lt key n f) (hi : i < n) (h : UpReady key n f i) :
    Ordered key n (siftUp lt f i) := by
  induction f, i using siftUp.induct lt with
  | case1 f i hpos hlt ih =>
    have hparent := (parent_lt hpos).trans hi
    rw [siftUp, dif_pos hpos, if_pos hlt]
    refine ih (htest.of_contents (contents_swap hi hparent)) hparent ?_
    exact h.move hpos hi ((htest.apply hi hparent).mp hlt)
  | case2 f i hpos hlt =>
    rw [siftUp, dif_pos hpos, if_neg hlt]
    refine h.ordered_of_stop fun _ => not_lt.mp ?_
    exact mt (htest.apply hi ((parent_lt hpos).trans hi)).mpr hlt
  | case3 f i hpos =>
    rw [siftUp, dif_neg hpos]
    exact h.ordered_of_stop fun hi' => absurd hi' hpos

lemma key_pick (htest : Tests lt key n f) {s c : ℕ} (hs : s < n) :
    pick lt n f s c < n ∧ (pick lt n f s c = s ∨ key (f (pick lt n f s c)) < key (f s)) ∧
      (c < n → key (f (pick lt n f s c)) ≤ key (f c)) := by
  unfold pick
  split_ifs with htake
  · simp only [Bool.and_eq_true, decide_eq_true_eq] at htake
    exact ⟨htake.1, .inr ((htest.apply htake.1 hs).mp htake.2), fun _ => le_rfl⟩
  · refine ⟨hs, .inl rfl, fun hc => not_lt.mp fun hkey => htake ?_⟩
    simp [hc, (htest.apply hc hs).mpr hkey]

lemma key_smallest (htest : Tests lt key n f) (hi : i < n) :
    (smallest lt n f i = i ∨ key (f (smallest lt n f i)) < key (f i)) ∧
      ∀ d, 0 < d → d < n → parent d = i → key (f (smallest lt n f i)) ≤ key (f d) := by
  obtain ⟨hn, hself, hleft⟩ := key_pick htest (c := 2 * i + 1) hi
  obtain ⟨-, hfirst, hright⟩ := key_pick htest (c := 2 * i + 2) hn
  constructor
  · rcases hfirst with hfirst | hfirst
    · rw [smallest, hfirst]
      exact hself
    · exact .inr (hfirst.trans_le (hself.elim (fun h => by rw [h]) le_of_lt))
  · intro d hpos hd hpar
    rcases (parent_eq_iff hpos).mp hpar with rfl | rfl
    · refine le_trans ?_ (hleft hd)
      rcases hfirst with hfirst | hfirst
      · rw [smallest, hfirst]
      · exact hfirst.le
    · exact hright hd

theorem ordered_siftDown (htest : Tests lt key n f) (hi : i < n) (h : DownReady key n f i) :
    Ordered key n (siftDown lt n f i) := by
  induction f, i using siftDown.induct lt n with
  | case1 f i hne ih =>
    obtain ⟨hchild, hlt⟩ := (smallest_cases lt n f i).resolve_left hne
    have hpos : 0 < smallest lt n f i := by omega
    rw [siftDown, dif_pos hne]
    refine ih (htest.of_contents (contents_swap hi hlt)) hlt ?_
    obtain ⟨hless, hleast⟩ := key_smallest htest hi
    exact h.move hpos hlt ((parent_eq_iff hpos).mpr hchild) (hless.resolve_left hne) hleast
  | case2 f i heq =>
    rw [siftDown, dif_neg heq]
    have hleast := (key_smallest htest hi).2
    rw [not_not.mp heq] at hleast
    exact h.ordered_of_stop hleast

end BinaryHeap
