import SttBench.Core.BinaryHeap
import SttBench.OxcamlEpoll.Server

/-!
# ocaml-oxcaml-epoll: `Timer_heap`

A binary heap over four parallel arrays.
-/

namespace SttBench.OxcamlEpoll.TimerHeap

open BinaryHeap Function

@[ext]
structure Event where
  atMs : Double
  token : ℤ
  kind : ℤ
  gen : ℤ
deriving DecidableEq

structure Arrays (capacity : ℕ) where
  atMs : Vector Double capacity
  token : Vector ℤ capacity
  kind : Vector ℤ capacity
  gen : Vector ℤ capacity

structure Heap where
  capacity : ℕ
  arrays : Arrays capacity
  len : ℕ
  pos : 0 < capacity
  fits : len ≤ capacity

namespace Arrays

variable {capacity : ℕ}

def make (capacity : ℕ) : Arrays capacity where
  atMs := Vector.replicate capacity (.inf false)
  token := Vector.replicate capacity 0
  kind := Vector.replicate capacity 0
  gen := Vector.replicate capacity 0

def less (t : Arrays capacity) (i j : Fin capacity) : Bool :=
  t.atMs[i].lt t.atMs[j] ||
    (t.atMs[i].eq t.atMs[j] &&
      (t.token[i] < t.token[j] ||
        (t.token[i] = t.token[j] &&
          (t.kind[i] < t.kind[j] || (t.kind[i] = t.kind[j] && t.gen[i] < t.gen[j])))))

def set (t : Arrays capacity) (i : Fin capacity) (atMs : Double) (token kind gen : ℤ) :
    Arrays capacity where
  atMs := t.atMs.set i atMs
  token := t.token.set i token
  kind := t.kind.set i kind
  gen := t.gen.set i gen

def copy (t : Arrays capacity) (src dst : Fin capacity) : Arrays capacity where
  atMs := t.atMs.set dst t.atMs[src]
  token := t.token.set dst t.token[src]
  kind := t.kind.set dst t.kind[src]
  gen := t.gen.set dst t.gen[src]

def swap (t : Arrays capacity) (i j : Fin capacity) : Arrays capacity :=
  (t.copy j i).set j t.atMs[i] t.token[i] t.kind[i] t.gen[i]

end Arrays

def blit {α : Type} {capacity longer : ℕ} (src : Vector α capacity) (dst : Vector α longer)
    (len : ℕ) (hlen : len ≤ capacity) : Vector α longer :=
  Vector.ofFn fun i => if h : i.val < len then src[i.val] else dst[i]

namespace Heap

def pushLoop {capacity : ℕ} (t : Arrays capacity) (i : Fin capacity) : Arrays capacity :=
  if _h : 0 < i.val then
    let parent : Fin capacity := ⟨(i.val - 1) / 2, by omega⟩
    if t.less i parent then pushLoop (t.swap i parent) parent else t
  else t
termination_by i.val

def pickFrom {capacity : ℕ} (t : Arrays capacity) (len : ℕ) (hlen : len ≤ capacity)
    (s : Fin capacity) (c : ℕ) : Fin capacity :=
  if h : c < len then
    if t.less ⟨c, h.trans_le hlen⟩ s then ⟨c, h.trans_le hlen⟩ else s
  else s

def smallestFrom {capacity : ℕ} (t : Arrays capacity) (len : ℕ) (hlen : len ≤ capacity)
    (i : Fin capacity) : Fin capacity :=
  let left := i.val * 2 + 1
  let right := left + 1
  pickFrom t len hlen (pickFrom t len hlen i left) right

lemma pickFrom_cases {capacity : ℕ} (t : Arrays capacity) (len : ℕ) (hlen : len ≤ capacity)
    (s : Fin capacity) (c : ℕ) :
    pickFrom t len hlen s c = s ∨ (pickFrom t len hlen s c).val = c := by
  unfold pickFrom
  split_ifs
  · exact .inr rfl
  · exact .inl rfl
  · exact .inl rfl

lemma le_smallestFrom {capacity : ℕ} (t : Arrays capacity) (len : ℕ) (hlen : len ≤ capacity)
    (i : Fin capacity) : i.val ≤ (smallestFrom t len hlen i).val := by
  unfold smallestFrom
  dsimp only
  obtain hright | hright := pickFrom_cases t len hlen (pickFrom t len hlen i (i.val * 2 + 1))
    (i.val * 2 + 1 + 1)
  · rw [hright]
    obtain hleft | hleft := pickFrom_cases t len hlen i (i.val * 2 + 1)
    · rw [hleft]
    · omega
  · omega

def popLoop {capacity : ℕ} (t : Arrays capacity) (len : ℕ) (hlen : len ≤ capacity)
    (i : Fin capacity) : Arrays capacity :=
  let smallest := smallestFrom t len hlen i
  if _h : smallest ≠ i then popLoop (t.swap i smallest) len hlen smallest else t
termination_by capacity - i.val
decreasing_by
  have hle := le_smallestFrom t len hlen i
  have hne : (smallestFrom t len hlen i).val ≠ i.val := Fin.val_ne_of_ne _h
  omega

def create (capacity : ℤ) : Option Heap :=
  if h : capacity ≤ 0 then none
  else
    some
      { capacity := capacity.toNat
        arrays := .make capacity.toNat
        len := 0
        pos := by omega
        fits := Nat.zero_le _ }

def grow (t : Heap) : Heap where
  capacity := t.capacity * 2
  arrays :=
    let next := Arrays.make (t.capacity * 2)
    { atMs := blit t.arrays.atMs next.atMs t.len t.fits
      token := blit t.arrays.token next.token t.len t.fits
      kind := blit t.arrays.kind next.kind t.len t.fits
      gen := blit t.arrays.gen next.gen t.len t.fits }
  len := t.len
  pos := by have := t.pos; omega
  fits := by have := t.fits; omega

def room (t : Heap) : Heap := if t.len = t.capacity then t.grow else t

lemma len_lt_room (t : Heap) : t.room.len < t.room.capacity := by
  have hfits := t.fits
  have hpos := t.pos
  unfold room
  split_ifs with h
  · show t.len < t.capacity * 2
    omega
  · omega

def push (t : Heap) (e : Event) : Heap :=
  let t := t.room
  { t with
    arrays := pushLoop (t.arrays.set ⟨t.len, len_lt_room _⟩ e.atMs e.token e.kind e.gen)
      ⟨t.len, len_lt_room _⟩
    len := t.len + 1
    fits := len_lt_room _ }

def pop (t : Heap) : Option (Event × Heap) :=
  if h : t.len = 0 then none
  else
    let root : Fin t.capacity := ⟨0, t.pos⟩
    let last : Fin t.capacity := ⟨t.len - 1, by have := t.fits; omega⟩
    let arrays := if 0 < t.len - 1 then t.arrays.copy last root else t.arrays
    some (⟨t.arrays.atMs[root], t.arrays.token[root], t.arrays.kind[root], t.arrays.gen[root]⟩,
      { t with
        arrays := popLoop arrays (t.len - 1) (by have := t.fits; omega) root
        len := t.len - 1
        fits := by have := t.fits; omega })

end Heap

/-! ## The arrays as a sequence of events -/

instance : Inhabited Event := ⟨⟨.inf false, 0, 0, 0⟩⟩

def Event.less (a b : Event) : Bool :=
  a.atMs.lt b.atMs ||
    (a.atMs.eq b.atMs &&
      (a.token < b.token ||
        (a.token = b.token && (a.kind < b.kind || (a.kind = b.kind && a.gen < b.gen)))))

namespace Arrays

variable {capacity : ℕ} {t : Arrays capacity}

def event (t : Arrays capacity) (i : Fin capacity) : Event :=
  ⟨t.atMs[i], t.token[i], t.kind[i], t.gen[i]⟩

def view (t : Arrays capacity) (i : ℕ) : Event :=
  if h : i < capacity then t.event ⟨i, h⟩ else default

@[simp] lemma view_val (t : Arrays capacity) (i : Fin capacity) : t.view i = t.event i :=
  dif_pos i.isLt

lemma less_eq (i j : Fin capacity) : t.less i j = (t.view i).less (t.view j) := by
  simp only [view_val]
  rfl

lemma view_set (i : Fin capacity) (e : Event) :
    (t.set i e.atMs e.token e.kind e.gen).view = update t.view i e := by
  funext k
  by_cases hk : k < capacity
  · rcases eq_or_ne k i with rfl | hne
    · rw [update_self, view_val]
      simp [event, set]
    · rw [update_of_ne hne, view, view, dif_pos hk, dif_pos hk]
      simp [event, set, Vector.getElem_set_ne _ _ hne.symm]
  · have hne : k ≠ i := fun h => hk (h ▸ i.isLt)
    rw [update_of_ne hne, view, view, dif_neg hk, dif_neg hk]

lemma view_copy (src dst : Fin capacity) :
    (t.copy src dst).view = update t.view dst (t.view src) := by
  rw [view_val]
  exact view_set dst (t.event src)

lemma view_swap (i j : Fin capacity) : (t.swap i j).view = BinaryHeap.swap t.view i j := by
  have hset : (t.swap i j).view = update (t.copy j i).view j (t.event i) :=
    view_set j (t.event i)
  rw [hset, view_copy]
  funext k
  rcases eq_or_ne k j with rfl | hj
  · rw [update_self, swap_right, view_val]
  · rw [update_of_ne hj]
    rcases eq_or_ne k i with rfl | hi
    · rw [update_self, swap_left]
    · rw [update_of_ne hi, swap_of_ne hi hj]

end Arrays

namespace Heap

variable {capacity len : ℕ} {hlen : len ≤ capacity} {t : Arrays capacity} {i : Fin capacity}

lemma view_pushLoop : (pushLoop t i).view = siftUp Event.less t.view i := by
  induction t, i using pushLoop.induct with
  | case1 t i hpos parent hless ih =>
    have htest : (t.view i).less (t.view (BinaryHeap.parent i)) = true :=
      (Arrays.less_eq i parent).symm.trans hless
    rw [pushLoop, dif_pos hpos, siftUp, dif_pos hpos, if_pos htest]
    show (if t.less i parent = true then _ else _ : Arrays _).view = _
    rw [if_pos hless, ih, Arrays.view_swap]
    rfl
  | case2 t i hpos parent hless =>
    have htest : ¬ (t.view i).less (t.view (BinaryHeap.parent i)) = true :=
      fun h => hless ((Arrays.less_eq i parent).trans h)
    rw [pushLoop, dif_pos hpos, siftUp, dif_pos hpos, if_neg htest]
    show (if t.less i parent = true then _ else _ : Arrays _).view = _
    rw [if_neg hless]
  | case3 t i hpos => rw [pushLoop, dif_neg hpos, siftUp, dif_neg hpos]

lemma val_pickFrom (s : Fin capacity) (c : ℕ) :
    (pickFrom t len hlen s c).val = pick Event.less len t.view s c := by
  unfold pickFrom pick
  by_cases hc : c < len
  · have htest := Arrays.less_eq (t := t) ⟨c, hc.trans_le hlen⟩ s
    rw [dif_pos hc, htest]
    simp only [hc, decide_true, Bool.true_and]
    split_ifs <;> rfl
  · simp [hc]

lemma val_smallestFrom : (smallestFrom t len hlen i).val = smallest Event.less len t.view i := by
  show (pickFrom t len hlen _ (i.val * 2 + 1 + 1)).val = _
  rw [val_pickFrom, val_pickFrom, smallest, mul_comm i.val 2]

lemma view_popLoop : (popLoop t len hlen i).view = siftDown Event.less len t.view i := by
  induction t, i using popLoop.induct len hlen with
  | case1 t i smallest hne ih =>
    have hval : smallest.val = BinaryHeap.smallest Event.less len t.view i := val_smallestFrom
    have hne' : BinaryHeap.smallest Event.less len t.view i ≠ i :=
      hval ▸ Fin.val_ne_of_ne hne
    rw [popLoop, siftDown, dif_pos hne']
    show (if _h : smallest ≠ i then _ else _ : Arrays _).view = _
    rw [dif_pos hne, ih, Arrays.view_swap, hval]
  | case2 t i smallest heq =>
    have hval : smallest.val = BinaryHeap.smallest Event.less len t.view i := val_smallestFrom
    have heq' : ¬ BinaryHeap.smallest Event.less len t.view i ≠ i :=
      fun h => heq (Fin.ne_of_val_ne (hval ▸ h))
    rw [popLoop, siftDown, dif_neg heq']
    show (if _h : smallest ≠ i then _ else _ : Arrays _).view = _
    rw [dif_neg heq]

end Heap

/-! ## The order is total -/

def Event.Timed (e : Event) : Prop := e.atMs ≠ .nan

def timeKey : Double → WithBot (WithTop ℚ)
  | .finite q => ((q : WithTop ℚ) : WithBot (WithTop ℚ))
  | .inf false => ((⊤ : WithTop ℚ) : WithBot (WithTop ℚ))
  | .inf true | .nan => ⊥

def Event.key (e : Event) : WithBot (WithTop ℚ) ×ₗ ℤ ×ₗ ℤ ×ₗ ℤ :=
  toLex (timeKey e.atMs, toLex (e.token, toLex (e.kind, e.gen)))

lemma timeKey_spec {x y : Double} (hx : x ≠ .nan) (hy : y ≠ .nan) :
    (x.lt y = true ↔ timeKey x < timeKey y) ∧ (x.eq y = true ↔ timeKey x = timeKey y) := by
  match x, y with
  | .nan, _ => exact absurd rfl hx
  | .finite _, .nan | .inf _, .nan => exact absurd rfl hy
  | .finite a, .finite b => simp [timeKey]
  | .finite a, .inf false =>
    exact ⟨iff_of_true rfl (WithBot.coe_lt_coe.mpr (WithTop.coe_lt_top a)),
      by simp [Double.eq, timeKey]⟩
  | .finite a, .inf true | .inf true, .finite b | .inf false, .finite b =>
    simp [Double.lt, Double.eq, timeKey]
  | .inf true, .inf true | .inf true, .inf false | .inf false, .inf true | .inf false, .inf false =>
    simp [Double.lt, Double.eq, timeKey]

lemma Event.less_iff {a b : Event} (ha : a.Timed) (hb : b.Timed) :
    a.less b = true ↔ a.key < b.key := by
  simp only [less, key, Bool.or_eq_true, Bool.and_eq_true, decide_eq_true_eq,
    Prod.Lex.toLex_lt_toLex, timeKey_spec ha hb]

/-! ## The operations -/

namespace Heap

variable {t t' : Heap} {e : Event}

def contents (t : Heap) : Multiset Event := BinaryHeap.contents t.len t.arrays.view

@[simp] lemma card_contents (t : Heap) : Multiset.card t.contents = t.len :=
  BinaryHeap.card_contents ..

structure Valid (t : Heap) : Prop where
  ordered : Ordered Event.key t.len t.arrays.view
  timed : ∀ e ∈ t.contents, e.Timed

lemma tests_less {n : ℕ} {f : ℕ → Event} (h : ∀ e ∈ BinaryHeap.contents n f, e.Timed) :
    Tests Event.less Event.key n f :=
  fun a ha b hb => Event.less_iff (h a ha) (h b hb)

lemma getElem_blit {α : Type} {capacity longer len : ℕ} {src : Vector α capacity}
    {dst : Vector α longer} (hlen : len ≤ capacity) (i : Fin longer) (hi : i.val < len)
    (hold : i.val < capacity) : (blit src dst len hlen)[i] = src[i.val] := by
  simp [blit, Fin.getElem_fin, hi]

lemma view_grow {i : ℕ} (hi : i < t.len) : t.grow.arrays.view i = t.arrays.view i := by
  have hold : i < t.capacity := hi.trans_le t.fits
  have hnew : i < t.capacity * 2 := by omega
  rw [Arrays.view, Arrays.view, dif_pos hold]
  refine (dif_pos hnew).trans ?_
  refine Event.ext ?_ ?_ ?_ ?_ <;> exact getElem_blit t.fits ⟨i, hnew⟩ hi hold

lemma contents_grow (t : Heap) : t.grow.contents = t.contents :=
  contents_congr fun _ hi => view_grow hi

lemma contents_room (t : Heap) : t.room.contents = t.contents := by
  unfold room
  split_ifs
  · exact contents_grow t
  · rfl

lemma Valid.room (h : t.Valid) : t.room.Valid := by
  refine ⟨?_, by rw [contents_room]; exact h.timed⟩
  by_cases hfull : t.len = t.capacity
  · have hroom : t.room = t.grow := if_pos hfull
    rw [hroom]
    exact h.ordered.congr fun i hi => (view_grow hi).symm
  · have hroom : t.room = t := if_neg hfull
    rw [hroom]
    exact h.ordered

lemma view_push (t : Heap) (e : Event) : (t.push e).arrays.view =
    siftUp Event.less (update t.room.arrays.view t.room.len e) t.room.len := by
  have hset := Arrays.view_set (t := t.room.arrays) ⟨t.room.len, len_lt_room t⟩ e
  rw [← hset]
  exact view_pushLoop

lemma contents_push (t : Heap) (e : Event) : (t.push e).contents = e ::ₘ t.contents := by
  rw [← contents_room t]
  show BinaryHeap.contents (t.room.len + 1) (t.push e).arrays.view = _
  rw [view_push, contents_siftUp (Nat.lt_succ_self _), contents_succ, update_self]
  refine congrArg (e ::ₘ ·) (contents_congr fun i hi => ?_)
  exact update_of_ne hi.ne _ _

lemma Valid.push (h : t.Valid) (he : e.Timed) : (t.push e).Valid := by
  have htimed : ∀ a ∈ (t.push e).contents, a.Timed := by
    intro a ha
    rw [contents_push] at ha
    rcases Multiset.mem_cons.mp ha with rfl | ha
    · exact he
    · exact h.timed a ha
  refine ⟨?_, htimed⟩
  show Ordered Event.key (t.room.len + 1) (t.push e).arrays.view
  have hcontents : BinaryHeap.contents (t.room.len + 1) (t.push e).arrays.view =
      BinaryHeap.contents (t.room.len + 1)
        (update t.room.arrays.view t.room.len e) := by
    rw [view_push, contents_siftUp (Nat.lt_succ_self _)]
  rw [view_push]
  refine ordered_siftUp (tests_less ?_) (Nat.lt_succ_self _) (h.room.ordered.upReady e)
  rw [← hcontents]
  exact htimed

lemma pop_cases (h : t.pop = some (e, t')) :
    t'.len + 1 = t.len ∧ e = t.arrays.view 0 ∧
      (t'.len = 0 ∨ t'.arrays.view = siftDown Event.less t'.len
        (update t.arrays.view 0 (t.arrays.view t'.len)) 0) := by
  have hempty : t.len ≠ 0 := by
    intro hempty
    rw [pop, dif_pos hempty] at h
    cases h
  rw [pop, dif_neg hempty] at h
  cases h
  refine ⟨Nat.succ_pred_eq_of_ne_zero hempty, (t.arrays.view_val ⟨0, t.pos⟩).symm, ?_⟩
  rcases Nat.eq_zero_or_pos (t.len - 1) with hzero | hpos
  · exact .inl hzero
  · refine .inr (view_popLoop.trans ?_)
    rw [if_pos hpos, Arrays.view_copy]

lemma pop_eq_none_iff : t.pop = none ↔ t.len = 0 := by
  unfold pop
  split_ifs with hempty <;> simp [hempty]

lemma contents_pop (h : t.pop = some (e, t')) : t.contents = e ::ₘ t'.contents := by
  obtain ⟨hlen, rfl, hview⟩ := pop_cases h
  rw [contents, contents, ← hlen, ← cons_contents_pop]
  rcases hview with hzero | hview
  · rw [hzero]
    rfl
  · rcases Nat.eq_zero_or_pos t'.len with hzero | hpos
    · rw [hzero]
      rfl
    · rw [hview, contents_siftDown hpos]

lemma Valid.pop (hv : t.Valid) (h : t.pop = some (e, t')) : t'.Valid := by
  have htimed : ∀ a ∈ t'.contents, a.Timed := by
    intro a ha
    refine hv.timed a ?_
    rw [contents_pop h]
    exact Multiset.mem_cons_of_mem ha
  refine ⟨?_, htimed⟩
  obtain ⟨hlen, -, hview⟩ := pop_cases h
  rcases Nat.eq_zero_or_pos t'.len with hzero | hpos
  · intro j _ hj
    omega
  · have hview := hview.resolve_left hpos.ne'
    rw [hview]
    refine ordered_siftDown (tests_less ?_) hpos ((hv.ordered.mono (by omega)).downReady _)
    rw [← contents_siftDown hpos, ← hview]
    exact htimed

lemma Valid.pop_least (hv : t.Valid) (h : t.pop = some (e, t')) {a : Event} (ha : a ∈ t.contents) :
    a.less e = false := by
  obtain ⟨hlen, rfl, -⟩ := pop_cases h
  have hroot : t.arrays.view 0 ∈ t.contents := mem_contents.mpr ⟨0, by omega, rfl⟩
  have hle := hv.ordered.root_le_of_mem ha
  rw [← Bool.not_eq_true, Event.less_iff (hv.timed a ha) (hv.timed _ hroot)]
  exact not_lt.mpr hle

/-! ## Runs -/

lemma create_eq_some {capacity : ℤ} (h : 1 ≤ capacity) :
    ∃ t, create capacity = some t ∧ t.contents = 0 ∧ t.Valid := by
  refine ⟨_, dif_neg (by omega), rfl, ?_, ?_⟩
  · intro j _ hj
    exact absurd hj (Nat.not_lt_zero j)
  · intro a ha
    exact absurd ha (Multiset.notMem_zero a)

end Heap

inductive Op
  | Push (e : Event)
  | Pop

def Heap.run (t : Heap) : List Op → List (Option Event) × Heap
  | [] => ([], t)
  | .Push e :: ops => (t.push e).run ops
  | .Pop :: ops =>
    match t.pop with
    | none => let (popped, t) := t.run ops; (none :: popped, t)
    | some (e, t) => let (popped, t) := t.run ops; (some e :: popped, t)

inductive Serves : Multiset Event → List Op → List (Option Event) → Multiset Event → Prop
  | nil (m : Multiset Event) : Serves m [] [] m
  | push {m m' : Multiset Event} {ops : List Op} {popped : List (Option Event)} (e : Event)
      (h : Serves (e ::ₘ m) ops popped m') : Serves m (.Push e :: ops) popped m'
  | empty {m' : Multiset Event} {ops : List Op} {popped : List (Option Event)}
      (h : Serves 0 ops popped m') : Serves 0 (.Pop :: ops) (none :: popped) m'
  | pop {m m' : Multiset Event} {ops : List Op} {popped : List (Option Event)} {e : Event}
      (he : ∀ a ∈ e ::ₘ m, a.less e = false) (h : Serves m ops popped m') :
      Serves (e ::ₘ m) (.Pop :: ops) (some e :: popped) m'

def pushed (ops : List Op) : Multiset Event :=
  ops.filterMap fun | .Push e => some e | .Pop => none

def popped (results : List (Option Event)) : Multiset Event := results.filterMap id

lemma Serves.conserves {m m' : Multiset Event} {ops : List Op} {results : List (Option Event)}
    (h : Serves m ops results m') : m + pushed ops = popped results + m' := by
  induction h with
  | nil m => simp [pushed, popped]
  | @push m m' ops results e _ ih =>
    rw [Multiset.cons_add] at ih
    rw [← ih]
    exact Multiset.add_cons e m (pushed ops)
  | empty _ ih => exact ih
  | @pop m m' ops results e _ _ ih =>
    rw [Multiset.cons_add]
    exact (congrArg (e ::ₘ ·) ih).trans (Multiset.cons_add e (popped results) m').symm

lemma Serves.card_pops {m m' : Multiset Event} {ops : List Op} {results : List (Option Event)}
    (h : Serves m ops results m') : ∀ k, ops = List.replicate k .Pop →
      Multiset.card m' = Multiset.card m - k := by
  induction h with
  | nil m =>
    intro k hk
    cases k with
    | zero => rfl
    | succ k => cases hk
  | push e _ _ =>
    intro k hk
    cases k <;> cases hk
  | empty _ ih =>
    intro k hk
    cases k with
    | zero => cases hk
    | succ k => simpa using ih k (List.cons.inj hk).2
  | @pop m m' ops results e _ _ ih =>
    intro k hk
    cases k with
    | zero => cases hk
    | succ k =>
      rw [ih k (List.cons.inj hk).2, Multiset.card_cons]
      omega

namespace Heap

lemma Valid.serves {t : Heap} (hv : t.Valid) {ops : List Op} (hops : ∀ e, .Push e ∈ ops → e.Timed) :
    Serves t.contents ops (t.run ops).1 (t.run ops).2.contents := by
  induction ops generalizing t with
  | nil => exact .nil _
  | cons op ops ih =>
    have hrest : ∀ e, .Push e ∈ ops → e.Timed := fun e he => hops e (List.mem_cons_of_mem op he)
    cases op with
    | Push e =>
      have hserves := ih (hv.push (hops e List.mem_cons_self)) hrest
      rw [contents_push] at hserves
      exact .push e hserves
    | Pop =>
      rw [run]
      split
      case h_1 hpop =>
        have hzero : t.contents = 0 := Multiset.card_eq_zero.mp
          ((card_contents t).trans (pop_eq_none_iff.mp hpop))
        have hserves := ih hv hrest
        rw [hzero] at hserves ⊢
        exact .empty hserves
      case h_2 e t' hpop =>
        have hleast : ∀ a ∈ e ::ₘ t'.contents, a.less e = false := by
          intro a ha
          rw [← contents_pop hpop] at ha
          exact hv.pop_least hpop ha
        rw [contents_pop hpop]
        exact .pop hleast (ih (hv.pop hpop) hrest)

lemma Valid.run {t : Heap} (hv : t.Valid) {ops : List Op} (hops : ∀ e, .Push e ∈ ops → e.Timed) :
    (t.run ops).2.Valid := by
  induction ops generalizing t with
  | nil => exact hv
  | cons op ops ih =>
    have hrest : ∀ e, .Push e ∈ ops → e.Timed := fun e he => hops e (List.mem_cons_of_mem op he)
    cases op with
    | Push e => exact ih (hv.push (hops e List.mem_cons_self)) hrest
    | Pop =>
      rw [Heap.run]
      split
      case h_1 => exact ih hv hrest
      case h_2 hpop => exact ih (hv.pop hpop) hrest

lemma run_append (t : Heap) (ops ops' : List Op) :
    t.run (ops ++ ops') =
      ((t.run ops).1 ++ ((t.run ops).2.run ops').1, ((t.run ops).2.run ops').2) := by
  induction ops generalizing t with
  | nil => rfl
  | cons op ops ih =>
    cases op with
    | Push e => exact ih (t.push e)
    | Pop =>
      rw [List.cons_append, run, run]
      split
      · rw [ih]
        rfl
      · rw [ih]
        rfl

end Heap

theorem timerHeap_serves {capacity : ℤ} (hcapacity : 1 ≤ capacity) {ops : List Op}
    (hops : ∀ e, .Push e ∈ ops → e.Timed) :
    ∃ t, Heap.create capacity = some t ∧
      Serves 0 ops (t.run ops).1 (t.run ops).2.contents ∧
      pushed ops = popped (t.run ops).1 + (t.run ops).2.contents ∧
      (∀ k, Multiset.card (pushed ops) ≤ k →
        popped (t.run (ops ++ List.replicate k .Pop)).1 = pushed ops) ∧
      ∀ t : Heap, t.grow.contents = t.contents := by
  obtain ⟨t, hcreate, hempty, hv⟩ := Heap.create_eq_some hcapacity
  have hserves : ∀ {ops : List Op}, (∀ e, .Push e ∈ ops → e.Timed) →
      Serves 0 ops (t.run ops).1 (t.run ops).2.contents := by
    intro ops hops
    exact hempty ▸ hv.serves hops
  have hconserves := (hserves hops).conserves
  rw [zero_add] at hconserves
  refine ⟨t, hcreate, hserves hops, hconserves, ?_, Heap.contents_grow⟩
  intro k hk
  have hall : ∀ e, .Push e ∈ ops ++ List.replicate k .Pop → e.Timed := by
    intro e he
    rcases List.mem_append.mp he with he | he
    · exact hops e he
    · cases List.eq_of_mem_replicate he
  have hpops : pushed (ops ++ List.replicate k .Pop) = pushed ops := by
    simp [pushed]
  have hdrained := (hserves hall).conserves
  rw [zero_add, hpops] at hdrained
  -- The pops at the end take out as many events as there are, and no event is pushed any more.
  have hleft : (t.run (ops ++ List.replicate k .Pop)).2.contents = 0 := by
    have hvalid : (t.run ops).2.Valid := hv.run hops
    have hpopping : Serves _ (List.replicate k .Pop) _ _ :=
      hvalid.serves fun e he => hall e (List.mem_append_right ops he)
    have hcard := hpopping.card_pops k rfl
    have hle := congrArg Multiset.card hconserves
    rw [Multiset.card_add] at hle
    rw [Heap.run_append, ← Multiset.card_eq_zero, hcard]
    omega
  rw [hdrained, hleft, add_zero]

def threeEvents : List Op :=
  [.Push ⟨.finite 20, 2, 1, 0⟩, .Push ⟨.finite 10, 4, 1, 0⟩, .Push ⟨.finite 10, 3, 2, 0⟩, .Pop,
    .Pop]

theorem timerHeap_serves_threeEvents :
    ∃ t, Heap.create 1 = some t ∧
      (t.run threeEvents).1 = [some ⟨.finite 10, 3, 2, 0⟩, some ⟨.finite 10, 4, 1, 0⟩] ∧
      popped (t.run (threeEvents ++ List.replicate 3 .Pop)).1 =
        {⟨.finite 20, 2, 1, 0⟩, ⟨.finite 10, 4, 1, 0⟩, ⟨.finite 10, 3, 2, 0⟩} := by
  obtain ⟨t, hcreate, -, -, hdrain, -⟩ :=
    @timerHeap_serves 1 le_rfl threeEvents (by simp [threeEvents, Event.Timed])
  refine ⟨t, hcreate, ?_, hdrain 3 (by decide +kernel)⟩
  cases hcreate
  decide +kernel

/-! ## The timers of the server

The model of the server keeps its timers in a list, of which it processes a least one and takes it
out.  That is what it sees of a heap with the same contents. -/

def timerEvent (t : Timer) : Event where
  atMs := .finite t.atMs.value
  token := t.token
  kind := match t.kind with | .Flush => 0 | .Timeout => 1
  gen := t.gen

lemma le_of_not_less {a b : Timer} (h : (timerEvent b).less (timerEvent a) = false) :
    a.le b = true := by
  obtain ⟨at₁, token₁, kind₁, gen₁⟩ := a
  obtain ⟨at₂, token₂, kind₂, gen₂⟩ := b
  cases kind₁ <;> cases kind₂ <;>
    · simp [timerEvent, Event.less, Timer.le] at h ⊢
      grind

theorem isNextTimer_of_pop {s : Server} {t t' : Heap} {e : Event} (hv : t.Valid)
    (hcontents : t.contents = (s.timers.map timerEvent : List Event))
    (hpop : t.pop = some (e, t')) :
    ∃ timer, timerEvent timer = e ∧ s.isNextTimer timer = true ∧
      t'.contents = ((s.timers.erase timer).map timerEvent : List Event) := by
  have hmem : e ∈ (s.timers.map timerEvent : Multiset Event) := by
    rw [← hcontents, Heap.contents_pop hpop]
    exact Multiset.mem_cons_self e _
  obtain ⟨timer, htimer, rfl⟩ := List.mem_map.mp (Multiset.mem_coe.mp hmem)
  refine ⟨timer, rfl, decide_eq_true ⟨htimer, ?_⟩, ?_⟩
  · intro other hother
    refine le_of_not_less (hv.pop_least hpop ?_)
    rw [hcontents]
    exact Multiset.mem_coe.mpr (List.mem_map_of_mem hother)
  · have hcons := hcontents.symm.trans (Heap.contents_pop hpop)
    have hperm := (List.perm_cons_erase htimer).map timerEvent
    rw [Multiset.coe_eq_coe.mpr hperm, List.map_cons, ← Multiset.cons_coe] at hcons
    exact ((Multiset.cons_inj_right _).mp hcons).symm

end SttBench.OxcamlEpoll.TimerHeap
