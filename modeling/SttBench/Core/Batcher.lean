import SttBench.Core.Tiling
import SttBench.Core.TransitionSystem

/-!
# One batch at a time

The component that numbers what it receives and takes the whole buffer as one batch.
-/

open Tiling

/-! ## The abstract component -/

structure Batcher where
  /-- The last number given out. -/
  seq : ℕ
  /-- The last number of the last batch taken. -/
  taken : ℕ
  /-- The range of the batch that is out. -/
  flight : Option Range
  /-- The ranges answered, in the order of the answers. -/
  answered : List Range

namespace Batcher

inductive Label
  | receive
  | take
  | answer

def start : Batcher := ⟨0, 0, none, []⟩

def receive (b : Batcher) : Batcher := { b with seq := b.seq + 1 }

def take (b : Batcher) : Batcher := { b with flight := some ⟨b.taken + 1, b.seq⟩, taken := b.seq }

def answer (b : Batcher) (r : Range) : Batcher :=
  { b with flight := none, answered := b.answered ++ [r] }

inductive Step : Batcher → Label → Batcher → Prop
  | receive (b : Batcher) : Step b .receive b.receive
  | take {b : Batcher} (hflight : b.flight = none) (hlt : b.taken < b.seq) : Step b .take b.take
  | answer {b : Batcher} {r : Range} (hflight : b.flight = some r) : Step b .answer (b.answer r)

def system : TransitionSystem Batcher Label where
  init b := b = start
  step := Step

def batches (b : Batcher) : List Range := b.answered ++ b.flight.toList

structure Inv (b : Batcher) : Prop where
  le : b.taken ≤ b.seq
  tiles : Tiles b.batches b.taken

lemma inv_inductive : system.Inductive Inv where
  init := by
    rintro b rfl
    exact ⟨Nat.le_refl 0, tiles_nil⟩
  step := by
    rintro b e b' ⟨hle, htiles⟩ hstep
    cases hstep with
    | receive => exact ⟨Nat.le_succ_of_le hle, htiles⟩
    | take hflight hlt =>
      refine ⟨Nat.le_refl _, ?_⟩
      have hanswered : Tiles b.answered b.taken := by simpa [batches, hflight] using htiles
      exact hanswered.concat rfl hlt
    | answer hflight =>
      refine ⟨hle, ?_⟩
      simpa [batches, answer, hflight] using htiles

variable {b : Batcher}

theorem tiles (hb : system.Reachable b) : Tiles b.batches b.taken :=
  (inv_inductive.reachable hb).tiles

lemma taken_le (hb : system.Reachable b) : b.taken ≤ b.seq := (inv_inductive.reachable hb).le

lemma batches_take (hflight : b.flight = none) :
    b.take.batches = b.batches ++ [⟨b.taken + 1, b.seq⟩] := by
  simp [batches, take, hflight]

lemma batches_answer {r : Range} (hflight : b.flight = some r) :
    (b.answer r).batches = b.batches := by
  simp [batches, answer, hflight]

theorem answered_tiles (hb : system.Reachable b) : ∃ k ≤ b.taken, Tiles b.answered k :=
  (tiles hb).of_isPrefix (List.prefix_append _ _)

end Batcher

/-! ## A numbered buffer -/

variable {α : Type*} (num : α → ℕ)

def Numbered (k : ℕ) : List α → Prop
  | [] => True
  | a :: l => num a = k + 1 ∧ Numbered (k + 1) l

variable {num}

lemma Numbered.concat {l : List α} {a : α} :
    ∀ {k : ℕ}, Numbered num k l → num a = k + l.length + 1 → Numbered num k (l ++ [a]) := by
  induction l with
  | nil =>
    intro k _ ha
    exact ⟨ha, trivial⟩
  | cons x l ih =>
    rintro k ⟨hx, hl⟩ ha
    refine ⟨hx, ih hl ?_⟩
    rw [ha, List.length_cons]
    omega

lemma Numbered.getLast {l : List α} {a : α} :
    ∀ {k : ℕ}, Numbered num k l → l.getLast? = some a → num a = k + l.length := by
  induction l with
  | nil => simp
  | cons x l ih =>
    rintro k ⟨hx, hl⟩ ha
    cases l with
    | nil =>
      obtain rfl : x = a := by simpa using ha
      exact hx
    | cons y l =>
      have hlast : (y :: l).getLast? = some a := by rwa [List.getLast?_cons_cons] at ha
      rw [ih hl hlast]
      simp only [List.length_cons]
      omega

lemma Numbered.head {l : List α} {a : α} {k : ℕ} (h : Numbered num k l)
    (ha : l.head? = some a) : num a = k + 1 := by
  cases l with
  | nil => cases ha
  | cons x l =>
    obtain rfl : x = a := by simpa using ha
    exact h.1

lemma Numbered.map_eq {l : List α} :
    ∀ {k : ℕ}, Numbered num k l → l.map num = List.range' (k + 1) l.length := by
  induction l with
  | nil => simp
  | cons x l ih =>
    rintro k ⟨hx, hl⟩
    rw [List.map_cons, ih hl, hx, List.length_cons, List.range'_succ]

structure Collects (num : α → ℕ) (b : Batcher) (buffer : List α) : Prop where
  numbered : Numbered num b.taken buffer
  length : b.taken + buffer.length = b.seq

namespace Collects

variable {b : Batcher} {buffer : List α} {a : α}

lemma start : Collects num Batcher.start ([] : List α) := ⟨trivial, rfl⟩

lemma receive (h : Collects num b buffer) (ha : num a = b.seq + 1) :
    Collects num b.receive (buffer ++ [a]) := by
  refine ⟨h.numbered.concat ?_, ?_⟩
  · rw [ha, ← h.length]
  · have := h.length
    simp only [Batcher.receive, List.length_append, List.length_singleton]
    omega

lemma range (h : Collects num b buffer) {oldest newest : α} (hfirst : buffer.head? = some oldest)
    (hlast : buffer.getLast? = some newest) : num oldest = b.taken + 1 ∧ num newest = b.seq :=
  ⟨h.numbered.head hfirst, (h.numbered.getLast hlast).trans h.length⟩

lemma lt (h : Collects num b buffer) (hne : buffer ≠ []) : b.taken < b.seq := by
  have hpos := List.length_pos_of_ne_nil hne
  have := h.length
  omega

lemma take (b : Batcher) : Collects num b.take ([] : List α) := ⟨trivial, rfl⟩

lemma answer (h : Collects num b buffer) (r : Range) : Collects num (b.answer r) buffer :=
  ⟨h.numbered, h.length⟩

end Collects
