import Mathlib.Data.FinEnum
import SttBench.Core.Ascii

/-!
# The STT stub

`compute_stub`, its copy in python-fastapi, and the closed form of the tests.
-/

namespace SttBench.Stub

open Ascii List

abbrev F64 := UInt64

def fnvOffset : UInt32 := 2166136261
def fnvPrime : UInt32 := 16777619

def transcriptPool : List String :=
  ["the", "quick", "brown", "fox", "jumps", "over", "lazy", "dog", "hello", "world", "yes", "no",
    "okay", "right", "left", "stop", "go", "wait", "ready", "done", "again", "now", "later",
    "never"]

def samples : Bytes → List Int16
  | low :: high :: rest => (low.toUInt16 ||| high.toUInt16 <<< 8).toInt16 :: samples rest
  | _ => []

lemma length_samples (payload : Bytes) : (samples payload).length = payload.length / 2 := by
  fun_induction samples payload with
  | case1 low high rest ih =>
    simp only [length_cons, ih]
    omega
  | case2 payload h =>
    match payload with
    | [] | [_] => simp
    | low :: high :: rest => exact absurd rfl (h low high rest)

/-! ## Rust -/

structure Loop where
  checksum : UInt32
  zeroCrossings : UInt64
  /-- An `i128`. -/
  sumSquares : ℤ
  sampleCount : UInt64
  previous : Int16
deriving DecidableEq, Repr

structure StubResult where
  rms : F64
  zeroCrossings : UInt64
  checksum : UInt32
  samples : UInt64
  transcript : String
  audioBytes : UInt64
deriving DecidableEq, Repr

def Loop.start : Loop := ⟨fnvOffset, 0, 0, 0, 0⟩

def Loop.sample (passIndex : UInt32) (s : Loop) (sample : Int16) : Loop :=
  let adjusted := (sample.toInt32 + 32768 + passIndex.toInt32).toUInt32
  { checksum := (s.checksum ^^^ (adjusted &&& 0xFFFF)) * fnvPrime
    zeroCrossings :=
      if 0 < s.sampleCount ∧ (sample < 0 ∧ 0 ≤ s.previous ∨ s.previous < 0 ∧ 0 ≤ sample) then
        s.zeroCrossings + 1
      else s.zeroCrossings
    sumSquares := (s.sumSquares + sample.toInt * sample.toInt).bmod (2 ^ 128)
    sampleCount := s.sampleCount + 1
    previous := sample }

def Loop.run (payload : Bytes) (passes : UInt32) (s : Loop) : Loop :=
  (List.range passes.toNat).foldl
    (fun s passIndex => (samples payload).foldl (Loop.sample (UInt32.ofNat passIndex)) s) s

def computeStub (rms : ℤ → UInt64 → F64) (payload : Bytes) (passes : UInt32) : StubResult :=
  let s := Loop.run payload passes .start
  { rms := if s.sampleCount = 0 then 0 else rms s.sumSquares s.sampleCount
    zeroCrossings := s.zeroCrossings
    checksum := s.checksum
    samples := s.sampleCount
    transcript := transcriptPool.getD (s.checksum.toNat % transcriptPool.length) ""
    audioBytes := UInt64.ofNat payload.length }

/-! ## Python -/

namespace Python

structure Loop where
  checksum : ℕ
  zeroCrossings : ℕ
  sumSquares : ℤ
  sampleCount : ℕ
  previous : ℤ
deriving DecidableEq, Repr

structure StubResult where
  rms : F64
  zeroCrossings : ℕ
  checksum : ℕ
  samples : ℕ
deriving DecidableEq, Repr

def Loop.start : Loop := ⟨2166136261, 0, 0, 0, 0⟩

def crosses (previous sample : ℤ) : Bool :=
  sample < 0 ∧ 0 ≤ previous ∨ previous < 0 ∧ 0 ≤ sample

def fold (passIndex : ℕ) (checksum : ℕ) (sample : ℤ) : ℕ :=
  let adjusted := sample + 32768 + passIndex
  (checksum ^^^ (adjusted % 2 ^ 16).toNat) * 16777619 % 2 ^ 32

def Loop.sample (passIndex : ℕ) (s : Loop) (sample : ℤ) : Loop :=
  { checksum := fold passIndex s.checksum sample
    zeroCrossings :=
      if 0 < s.sampleCount ∧ crosses s.previous sample then s.zeroCrossings + 1
      else s.zeroCrossings
    sumSquares := s.sumSquares + sample * sample
    sampleCount := s.sampleCount + 1
    previous := sample }

def unpack (payload : Bytes) : Option (List ℤ) :=
  if payload.length % 2 = 0 then some ((samples payload).map Int16.toInt) else none

def computeStub (rms : ℤ → ℕ → F64) (frames : List Bytes) (passes : ℕ) : Option StubResult := do
  let samples ← unpack frames.flatten
  let s := (List.range passes).foldl (fun s passIndex => samples.foldl (Loop.sample passIndex) s)
    Loop.start
  some (if s.sampleCount = 0 then ⟨0, 0, s.checksum, 0⟩
    else ⟨rms s.sumSquares s.sampleCount, s.zeroCrossings, s.checksum, s.sampleCount⟩)

def inside (xs : List ℤ) : ℕ := (xs.dropLast.zip (xs.drop 1)).countP fun x => crosses x.1 x.2

def boundary (xs : List ℤ) : ℕ :=
  match xs.getLast?, xs.head? with
  | some last, some first => (crosses last first).toNat
  | _, _ => 0

def foldPasses (xs : List ℤ) (passes : ℕ) : ℕ :=
  (List.range passes).foldl (fun c passIndex => xs.foldl (fold passIndex) c) 2166136261

def computeStubSplit (rms : ℤ → ℕ → F64) (frames : List Bytes) (passes : ℕ) :
    Option StubResult := do
  let payload := frames.flatten
  if payload = [] then some ⟨0, 0, 2166136261, 0⟩
  else
    let arr ← unpack payload
    let n := arr.length
    let sumSquaresPerPass := (arr.map fun x => x * x).sum.bmod (2 ^ 64)
    let zeroCrossings := passes * inside arr + (passes - 1) * boundary arr
    let sampleCount := passes * n
    let checksum := foldPasses arr passes
    some (if sampleCount = 0 then ⟨0, 0, checksum, 0⟩
      else ⟨rms (passes * sumSquaresPerPass) sampleCount, zeroCrossings, checksum, sampleCount⟩)

end Python

/-! ## The words that are folded -/

lemma toNat_adjusted (sample : Int16) (passIndex : UInt32) :
    ((sample.toInt32 + 32768 + passIndex.toInt32).toUInt32 &&& 0xFFFF).toNat =
      ((sample.toInt + 32768 + passIndex.toNat) % 2 ^ 16).toNat := by
  have hmask : ∀ x : UInt32, (x &&& 0xFFFF).toNat = x.toNat % 2 ^ 16 := fun x =>
    (UInt32.toNat_and x 0xFFFF).trans (Nat.and_two_pow_sub_one_eq_mod x.toNat 16)
  have htoNat : ∀ x : Int32, x.toInt = (x.toUInt32.toNat : ℤ).bmod (2 ^ 32) := fun x =>
    BitVec.toInt_eq_toNat_bmod x.toBitVec
  have hindex : passIndex.toInt32.toInt = (passIndex.toNat : ℤ).bmod (2 ^ 32) :=
    BitVec.toInt_eq_toNat_bmod passIndex.toBitVec
  have hsum := htoNat (sample.toInt32 + 32768 + passIndex.toInt32)
  rw [Int32.toInt_add, Int32.toInt_add, Int16.toInt_toInt32, hindex,
    show (32768 : Int32).toInt = 32768 from rfl] at hsum
  rw [hmask]
  simp only [Int.bmod_eq_self_sub_mul_bdiv] at hsum
  omega

lemma toNat_checksum (c : UInt32) (sample : Int16) {i : ℕ} (hi : i < 2 ^ 32) :
    ((c ^^^ ((sample.toInt32 + 32768 + (UInt32.ofNat i).toInt32).toUInt32 &&& 0xFFFF)) *
      fnvPrime).toNat = Python.fold i c.toNat sample.toInt := by
  rw [UInt32.toNat_mul, UInt32.toNat_xor, toNat_adjusted, UInt32.toNat_ofNat_of_lt' hi]
  rfl

/-! ## Rust and Python -/

def turns {α : Type} (passes : ℕ) (xs : List α) : List (ℕ × α) :=
  (List.range passes).flatMap fun i => xs.map (i, ·)

lemma foldl_turns {α β : Type} (f : ℕ → β → α → β) (passes : ℕ) (xs : List α) (b : β) :
    (List.range passes).foldl (fun b i => xs.foldl (f i) b) b =
      (turns passes xs).foldl (fun b t => f t.1 b t.2) b := by
  rw [turns, foldl_flatMap]
  simp only [foldl_map]

lemma length_turns {α : Type} (passes : ℕ) (xs : List α) :
    (turns passes xs).length = passes * xs.length := by
  simp [turns, length_flatMap]

lemma turns_map {α β : Type} (g : α → β) (passes : ℕ) (xs : List α) :
    turns passes (xs.map g) = (turns passes xs).map (Prod.map id g) := by
  simp [turns, map_flatMap, Function.comp_def]

lemma lt_of_mem_turns {α : Type} {passes : ℕ} {xs : List α} {t : ℕ × α}
    (h : t ∈ turns passes xs) : t.1 < passes := by
  simp only [turns, mem_flatMap, mem_range, mem_map] at h
  obtain ⟨i, hi, x, -, rfl⟩ := h
  exact hi

structure Follows (s : Loop) (p : Python.Loop) : Prop where
  checksum : s.checksum.toNat = p.checksum
  zeroCrossings : s.zeroCrossings.toNat = p.zeroCrossings
  sampleCount : s.sampleCount.toNat = p.sampleCount
  previous : s.previous.toInt = p.previous
  le : p.zeroCrossings ≤ p.sampleCount

lemma Follows.sample {s : Loop} {p : Python.Loop} (h : Follows s p)
    (hroom : p.sampleCount + 1 < 2 ^ 64) {i : ℕ} (hi : i < 2 ^ 32) (x : Int16) :
    Follows (s.sample (UInt32.ofNat i) x) (p.sample i x.toInt) := by
  have hle := h.le
  have hcross : (0 < s.sampleCount ∧ (x < 0 ∧ 0 ≤ s.previous ∨ s.previous < 0 ∧ 0 ≤ x)) ↔
      0 < p.sampleCount ∧ Python.crosses p.previous x.toInt := by
    simp only [UInt64.lt_iff_toNat_lt, Int16.lt_iff_toInt_lt, Int16.le_iff_toInt_le, h.sampleCount,
      h.previous, Python.crosses, decide_eq_true_eq]
    rfl
  refine ⟨?_, ?_, ?_, rfl, ?_⟩
  · simp only [Loop.sample, Python.Loop.sample, toNat_checksum _ _ hi, h.checksum]
  · simp only [Loop.sample, Python.Loop.sample, hcross]
    split_ifs
    · rw [UInt64.toNat_add, h.zeroCrossings]
      exact Nat.mod_eq_of_lt (by simp; omega)
    · exact h.zeroCrossings
  · simp only [Loop.sample, Python.Loop.sample]
    rw [UInt64.toNat_add, h.sampleCount]
    exact Nat.mod_eq_of_lt hroom
  · simp only [Python.Loop.sample]
    split_ifs <;> omega

lemma Follows.foldl {s : Loop} {p : Python.Loop} (h : Follows s p) (ts : List (ℕ × Int16))
    (hts : ∀ t ∈ ts, t.1 < 2 ^ 32) (hroom : p.sampleCount + ts.length < 2 ^ 64) :
    Follows (ts.foldl (fun s t => s.sample (UInt32.ofNat t.1) t.2) s)
      ((ts.map (Prod.map id Int16.toInt)).foldl (fun p t => p.sample t.1 t.2) p) := by
  induction ts generalizing s p with
  | nil => exact h
  | cons t ts ih =>
    obtain ⟨ht, hts⟩ := forall_mem_cons.mp hts
    rw [length_cons] at hroom
    refine ih (h.sample (by omega) ht t.2) hts ?_
    show p.sampleCount + 1 + ts.length < 2 ^ 64
    omega

namespace Python

def Loop.run (xs : List ℤ) (passes : ℕ) : Loop :=
  (List.range passes).foldl (fun s passIndex => xs.foldl (Loop.sample passIndex) s) .start

/-! ## The closed form -/

lemma inside_cons (x y : ℤ) (xs : List ℤ) :
    inside (x :: y :: xs) = (crosses x y).toNat + inside (y :: xs) := by
  cases hc : crosses x y <;> simp [inside, hc, Nat.add_comm]

lemma foldl_sample {s : Loop} (hpos : 0 < s.sampleCount) (i : ℕ) (xs : List ℤ) :
    xs.foldl (Loop.sample i) s =
      ⟨xs.foldl (fold i) s.checksum, s.zeroCrossings + inside (s.previous :: xs),
        s.sumSquares + (xs.map fun x => x * x).sum, s.sampleCount + xs.length,
        xs.getLast?.getD s.previous⟩ := by
  induction xs generalizing s with
  | nil => simp [inside]
  | cons x xs ih =>
    rw [foldl_cons, ih (Nat.succ_pos _), inside_cons]
    cases hc : crosses s.previous x <;>
      simp [Loop.sample, hpos, hc, List.getLast?_cons, Nat.add_comm 1, add_assoc]

lemma run_succ {x : ℤ} {xs : List ℤ} (passes : ℕ) :
    Loop.run (x :: xs) (passes + 1) =
      ⟨foldPasses (x :: xs) (passes + 1),
        (passes + 1) * inside (x :: xs) + passes * boundary (x :: xs),
        (passes + 1) * ((x :: xs).map fun x => x * x).sum, (passes + 1) * (x :: xs).length,
        xs.getLast?.getD x⟩ := by
  induction passes with
  | zero =>
    have hfirst : Loop.run (x :: xs) 1 = xs.foldl (Loop.sample 0) (Loop.start.sample 0 x) := rfl
    have hpos : 0 < (Loop.start.sample 0 x).sampleCount := Nat.succ_pos _
    rw [hfirst, foldl_sample hpos]
    simp [Loop.sample, Loop.start, foldPasses, Nat.add_comm 1]
  | succ passes ih =>
    have hnext : Loop.run (x :: xs) (passes + 2) =
        (x :: xs).foldl (Loop.sample (passes + 1)) (Loop.run (x :: xs) (passes + 1)) := by
      simp [Loop.run, range_succ (n := passes + 1)]
    have hfold : foldPasses (x :: xs) (passes + 2) =
        (x :: xs).foldl (fold (passes + 1)) (foldPasses (x :: xs) (passes + 1)) := by
      simp [foldPasses, range_succ (n := passes + 1)]
    have hboundary : boundary (x :: xs) = (crosses (xs.getLast?.getD x) x).toNat := by
      rw [boundary, List.getLast?_cons]
      rfl
    rw [hnext, ih, foldl_sample (by simp), inside_cons, hfold, hboundary]
    simp only [Loop.mk.injEq, true_and, List.getLast?_cons, Option.getD_some, and_true]
    refine ⟨by ring, ?_, by ring⟩
    push_cast
    ring

lemma run_spec (xs : List ℤ) {passes : ℕ} (hpasses : 1 ≤ passes) :
    (Loop.run xs passes).sampleCount = passes * xs.length ∧
      (Loop.run xs passes).zeroCrossings = passes * inside xs + (passes - 1) * boundary xs ∧
      (Loop.run xs passes).checksum = foldPasses xs passes := by
  obtain ⟨k, rfl⟩ := Nat.exists_eq_add_of_le' hpasses
  cases xs with
  | nil =>
    have hstart : Loop.run [] (k + 1) = .start := by simp [Loop.run]
    rw [hstart]
    refine ⟨by simp [Loop.start], by simp [Loop.start, inside, boundary], ?_⟩
    simp [Loop.start, foldPasses]
  | cons x xs =>
    rw [run_succ]
    exact ⟨rfl, rfl, rfl⟩

lemma ite_integers {crossings count checksum : ℕ} {rms : F64} (h : crossings ≤ count) :
    let r : StubResult := if count = 0 then ⟨0, 0, checksum, 0⟩
      else ⟨rms, crossings, checksum, count⟩
    (r.samples, r.zeroCrossings, r.checksum) = (count, crossings, checksum) := by
  intro r
  by_cases hcount : count = 0
  · simp [r, hcount, Nat.le_zero.mp (hcount ▸ h)]
  · simp [r, hcount]

end Python

lemma follows_run (payload : Bytes) (passes : UInt32)
    (hfit : passes.toNat * (samples payload).length < 2 ^ 64) :
    Follows (Loop.run payload passes .start)
      (Python.Loop.run ((samples payload).map Int16.toInt) passes.toNat) := by
  have hstart : Follows .start .start := ⟨rfl, rfl, rfl, rfl, Nat.le_refl _⟩
  rw [Loop.run, Python.Loop.run, foldl_turns (fun i s x => Loop.sample (UInt32.ofNat i) s x),
    foldl_turns (fun i p x => Python.Loop.sample i p x), turns_map]
  refine hstart.foldl _ (fun t ht => (lt_of_mem_turns ht).trans passes.toNat_lt) ?_
  rw [length_turns]
  exact (Nat.zero_add _).trans_lt hfit

theorem stubs_agree (rust : ℤ → UInt64 → F64) (python split : ℤ → ℕ → F64) (frames : List Bytes)
    (heven : frames.flatten.length % 2 = 0) (passes : UInt32) (hpasses : 1 ≤ passes.toNat)
    (hfit : passes.toNat * frames.flatten.length < 2 ^ 64) :
    let n := frames.flatten.length / 2
    let xs := (samples frames.flatten).map Int16.toInt
    let integers := (passes.toNat * n,
      passes.toNat * Python.inside xs + (passes.toNat - 1) * Python.boundary xs,
      Python.foldPasses xs passes.toNat)
    let r := computeStub rust frames.flatten passes
    (r.samples.toNat, r.zeroCrossings.toNat, r.checksum.toNat) = integers ∧
      (∃ p, Python.computeStub python frames passes.toNat = some p ∧
        (p.samples, p.zeroCrossings, p.checksum) = integers) ∧
      ∃ q, Python.computeStubSplit split frames passes.toNat = some q ∧
        (q.samples, q.zeroCrossings, q.checksum) = integers := by
  intro n xs integers r
  have hn : (samples frames.flatten).length = n := length_samples _
  have hxs : xs.length = n := by rw [length_map, hn]
  have hunpack : Python.unpack frames.flatten = some xs := if_pos heven
  obtain ⟨hcount, hcrossings, hchecksum⟩ := Python.run_spec xs hpasses
  rw [hxs] at hcount
  have h := follows_run frames.flatten passes (by
    rw [hn]
    exact (Nat.mul_le_mul_left _ (Nat.div_le_self _ _)).trans_lt hfit)
  have hintegers : integers = ((Python.Loop.run xs passes.toNat).sampleCount,
      (Python.Loop.run xs passes.toNat).zeroCrossings,
      (Python.Loop.run xs passes.toNat).checksum) := by
    rw [hcount, hcrossings, hchecksum]
  refine ⟨?_, ⟨_, by rw [Python.computeStub, hunpack]; rfl, ?_⟩, ?_⟩
  · rw [hintegers, ← h.sampleCount, ← h.zeroCrossings, ← h.checksum]
    rfl
  · rw [hintegers]
    exact Python.ite_integers h.le
  · by_cases hempty : frames.flatten = []
    · refine ⟨_, if_pos hempty, ?_⟩
      have hnil : xs = [] := by rw [← length_eq_zero_iff, hxs, show n = 0 by simp [n, hempty]]
      have hstart : Python.Loop.run [] passes.toNat = .start := by simp [Python.Loop.run]
      rw [hintegers, hnil, hstart]
      rfl
    · refine ⟨_, (if_neg hempty).trans (by rw [hunpack]; rfl), ?_⟩
      rw [hintegers, ← hcrossings, ← hchecksum, hxs, ← hcount]
      exact Python.ite_integers h.le

theorem stubs_agree_crossing :
    (Python.computeStub (fun _ _ => 0) [[1, 0], [255, 255]] 3).map (·.zeroCrossings) = some 5 := by
  obtain ⟨-, ⟨p, hp, h⟩, -⟩ := stubs_agree (fun _ _ => 0) (fun _ _ => 0) (fun _ _ => 0)
    [[1, 0], [255, 255]] rfl 3 (by decide) (by decide)
  have hpasses : (3 : UInt32).toNat = 3 := rfl
  rw [hpasses] at hp h
  rw [hp, Option.map_some, (Prod.mk.inj (Prod.mk.inj h).2).1]
  decide

/-! ## The checksum -/

def checksumFold (payload : Bytes) (passes : UInt32) (checksum : UInt32) : UInt32 :=
  (Loop.run payload passes { Loop.start with checksum }).checksum

def absorb (checksum word : UInt32) : UInt32 := (checksum ^^^ word) * fnvPrime

lemma fnvPrime_mul : fnvPrime * 899433627 = 1 := by decide

lemma xor_eq_of_absorb {c d v w : UInt32} (h : absorb c v = absorb d w) : c ^^^ v = d ^^^ w := by
  have hmul := congrArg (· * 899433627) h
  simpa only [absorb, UInt32.mul_assoc, fnvPrime_mul, UInt32.mul_one] using hmul

lemma absorb_injective (word : UInt32) : Function.Injective (absorb · word) := fun c d h => by
  have hxor := congrArg (· ^^^ word) (xor_eq_of_absorb h)
  simpa only [UInt32.xor_assoc, UInt32.xor_self, UInt32.xor_zero] using hxor

lemma foldl_absorb_injective (words : List UInt32) :
    Function.Injective fun c => words.foldl absorb c := by
  induction words with
  | nil => exact Function.injective_id
  | cons word words ih => exact ih.comp (absorb_injective word)

def words (passIndex : UInt32) (xs : List Int16) : List UInt32 :=
  xs.map fun sample => (sample.toInt32 + 32768 + passIndex.toInt32).toUInt32 &&& 0xFFFF

lemma checksum_foldl (passIndex : UInt32) (xs : List Int16) (s : Loop) :
    (xs.foldl (Loop.sample passIndex) s).checksum =
      (words passIndex xs).foldl absorb s.checksum := by
  induction xs generalizing s with
  | nil => rfl
  | cons x xs ih => exact ih (s.sample passIndex x)

lemma checksum_run (payload : Bytes) (passes : UInt32) (s : Loop) :
    (Loop.run payload passes s).checksum =
      ((List.range passes.toNat).flatMap fun i =>
        words (UInt32.ofNat i) (samples payload)).foldl absorb s.checksum := by
  rw [Loop.run, foldl_flatMap]
  induction List.range passes.toNat generalizing s with
  | nil => rfl
  | cons i is ih => rw [foldl_cons, foldl_cons, ih, checksum_foldl]

lemma word_injective : Function.Injective fun sample : Int16 =>
    (sample.toInt32 + 32768 + (0 : UInt32).toInt32).toUInt32 &&& 0xFFFF := fun x y h => by
  have hnat := congrArg UInt32.toNat h
  simp only [toNat_adjusted, UInt32.toNat_zero] at hnat
  have hx := Int16.le_toInt x
  have hx' := Int16.toInt_lt x
  have hy := Int16.le_toInt y
  have hy' := Int16.toInt_lt y
  exact Int16.toInt_inj.mp (by omega)

theorem checksum_sensitive :
    (∀ (payload : Bytes) (passes : UInt32), Function.Bijective (checksumFold payload passes)) ∧
      ∀ (rms : ℤ → UInt64 → F64) (p q : Bytes) (before after : List Int16) (x y : Int16),
        samples p = before ++ x :: after → samples q = before ++ y :: after → x ≠ y →
          (computeStub rms p 1).checksum ≠ (computeStub rms q 1).checksum := by
  refine ⟨fun payload passes => Finite.injective_iff_bijective.mp ?_, ?_⟩
  · have hfold : checksumFold payload passes = fun c =>
        ((List.range passes.toNat).flatMap fun i =>
          words (UInt32.ofNat i) (samples payload)).foldl absorb c :=
      funext fun c => checksum_run payload passes _
    rw [hfold]
    exact foldl_absorb_injective _
  · intro rms p q before after x y hp hq hne h
    have hone : ∀ payload, (computeStub rms payload 1).checksum =
        (words 0 (samples payload)).foldl absorb fnvOffset := fun payload =>
      (checksum_run payload 1 .start).trans (by simp; rfl)
    rw [hone, hone, hp, hq] at h
    simp only [words, map_append, map_cons, foldl_append, foldl_cons] at h
    have hword := xor_eq_of_absorb (foldl_absorb_injective _ h)
    refine hne (word_injective ?_)
    simpa using hword

theorem checksum_sensitive_second :
    (computeStub (fun _ _ => 0) [5, 0, 0, 0, 7, 0] 1).checksum ≠
      (computeStub (fun _ _ => 0) [5, 0, 0, 1, 7, 0] 1).checksum :=
  checksum_sensitive.2 _ _ _ [5] [7] 0 256 (by decide) (by decide) (by decide)

end SttBench.Stub
