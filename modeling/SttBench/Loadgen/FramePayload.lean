import Mathlib.Data.FinEnum
import SttBench.Loadgen.Protocol
import SttBench.Core.Ascii

/-!
# The audio of the load generator

`frame_payload` in Rust, and its port to Python.
-/

namespace SttBench.Loadgen

open Ascii List

/-! ## Rust -/

def mix64 (z : UInt64) : UInt64 :=
  let z := (z ^^^ (z >>> 30)) * 0xBF58476D1CE4E5B9
  let z := (z ^^^ (z >>> 27)) * 0x94D049BB133111EB
  z ^^^ (z >>> 31)

def splitmixGamma : UInt64 := 0x9E3779B97F4A7C15
def sawPeriod : Int32 := 20000
def sawStep : Int32 := 17
def noiseHalf : Int32 := 256

def seed (sessionId seq : UInt64) : UInt64 := mix64 (mix64 sessionId ^^^ seq)

structure Saw where
  state : UInt64
  carrier : Int32
  values : List Int32
deriving DecidableEq, Repr

def Saw.start (sessionId seq : UInt64) : Saw :=
  ⟨seed sessionId seq, (seed sessionId seq % 20000).toUInt32.toInt32, []⟩

def Saw.sample (noise : UInt64) (s : Saw) (lane : ℕ) : Saw :=
  let jitter := ((noise >>> UInt64.ofNat (16 * lane)) &&& 0x1FF).toUInt32.toInt32 - noiseHalf
  let value := s.carrier - sawPeriod / 2 + jitter
  let carrier := s.carrier + sawStep
  { s with
    carrier := if sawPeriod ≤ carrier then carrier - sawPeriod else carrier
    values := s.values ++ [value] }

def Saw.chunk (s : Saw) : Saw :=
  let state := s.state + splitmixGamma
  (List.range 4).foldl (Saw.sample (mix64 state)) { s with state }

def leBytes (value : Int16) : Bytes := [value.toUInt16.toUInt8, (value.toUInt16 >>> 8).toUInt8]

def frameValues (sessionId seq : UInt64) : List Int32 :=
  (Saw.chunk^[frameBytes / 8] (.start sessionId seq)).values

def framePayload (sessionId seq : UInt64) : Bytes :=
  (frameValues sessionId seq).flatMap fun value => leBytes value.toInt16

/-! ## Python -/

namespace Python

def mix64 (z : ℕ) : ℕ :=
  let z := ((z ^^^ (z >>> 30)) * 0xBF58476D1CE4E5B9) &&& (2 ^ 64 - 1)
  let z := ((z ^^^ (z >>> 27)) * 0x94D049BB133111EB) &&& (2 ^ 64 - 1)
  z ^^^ (z >>> 31)

structure Saw where
  state : ℕ
  carrier : ℕ
  samples : List ℤ
deriving DecidableEq, Repr

def Saw.start (sessionId seq : ℕ) : Saw :=
  let state := mix64 (mix64 sessionId ^^^ seq)
  ⟨state, state % 20000, []⟩

def Saw.sample (noise : ℕ) (s : Saw) (lane : ℕ) : Saw :=
  let jitter : ℤ := ((noise >>> (16 * lane)) &&& 0x1FF : ℕ) - 256
  { s with
    carrier := (s.carrier + 17) % 20000
    samples := s.samples ++ [s.carrier - 10000 + jitter] }

def Saw.chunk (s : Saw) : Saw :=
  let state := (s.state + 0x9E3779B97F4A7C15) &&& (2 ^ 64 - 1)
  (List.range 4).foldl (Saw.sample (mix64 state)) { s with state }

def pack (samples : List ℤ) : Option Bytes :=
  if ∀ x ∈ samples, -32768 ≤ x ∧ x ≤ 32767 then
    some (samples.flatMap fun x => leBytes (Int16.ofInt x))
  else none

def loadgenFramePayload (sessionId seq : ℕ) : Option Bytes :=
  pack (Saw.chunk^[frameBytes / 2 / 4] (.start sessionId seq)).samples

end Python

/-! ## The words -/

lemma xorShift_injective {w k : ℕ} (hk : 0 < k) :
    Function.Injective fun x : BitVec w => x ^^^ (x >>> k) := fun x y h => by
  have hbit : ∀ n i, w ≤ i + n → x.getLsbD i = y.getLsbD i := by
    intro n
    induction n with
    | zero => exact fun i hi => by rw [BitVec.getLsbD_of_ge x i hi, BitVec.getLsbD_of_ge y i hi]
    | succ n ih =>
      intro i hi
      have hupper := ih (k + i) (by omega)
      have hboth := congrArg (·.getLsbD i) h
      simp only [BitVec.getLsbD_xor, BitVec.getLsbD_ushiftRight, hupper] at hboth
      exact Bool.xor_left_inj.mp hboth
  exact BitVec.eq_of_getLsbD_eq fun i _ => hbit w i (by omega)

lemma xorShift_injective_word {k : UInt64} (hk : 0 < k.toNat % 64) :
    Function.Injective fun x : UInt64 => x ^^^ (x >>> k) := fun _ _ h =>
  UInt64.toBitVec_inj.mp (xorShift_injective hk (congrArg UInt64.toBitVec h))

lemma mul_injective {a b : UInt64} (hab : a * b = 1) : Function.Injective (· * a) := fun x y h => by
  have hmul := congrArg (· * b) h
  simpa only [UInt64.mul_assoc, hab, UInt64.mul_one] using hmul

lemma mix64_injective : Function.Injective mix64 := by
  have hfirst : (0xBF58476D1CE4E5B9 : UInt64) * 0x96DE1B173F119089 = 1 := by decide
  have hsecond : (0x94D049BB133111EB : UInt64) * 0x319642B2D24D8EC3 = 1 := by decide
  exact (xorShift_injective_word (by decide)).comp <|
    (mul_injective hsecond).comp <| (xorShift_injective_word (by decide)).comp <|
      (mul_injective hfirst).comp <| xorShift_injective_word (by decide)

lemma xor_injective (x : UInt64) : Function.Injective (x ^^^ ·) := fun y z h => by
  have hxor := congrArg (x ^^^ ·) h
  simpa only [← UInt64.xor_assoc, UInt64.xor_self, UInt64.zero_xor] using hxor

lemma seed_injective (sessionId : UInt64) : Function.Injective (seed sessionId) :=
  mix64_injective.comp (xor_injective _)

lemma seed_injective_session (seq : UInt64) : Function.Injective (seed · seq) := fun s t h => by
  have hxor := mix64_injective h
  rw [UInt64.xor_comm, UInt64.xor_comm (mix64 t)] at hxor
  exact mix64_injective (xor_injective seq hxor)

/-! ## Rust and Python -/

lemma toNat_mix64 (z : UInt64) : (mix64 z).toNat = Python.mix64 z.toNat := by
  have hshift : ∀ (x : UInt64) (k : UInt64), k.toNat < 64 →
      (x >>> k).toNat = x.toNat >>> k.toNat := fun x k hk => by
    rw [UInt64.toNat_shiftRight, Nat.mod_eq_of_lt hk]
  simp only [mix64, Python.mix64, Nat.and_two_pow_sub_one_eq_mod]
  rw [UInt64.toNat_xor, hshift _ _ (by decide), UInt64.toNat_mul, UInt64.toNat_xor,
    hshift _ _ (by decide), UInt64.toNat_mul, UInt64.toNat_xor, hshift _ _ (by decide)]
  rfl

lemma toInt_narrow {x : UInt64} (h : x.toNat < 2 ^ 31) : x.toUInt32.toInt32.toInt = x.toNat := by
  have hnat : x.toUInt32.toNat = x.toNat := by
    rw [UInt64.toNat_toUInt32]
    omega
  have hint : x.toUInt32.toInt32.toInt = (x.toUInt32.toNat : ℤ).bmod (2 ^ 32) :=
    BitVec.toInt_eq_toNat_bmod x.toUInt32.toBitVec
  rw [hint, hnat]
  exact Int.bmod_eq_of_le (by omega) (by omega)

lemma and_lt (x : ℕ) : x &&& 0x1FF < 512 := Nat.lt_succ_of_le Nat.and_le_right

lemma toInt_noise (noise : UInt64) {lane : ℕ} (hlane : lane < 4) :
    ((noise >>> UInt64.ofNat (16 * lane)) &&& 0x1FF).toUInt32.toInt32.toInt =
      (noise.toNat >>> (16 * lane) &&& 0x1FF : ℕ) := by
  have hnat : ((noise >>> UInt64.ofNat (16 * lane)) &&& 0x1FF).toNat =
      noise.toNat >>> (16 * lane) &&& 0x1FF := by
    rw [UInt64.toNat_and, UInt64.toNat_shiftRight,
      UInt64.toNat_ofNat_of_lt' (show 16 * lane < 2 ^ 64 by omega),
      Nat.mod_eq_of_lt (show 16 * lane < 64 by omega)]
    rfl
  rw [toInt_narrow (by rw [hnat]; exact (and_lt _).trans (by decide)), hnat]

structure Follows (s : Saw) (p : Python.Saw) : Prop where
  state : s.state.toNat = p.state
  carrier : s.carrier.toInt = p.carrier
  lt : p.carrier < 20000
  values : s.values.map Int32.toInt = p.samples
  fits : ∀ x ∈ p.samples, -32768 ≤ x ∧ x ≤ 32767

lemma Follows.start (sessionId seq : UInt64) :
    Follows (.start sessionId seq) (.start sessionId.toNat seq.toNat) := by
  have hstate : (seed sessionId seq).toNat =
      Python.mix64 (Python.mix64 sessionId.toNat ^^^ seq.toNat) := by
    rw [seed, toNat_mix64, UInt64.toNat_xor, toNat_mix64]
  have hcarrier : (seed sessionId seq % 20000).toNat =
      Python.mix64 (Python.mix64 sessionId.toNat ^^^ seq.toNat) % 20000 := by
    rw [UInt64.toNat_mod, hstate]
    rfl
  have hlt := Nat.mod_lt (Python.mix64 (Python.mix64 sessionId.toNat ^^^ seq.toNat))
    (show 20000 > 0 by decide)
  exact ⟨hstate, (toInt_narrow (by omega)).trans (congrArg _ hcarrier), hlt, rfl,
    by simp [Python.Saw.start]⟩

lemma Follows.sample {s : Saw} {p : Python.Saw} (h : Follows s p) (noise : UInt64) {lane : ℕ}
    (hlane : lane < 4) : Follows (s.sample noise lane) (p.sample noise.toNat lane) := by
  have hnoise := toInt_noise noise hlane
  have hsmall := and_lt (noise.toNat >>> (16 * lane))
  have hcarrier := h.carrier
  have hlt := h.lt
  have hcentred : (s.carrier - sawPeriod / 2).toInt = p.carrier - 10000 := by
    rw [Int32.toInt_sub, hcarrier, show (sawPeriod / 2).toInt = 10000 from rfl]
    exact Int.bmod_eq_of_le (by omega) (by omega)
  have hjitter :
      (((noise >>> UInt64.ofNat (16 * lane)) &&& 0x1FF).toUInt32.toInt32 - noiseHalf).toInt =
        (noise.toNat >>> (16 * lane) &&& 0x1FF : ℕ) - 256 := by
    rw [Int32.toInt_sub, hnoise, show noiseHalf.toInt = 256 from rfl]
    exact Int.bmod_eq_of_le (by omega) (by omega)
  have hvalue : (s.carrier - sawPeriod / 2 +
      (((noise >>> UInt64.ofNat (16 * lane)) &&& 0x1FF).toUInt32.toInt32 - noiseHalf)).toInt =
        p.carrier - 10000 + ((noise.toNat >>> (16 * lane) &&& 0x1FF : ℕ) - 256) := by
    rw [Int32.toInt_add, hcentred, hjitter]
    exact Int.bmod_eq_of_le (by omega) (by omega)
  have hnext : (s.carrier + sawStep).toInt = p.carrier + 17 := by
    rw [Int32.toInt_add, hcarrier, show sawStep.toInt = 17 from rfl]
    exact Int.bmod_eq_of_le (by omega) (by omega)
  refine ⟨h.state, ?_, Nat.mod_lt _ (by decide), ?_, ?_⟩
  · simp only [Saw.sample, Python.Saw.sample]
    split_ifs with hwrap
    · rw [Int32.toInt_sub, hnext, show sawPeriod.toInt = 20000 from rfl]
      rw [Int32.le_iff_toInt_le, hnext, show sawPeriod.toInt = 20000 from rfl] at hwrap
      rw [Int.bmod_eq_of_le (by omega) (by omega)]
      omega
    · rw [Int32.le_iff_toInt_le, hnext, show sawPeriod.toInt = 20000 from rfl] at hwrap
      rw [hnext]
      omega
  · simp only [Saw.sample, Python.Saw.sample, map_append, h.values, map_cons, hvalue,
      map_nil]
  · intro x hx
    rcases mem_append.mp hx with hx | hx
    · exact h.fits x hx
    · rw [mem_singleton.mp hx]
      omega

lemma Follows.chunk {s : Saw} {p : Python.Saw} (h : Follows s p) : Follows s.chunk p.chunk := by
  have hgamma : splitmixGamma.toNat = 0x9E3779B97F4A7C15 := rfl
  have hstate : (s.state + splitmixGamma).toNat =
      (p.state + 0x9E3779B97F4A7C15) &&& (2 ^ 64 - 1) := by
    rw [Nat.and_two_pow_sub_one_eq_mod, UInt64.toNat_add, h.state, hgamma]
  have hlanes : ∀ (lanes : List ℕ) (noise : UInt64) {s : Saw} {p : Python.Saw}, Follows s p →
      (∀ lane ∈ lanes, lane < 4) →
        Follows (lanes.foldl (Saw.sample noise) s)
          (lanes.foldl (Python.Saw.sample noise.toNat) p) := by
    intro lanes noise
    induction lanes with
    | nil => exact fun h _ => h
    | cons lane lanes ih =>
      exact fun h hlanes => ih (h.sample noise (hlanes lane (by simp)))
        fun l hl => hlanes l (by simp [hl])
  have hrun := hlanes (List.range 4) (mix64 (s.state + splitmixGamma))
    (s := { s with state := s.state + splitmixGamma })
    (p := { p with state := (p.state + 0x9E3779B97F4A7C15) &&& (2 ^ 64 - 1) })
    ⟨hstate, h.carrier, h.lt, h.values, h.fits⟩ fun lane hlane => mem_range.mp hlane
  rwa [toNat_mix64, hstate] at hrun

lemma Follows.iterate {s : Saw} {p : Python.Saw} (h : Follows s p) (n : ℕ) :
    Follows (Saw.chunk^[n] s) (Python.Saw.chunk^[n] p) := by
  induction n generalizing s p with
  | zero => exact h
  | succ n ih =>
    rw [Function.iterate_succ_apply, Function.iterate_succ_apply]
    exact ih h.chunk

lemma length_chunk (s : Saw) : s.chunk.values.length = s.values.length + 4 := by
  have hlanes : ∀ (lanes : List ℕ) (noise : UInt64) (s : Saw),
      (lanes.foldl (Saw.sample noise) s).values.length = s.values.length + lanes.length := by
    intro lanes noise
    induction lanes with
    | nil => exact fun s => rfl
    | cons lane lanes ih =>
      intro s
      rw [foldl_cons, ih, Saw.sample, length_append, length_cons]
      simp only [length_cons, length_nil]
      omega
  rw [Saw.chunk, hlanes, length_range]

lemma length_iterate (s : Saw) (n : ℕ) :
    (Saw.chunk^[n] s).values.length = s.values.length + 4 * n := by
  induction n generalizing s with
  | zero => rfl
  | succ n ih =>
    rw [Function.iterate_succ_apply, ih, length_chunk]
    omega

lemma length_flatMap_leBytes (values : List Int32) :
    (values.flatMap fun value => leBytes value.toInt16).length = values.length * 2 := by
  simp [length_flatMap, leBytes]

theorem frame_payload_sound :
    Function.Bijective mix64 ∧ (∀ sessionId, Function.Injective (seed sessionId)) ∧
      (∀ seq, Function.Injective (seed · seq)) ∧
      ∀ sessionId seq,
        (framePayload sessionId seq).length = 640 ∧
        (∀ v ∈ frameValues sessionId seq,
          (-32768 ≤ v.toInt ∧ v.toInt ≤ 32767) ∧ v.toInt16.toInt = v.toInt) ∧
        Python.loadgenFramePayload sessionId.toNat seq.toNat =
          some (framePayload sessionId seq) := by
  refine ⟨Finite.injective_iff_bijective.mp mix64_injective, seed_injective,
    seed_injective_session, fun sessionId seq => ?_⟩
  have h := (Follows.start sessionId seq).iterate (frameBytes / 8)
  have hvalues := h.values
  rw [← frameValues] at hvalues
  have hfits : ∀ v ∈ frameValues sessionId seq, -32768 ≤ v.toInt ∧ v.toInt ≤ 32767 := by
    intro v hv
    refine h.fits _ ?_
    rw [← hvalues]
    exact mem_map_of_mem hv
  refine ⟨?_, fun v hv => ⟨hfits v hv, ?_⟩, ?_⟩
  · have hlength : (frameValues sessionId seq).length = 320 := by
      rw [frameValues, length_iterate]
      rfl
    rw [framePayload, length_flatMap_leBytes, hlength]
  · rw [Int32.toInt_toInt16]
    have hv := hfits v hv
    exact Int.bmod_eq_of_le (by omega) (by omega)
  · have hchunks : frameBytes / 2 / 4 = frameBytes / 8 := rfl
    rw [Python.loadgenFramePayload, hchunks, ← hvalues, Python.pack, if_pos (by simpa using hfits),
      flatMap_map, framePayload]
    simp only [Int16.ofInt_int32ToInt]

end SttBench.Loadgen
