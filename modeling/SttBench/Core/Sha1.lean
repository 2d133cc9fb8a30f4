import SttBench.Core.Bits

/-!
# SHA-1

The hash function of FIPS 180-4, in the terms of that standard.
-/

namespace Fips180

open Ascii Bits

/-! ## Padding and parsing (5.1.1, 5.2.1) -/

lemma exists_zeros (l : ℕ) : ∃ k, (l + 1 + k) % 512 = 448 := ⟨959 - l % 512, by omega⟩

def zeros (l : ℕ) : ℕ := Nat.find (exists_zeros l)

def lengthBits (l : ℕ) : List Bool := (List.range 64).map fun i => l.testBit (63 - i)

def pad (m : List Bool) : List Bool :=
  m ++ true :: (List.replicate (zeros m.length) false ++ lengthBits m.length)

def word (m : List Bool) (i t : ℕ) : UInt32 :=
  UInt32.ofNat (value ((m.drop (512 * i + 32 * t)).take 32))

/-! ## Functions and constants (4.1.1, 4.2.1, 5.3.1) -/

def rotl (n x : UInt32) : UInt32 := (x <<< n) ||| (x >>> (32 - n))

def ch (x y z : UInt32) : UInt32 := (x &&& y) ^^^ (~~~x &&& z)
def parity (x y z : UInt32) : UInt32 := x ^^^ y ^^^ z
def maj (x y z : UInt32) : UInt32 := (x &&& y) ^^^ (x &&& z) ^^^ (y &&& z)

def f (t : ℕ) : UInt32 → UInt32 → UInt32 → UInt32 :=
  if t < 20 then ch else if t < 40 then parity else if t < 60 then maj else parity

def k (t : ℕ) : UInt32 :=
  if t < 20 then 0x5a827999 else if t < 40 then 0x6ed9eba1 else if t < 60 then 0x8f1bbcdc
  else 0xca62c1d6

abbrev Words := UInt32 × UInt32 × UInt32 × UInt32 × UInt32

def initial : Words := (0x67452301, 0xefcdab89, 0x98badcfe, 0x10325476, 0xc3d2e1f0)

/-! ## The computation (6.1.2) -/

def schedule (m : ℕ → UInt32) (t : ℕ) : UInt32 :=
  if t < 16 then m t
  else rotl 1 (schedule m (t - 3) ^^^ schedule m (t - 8) ^^^ schedule m (t - 14) ^^^
    schedule m (t - 16))
termination_by t

def round (w : ℕ → UInt32) : Words → ℕ → Words
  | (a, b, c, d, e), t => (rotl 5 a + f t b c d + e + k t + w t, a, rotl 30 b, c, d)

def compress (m : ℕ → UInt32) : Words → Words
  | (h₀, h₁, h₂, h₃, h₄) =>
    let (a, b, c, d, e) := (List.range 80).foldl (round (schedule m)) (h₀, h₁, h₂, h₃, h₄)
    (a + h₀, b + h₁, c + h₂, d + h₃, e + h₄)

def octets (x : UInt32) : Bytes :=
  [(x >>> 24).toUInt8, (x >>> 16).toUInt8, (x >>> 8).toUInt8, x.toUInt8]

def digest (m : List Bool) : Bytes :=
  let m := pad m
  let (h₀, h₁, h₂, h₃, h₄) :=
    (List.range (m.length / 512)).foldl (fun h i => compress (word m i) h) initial
  octets h₀ ++ (octets h₁ ++ (octets h₂ ++ (octets h₃ ++ octets h₄)))

lemma schedule_of_lt (m : ℕ → UInt32) {t : ℕ} (h : t < 16) : schedule m t = m t := by
  rw [schedule, if_pos h]

lemma schedule_of_le (m : ℕ → UInt32) {t : ℕ} (h : 16 ≤ t) :
    schedule m t = rotl 1 (schedule m (t - 3) ^^^ schedule m (t - 8) ^^^ schedule m (t - 14) ^^^
      schedule m (t - 16)) := by
  rw [schedule, if_neg (Nat.not_lt.mpr h)]

lemma zeros_eq (l : ℕ) : zeros l = (959 - l % 512) % 512 := by
  refine (Nat.find_eq_iff _).mpr ⟨by omega, fun n hn => by omega⟩

@[simp] lemma length_digest (m : List Bool) : (digest m).length = 20 := rfl

end Fips180
