import SttBench.Core.Buffer
import SttBench.Core.Sha1

/-! # ocaml-oxcaml-epoll: the accept key -/

namespace SttBench.OxcamlEpoll

open Ascii List

structure Runtime where
  maxStringLength : ℕ
  lt : maxStringLength < 2 ^ 57
  alloc : Buffer.Alloc UInt8

def Runtime.make (rt : Runtime) (n : ℕ) : Option Bytes :=
  if n ≤ rt.maxStringLength then some (List.replicate n 0) else none

def Runtime.create (rt : Runtime) (n : ℕ) : Option Bytes :=
  if n ≤ rt.maxStringLength then some (rt.alloc n).1 else none

def Runtime.concat (rt : Runtime) (s t : Bytes) : Option Bytes :=
  if (s ++ t).length ≤ rt.maxStringLength then some (s ++ t) else none

/-! ## `sha1.ml` -/

namespace Sha1

def rotl32 (x n : UInt32) : UInt32 := (x <<< n) ||| (x >>> (32 - n))

def charOfByte (i : ℕ) : UInt8 := UInt8.ofNat (i &&& 0xff)

def padMessage (rt : Runtime) (s : Bytes) : Option Bytes := do
  let len := s.length
  -- The multiplication is that of OCaml integers, of 63 bits.
  let bitLen := UInt64.ofInt ((len * 8 : ℤ).bmod (2 ^ 63))
  let m := (len + 1) % 64
  let padLen := if m ≤ 56 then 56 - m else 56 + 64 - m
  let total := len + 1 + padLen + 8
  let buf ← rt.make total
  let buf ← Buffer.blit s 0 buf 0 len
  let buf ← Buffer.set buf len 0x80
  (List.range 8).foldlM (fun buf i =>
    let shift := 8 * (7 - i)
    let byte := ((bitLen >>> UInt64.ofNat shift) &&& 0xff).toNat
    Buffer.set buf (len + 1 + padLen + i) (charOfByte byte)) buf

def readBe32 (s : Bytes) (pos : ℕ) : Option UInt32 := do
  let b0 := (← s[pos]?).toUInt32
  let b1 := (← s[pos + 1]?).toUInt32
  let b2 := (← s[pos + 2]?).toUInt32
  let b3 := (← s[pos + 3]?).toUInt32
  some (((b0 <<< 24) ||| (b1 <<< 16)) ||| ((b2 <<< 8) ||| b3))

def writeBe32 (buf : Bytes) (pos : ℕ) (x : UInt32) : Option Bytes := do
  let byte (shift : UInt32) := ((x >>> shift) &&& 0xff).toNat
  let buf ← Buffer.set buf pos (charOfByte (byte 24))
  let buf ← Buffer.set buf (pos + 1) (charOfByte (byte 16))
  let buf ← Buffer.set buf (pos + 2) (charOfByte (byte 8))
  Buffer.set buf (pos + 3) (charOfByte (byte 0))

def nextWord (w : List UInt32) (i : ℕ) : Option UInt32 := do
  let x := (← w[i - 3]?) ^^^ (← w[i - 8]?)
  let y := (← w[i - 14]?) ^^^ (← w[i - 16]?)
  some (rotl32 (x ^^^ y) 1)

def expand (padded : Bytes) (blockOffset : ℕ) : Option (List UInt32) := do
  let w ← (List.range 16).foldlM (fun w i => do
    Buffer.set w i (← readBe32 padded (blockOffset + i * 4))) (List.replicate 80 0)
  (List.range' 16 64).foldlM (fun w i => do Buffer.set w i (← nextWord w i)) w

def turn (w : List UInt32) : Fips180.Words → ℕ → Option Fips180.Words
  | (a, b, c, d, e), i => do
    let (f, k) : UInt32 × UInt32 :=
      if i < 20 then ((b &&& c) ||| (~~~b &&& d), 0x5a827999)
      else if i < 40 then (b ^^^ (c ^^^ d), 0x6ed9eba1)
      else if i < 60 then (((b &&& c) ||| (b &&& d)) ||| (c &&& d), 0x8f1bbcdc)
      else (b ^^^ (c ^^^ d), 0xca62c1d6)
    let temp := ((rotl32 a 5 + f) + (e + k)) + (← w[i]?)
    some (temp, a, rotl32 b 30, c, d)

def processBlock (padded : Bytes) (blockOffset : ℕ) :
    Fips180.Words → Option Fips180.Words
  | (h0, h1, h2, h3, h4) => do
    let w ← expand padded blockOffset
    let (a, b, c, d, e) ← (List.range 80).foldlM (turn w) (h0, h1, h2, h3, h4)
    some (h0 + a, h1 + b, h2 + c, h3 + d, h4 + e)

def digestString (rt : Runtime) (s : Bytes) : Option Bytes := do
  let padded ← padMessage rt s
  let (h0, h1, h2, h3, h4) ← (List.range (padded.length / 64)).foldlM
    (fun h block => processBlock padded (block * 64) h)
    (0x67452301, 0xefcdab89, 0x98badcfe, 0x10325476, 0xc3d2e1f0)
  let out ← rt.create 20
  let out ← writeBe32 out 0 h0
  let out ← writeBe32 out 4 h1
  let out ← writeBe32 out 8 h2
  let out ← writeBe32 out 12 h3
  writeBe32 out 16 h4

end Sha1

/-! ## `base64.ml` -/

namespace Base64

def alphabet : Bytes := bytes "ABCDEFGHIJKLMNOPQRSTUVWXYZabcdefghijklmnopqrstuvwxyz0123456789+/"

def groups (s : Bytes) (out : Bytes) (i o : ℕ) : Option (Bytes × ℕ × ℕ) :=
  if i + 3 ≤ s.length then do
    let b0 := (← s[i]?).toNat
    let b1 := (← s[i + 1]?).toNat
    let b2 := (← s[i + 2]?).toNat
    let out ← Buffer.set out o (← alphabet[b0 >>> 2]?)
    let out ← Buffer.set out (o + 1) (← alphabet[((b0 &&& 0x03) <<< 4) ||| (b1 >>> 4)]?)
    let out ← Buffer.set out (o + 2) (← alphabet[((b1 &&& 0x0f) <<< 2) ||| (b2 >>> 6)]?)
    let out ← Buffer.set out (o + 3) (← alphabet[b2 &&& 0x3f]?)
    groups s out (i + 3) (o + 4)
  else some (out, i, o)
termination_by s.length - i

def remainder (s : Bytes) (out : Bytes) (i o : ℕ) : Option Bytes := do
  match s.length - i with
  | 0 => some out
  | 1 =>
    let b0 := (← s[i]?).toNat
    let out ← Buffer.set out o (← alphabet[b0 >>> 2]?)
    let out ← Buffer.set out (o + 1) (← alphabet[(b0 &&& 0x03) <<< 4]?)
    let out ← Buffer.set out (o + 2) 61
    Buffer.set out (o + 3) 61
  | 2 =>
    let b0 := (← s[i]?).toNat
    let b1 := (← s[i + 1]?).toNat
    let out ← Buffer.set out o (← alphabet[b0 >>> 2]?)
    let out ← Buffer.set out (o + 1) (← alphabet[((b0 &&& 0x03) <<< 4) ||| (b1 >>> 4)]?)
    let out ← Buffer.set out (o + 2) (← alphabet[(b1 &&& 0x0f) <<< 2]?)
    Buffer.set out (o + 3) 61
  | _ => none

def encode (rt : Runtime) (s : Bytes) : Option Bytes := do
  let outLen := (s.length + 2) / 3 * 4
  let out ← rt.create outLen
  let (out, i, o) ← groups s out 0 0
  remainder s out i o

end Base64

/-! ## `handshake.ml` -/

def websocketGuid : Bytes := bytes "258EAFA5-E914-47DA-95CA-C5AB0DC85B11"

def acceptKey (rt : Runtime) (key : Bytes) : Option Bytes := do
  Base64.encode rt (← Sha1.digestString rt (← rt.concat key websocketGuid))

/-! ## Padding -/

namespace Sha1

open Bits

lemma toNat_charOfByte (i : ℕ) : (charOfByte i).toNat = i % 2 ^ 8 := by
  rw [charOfByte, Nat.and_two_pow_sub_one_eq_mod i 8, UInt8.toNat_ofNat', Nat.mod_mod]

def padLen (len : ℕ) : ℕ :=
  if (len + 1) % 64 ≤ 56 then 56 - (len + 1) % 64 else 120 - (len + 1) % 64

def lengthByte (bitLen : UInt64) (i : ℕ) : UInt8 :=
  charOfByte ((bitLen >>> UInt64.ofNat (8 * (7 - i))) &&& 0xff).toNat

def padded (s : Bytes) : Bytes :=
  s ++ 0x80 :: (List.replicate (padLen s.length) 0 ++
    (List.range 8).map (lengthByte (UInt64.ofInt ((s.length * 8 : ℤ).bmod (2 ^ 63)))))

lemma length_padded (s : Bytes) : (padded s).length = s.length + 1 + padLen s.length + 8 := by
  simp only [padded, length_append, length_cons, length_replicate, length_map,
    length_range]
  omega

lemma length_padded_mod (s : Bytes) : (padded s).length % 64 = 0 := by
  rw [length_padded, padLen]
  split_ifs <;> omega

lemma padMessage_eq (rt : Runtime) (s : Bytes) :
    padMessage rt s =
      if (padded s).length ≤ rt.maxStringLength then some (padded s) else none := by
  have hpad : (if (s.length + 1) % 64 ≤ 56 then 56 - (s.length + 1) % 64
      else 56 + 64 - (s.length + 1) % 64) = padLen s.length := rfl
  simp only [padMessage, hpad, Runtime.make, length_padded]
  split_ifs with hfits
  · have hzeros : List.replicate (s.length + 1 + padLen s.length + 8) (0 : UInt8) =
        [] ++ (List.replicate s.length 0 ++
          ([0] ++ (List.replicate (padLen s.length) 0 ++ List.replicate 8 0))) := by
      simp only [replicate_add, nil_append, append_assoc, replicate_one]
    have hcopy := Buffer.write_run (p := []) (m := List.replicate s.length 0) (s := s)
      (r := [0] ++ (List.replicate (padLen s.length) 0 ++ List.replicate 8 0)) (by simp)
    have hmark := Buffer.write_run (p := s) (m := [0]) (s := [(0x80 : UInt8)])
      (r := List.replicate (padLen s.length) 0 ++ List.replicate 8 0) rfl
    have hbehind : s.length + 1 + padLen s.length =
        (s ++ ([0x80] ++ List.replicate (padLen s.length) 0)).length := by simp; omega
    simp only [Option.bind_eq_bind, Option.bind_some, Buffer.blit_all, hzeros]
    rw [← length_nil (α := UInt8), hcopy, Option.bind_some, nil_append, Buffer.set, hmark,
      Option.bind_some]
    refine (Buffer.foldlM_set (f := fun _ i => some (lengthByte _ i)) (n := 8) ?_
      fun i _ w _ => rfl).trans ?_
    · simp
      omega
    · rw [hbehind, ← append_assoc [_], ← append_assoc s,
        ← append_nil (List.replicate 8 0), Buffer.write_run (by simp)]
      simp [padded]
  · rfl

lemma bits_replicate (n : ℕ) : bits (List.replicate n 0) = List.replicate (8 * n) false := by
  induction n with
  | zero => rfl
  | succ n ih =>
    rw [replicate_succ, Nat.mul_succ, Nat.add_comm, replicate_add, ← ih]
    rfl

lemma bits_lengthByte (bitLen : UInt64) :
    bits ((List.range 8).map (lengthByte bitLen)) = Fips180.lengthBits bitLen.toNat := by
  have hrange : List.range 64 = (List.range 8).flatMap fun i => (List.range 8).map (8 * i + ·) := by
    decide
  rw [Fips180.lengthBits, hrange, bits, flatMap_map, map_flatMap]
  refine flatMap_congr fun i hi => ?_
  rw [ofByte, map_map]
  refine map_congr_left fun j hj => ?_
  have hi := mem_range.mp hi
  have hj := mem_range.mp hj
  have hshift : 8 * (7 - i) < 2 ^ 64 := by omega
  rw [lengthByte, toNat_charOfByte, UInt64.toNat_and, UInt64.toNat_shiftRight,
    UInt64.toNat_ofNat_of_lt' hshift, Nat.mod_eq_of_lt (show 8 * (7 - i) < 64 by omega)]
  have hmask : bitLen.toNat >>> (8 * (7 - i)) &&& UInt64.toNat 255 =
      bitLen.toNat >>> (8 * (7 - i)) % 2 ^ 8 := Nat.and_two_pow_sub_one_eq_mod _ 8
  rw [hmask, Nat.mod_mod, Nat.testBit_mod_two_pow, Nat.testBit_shiftRight, Function.comp_apply,
    decide_eq_true (show 7 - j < 8 by omega), Bool.true_and]
  congr 1
  omega

lemma zeros_eq (len : ℕ) : Fips180.zeros (8 * len) = 7 + 8 * padLen len := by
  rw [Fips180.zeros_eq, padLen]
  split_ifs <;> omega

lemma length_pad (s : Bytes) : (Fips180.pad (bits s)).length = 8 * (padded s).length := by
  simp only [Fips180.pad, Fips180.lengthBits, length_append, length_cons, length_bits,
    length_replicate, length_map, length_range, zeros_eq, length_padded]
  omega

lemma bits_padded {s : Bytes} (h : s.length < 2 ^ 57) : bits (padded s) = Fips180.pad (bits s) := by
  have hlen : (UInt64.ofInt ((s.length * 8 : ℤ).bmod (2 ^ 63))).toNat = 8 * s.length := by
    rw [Int.bmod_eq_of_le (by omega) (by omega)]
    show (UInt64.ofNat ((s.length * 8 : ℤ) % 2 ^ 64).toNat).toNat = 8 * s.length
    rw [UInt64.toNat_ofNat_of_lt' (by simp; omega)]
    omega
  have hmark : ∀ bs, bits (0x80 :: bs) = true :: (List.replicate 7 false ++ bits bs) := fun _ => rfl
  rw [padded, bits_append, hmark, bits_append, bits_replicate, bits_lengthByte, hlen, Fips180.pad,
    length_bits, zeros_eq, replicate_add, append_assoc]

/-! ## Blocks -/

lemma or_eq (b₀ b₁ b₂ b₃ : UInt8) :
    ((b₀.toUInt32 <<< 24) ||| (b₁.toUInt32 <<< 16)) ||| ((b₂.toUInt32 <<< 8) ||| b₃.toUInt32) =
      UInt32.ofNat (value (bits [b₀, b₁, b₂, b₃])) := by
  have h₀ := b₀.toNat_lt
  have h₁ := b₁.toNat_lt
  have h₂ := b₂.toNat_lt
  have h₃ := b₃.toNat_lt
  have hshift : ∀ (b : UInt8) (k : UInt32), k.toNat ≤ 24 →
      (b.toUInt32 <<< k).toNat = 2 ^ k.toNat * b.toNat := by
    intro b k hk
    have hb := b.toNat_lt
    have hpow : 2 ^ k.toNat ≤ 2 ^ 24 := Nat.pow_le_pow_right (by decide) hk
    rw [UInt32.toNat_shiftLeft, UInt8.toNat_toUInt32,
      Nat.mod_eq_of_lt (show k.toNat < 32 by omega), Nat.shiftLeft_eq, Nat.mul_comm,
      Nat.mod_eq_of_lt (by nlinarith)]
  refine UInt32.toNat_inj.mp ?_
  rw [UInt32.toNat_ofNat_of_lt' ((value_lt _).trans_le (by simp)), value_bits, UInt32.toNat_or,
    UInt32.toNat_or, UInt32.toNat_or, hshift b₀ 24 (by decide), hshift b₁ 16 (by decide),
    hshift b₂ 8 (by decide), UInt8.toNat_toUInt32, Nat.or_assoc]
  simp only [UInt32.reduceToNat, foldl_cons, foldl_nil]
  rw [← Nat.two_pow_add_eq_or_of_lt (i := 8) (by omega),
    ← Nat.two_pow_add_eq_or_of_lt (i := 16) (by omega),
    ← Nat.two_pow_add_eq_or_of_lt (i := 24) (by omega)]
  omega

lemma readBe32_eq {s : Bytes} {pos : ℕ} (h : pos + 4 ≤ s.length) :
    readBe32 s pos = some (UInt32.ofNat (value (((bits s).drop (8 * pos)).take 32))) := by
  obtain ⟨p, m, r, rfl, rfl, hm⟩ := Buffer.exists_run h
  obtain ⟨b₀, b₁, b₂, b₃, rfl⟩ : ∃ b₀ b₁ b₂ b₃, m = [b₀, b₁, b₂, b₃] :=
    match m, hm with
    | [b₀, b₁, b₂, b₃], _ => ⟨b₀, b₁, b₂, b₃, rfl⟩
  have hwindow : ((bits (p ++ ([b₀, b₁, b₂, b₃] ++ r))).drop (8 * p.length)).take 32 =
      bits [b₀, b₁, b₂, b₃] := by
    rw [drop_bits, drop_left, show 32 = 8 * 4 from rfl, take_bits]
    rfl
  rw [hwindow, ← or_eq]
  simp [readBe32]

lemma expand_eq {padded : Bytes} {i : ℕ} (h : 64 * i + 64 ≤ padded.length) :
    expand padded (i * 64) =
      some ((List.range 80).map (Fips180.schedule (Fips180.word (bits padded) i))) := by
  set m := Fips180.word (bits padded) i
  have hfirst : (List.range 16).foldlM
      (fun w t => (readBe32 padded (i * 64 + t * 4)).bind (Buffer.set w (0 + t)))
      (List.replicate 80 0) = Buffer.write (List.replicate 80 0) 0 ((List.range 16).map m) := by
    refine Buffer.foldlM_set (Nat.zero_le _) fun t ht w _ => ?_
    rw [readBe32_eq (by omega), show 8 * (i * 64 + t * 4) = 512 * i + 32 * t by ring]
    rfl
  have hsixteen : (List.range 16).map m = (List.range 16).map (Fips180.schedule m) :=
    map_congr_left fun t ht => (Fips180.schedule_of_lt m (mem_range.mp ht)).symm
  have hstart := Buffer.write_run (p := []) (m := List.replicate 16 (0 : UInt32))
    (s := (List.range 16).map (Fips180.schedule m)) (r := List.replicate 64 0) (by simp)
  have hrest : (List.range 64).foldlM
      (fun w j => (nextWord w (16 + j)).bind (Buffer.set w (16 + j)))
      ((List.range 16).map (Fips180.schedule m) ++ List.replicate 64 0) =
        Buffer.write _ 16 ((List.range 64).map (Fips180.schedule m ∘ (16 + ·))) :=
    Buffer.foldlM_set (f := fun w j => nextWord w (16 + j)) (by simp) fun j hj w hw => by
      have hpre := Buffer.prefix_of_write (p := (List.range 16).map (Fips180.schedule m))
        (prefix_append _ _) (by simpa using hw)
      rw [← map_map, ← map_append, ← range_add] at hpre
      have hget : ∀ t < 16 + j, w[t]? = some (Fips180.schedule m t) := fun t ht => by
        obtain ⟨rest, rfl⟩ := hpre
        rw [List.getElem?_append_left (by simpa using ht)]
        simp [ht]
      rw [nextWord, hget _ (by omega), hget _ (by omega), hget _ (by omega), hget _ (by omega),
        Function.comp_apply, Fips180.schedule_of_le m (t := 16 + j) (by omega),
        UInt32.xor_assoc (_ ^^^ _)]
      rfl
  have hend := Buffer.write_run (p := (List.range 16).map (Fips180.schedule m))
    (m := List.replicate 64 0) (r := [])
    (s := (List.range 64).map (Fips180.schedule m ∘ (16 + ·))) (by simp)
  simp only [Nat.zero_add] at hfirst
  rw [nil_append, nil_append, length_nil, ← replicate_add] at hstart
  rw [append_nil, append_nil, length_map, length_range] at hend
  rw [← map_map, ← map_append, ← range_add] at hend
  simp only [expand, Option.bind_eq_bind, List.range'_eq_map_range, foldlM_map, hfirst,
    hsixteen]
  rw [hstart, Option.bind_some, hrest, ← map_map, hend]

/-! ## Rounds -/

lemma or_ch (x y z : UInt32) : (x &&& y) ||| (~~~x &&& z) = Fips180.ch x y z := by
  refine UInt32.toBitVec_inj.mp (BitVec.eq_of_getLsbD_eq fun i hi => ?_)
  simp only [Fips180.ch, UInt32.toBitVec_or, UInt32.toBitVec_and, UInt32.toBitVec_not,
    UInt32.toBitVec_xor, BitVec.getLsbD_or, BitVec.getLsbD_and, BitVec.getLsbD_not,
    BitVec.getLsbD_xor]
  cases x.toBitVec.getLsbD i <;> simp

lemma or_maj (x y z : UInt32) : ((x &&& y) ||| (x &&& z)) ||| (y &&& z) = Fips180.maj x y z := by
  refine UInt32.toBitVec_inj.mp (BitVec.eq_of_getLsbD_eq fun i hi => ?_)
  simp only [Fips180.maj, UInt32.toBitVec_or, UInt32.toBitVec_and, UInt32.toBitVec_xor,
    BitVec.getLsbD_or, BitVec.getLsbD_and, BitVec.getLsbD_xor]
  cases x.toBitVec.getLsbD i <;> cases y.toBitVec.getLsbD i <;> simp

lemma turn_eq (w : ℕ → UInt32) (v : Fips180.Words) {t : ℕ} (ht : t < 80) :
    turn ((List.range 80).map w) v t = some (Fips180.round w v t) := by
  obtain ⟨a, b, c, d, e⟩ := v
  have hget : ((List.range 80).map w)[t]? = some (w t) := by simp [ht]
  have hsum : ∀ x y z u v : UInt32, x + y + (z + u) + v = x + y + z + u + v := fun x y z u v => by
    rw [UInt32.add_assoc (x + y) z u]
  have hparity : ∀ x y z : UInt32, x ^^^ (y ^^^ z) = Fips180.parity x y z := fun x y z =>
    (UInt32.xor_assoc x y z).symm
  simp only [turn, hget, hsum, or_ch, or_maj, hparity, Fips180.round, Fips180.f, Fips180.k]
  split_ifs <;> rfl

lemma foldlM_eq_some {α β : Type} {f : β → α → Option β} {g : β → α → β} {l : List α}
    (h : ∀ a ∈ l, ∀ b, f b a = some (g b a)) (b : β) : l.foldlM f b = some (l.foldl g b) := by
  induction l generalizing b with
  | nil => rfl
  | cons a l ih =>
    rw [foldlM_cons, h a (by simp)]
    exact ih (fun a ha => h a (by simp [ha])) (g b a)

lemma processBlock_eq (padded : Bytes) {i : ℕ} (h : 64 * i + 64 ≤ padded.length)
    (v : Fips180.Words) :
    processBlock padded (i * 64) v = some (Fips180.compress (Fips180.word (bits padded) i) v) := by
  obtain ⟨h₀, h₁, h₂, h₃, h₄⟩ := v
  have hrounds := foldlM_eq_some (fun t ht v => turn_eq
    (Fips180.schedule (Fips180.word (bits padded) i)) v (mem_range.mp ht)) (h₀, h₁, h₂, h₃, h₄)
  rw [processBlock, expand_eq h, Option.bind_eq_bind, Option.bind_some, hrounds,
    Option.bind_eq_bind, Option.bind_some, Fips180.compress]
  generalize (List.range 80).foldl _ _ = v
  obtain ⟨a, b, c, d, e⟩ := v
  simp only [UInt32.add_comm]

/-! ## The digest -/

lemma charOfByte_eq (x : UInt32) : charOfByte (x &&& 0xff).toNat = x.toUInt8 := by
  refine UInt8.toNat_inj.mp ?_
  have hmask : (x &&& 0xff).toNat = x.toNat % 2 ^ 8 :=
    (UInt32.toNat_and x 0xff).trans (Nat.and_two_pow_sub_one_eq_mod x.toNat 8)
  rw [toNat_charOfByte, hmask, Nat.mod_mod, UInt32.toNat_toUInt8]

lemma writeBe32_eq (buf : Bytes) (pos : ℕ) (x : UInt32) :
    writeBe32 buf pos x = Buffer.write buf pos (Fips180.octets x) := by
  have hzero : x >>> 0 = x := by simp
  simp only [writeBe32, charOfByte_eq, hzero, Option.bind_eq_bind, Buffer.set_four]
  rfl

lemma digestString_eq (rt : Runtime) (s : Bytes) :
    digestString rt s = if (padded s).length ≤ rt.maxStringLength then
      some (Fips180.digest (bits s)) else none := by
  rw [digestString, padMessage_eq]
  split_ifs with hfits
  · have hlen := length_padded s
    have hmod := length_padded_mod s
    have hbits := bits_padded (show s.length < 2 ^ 57 by have := rt.lt; omega)
    have hblocks := foldlM_eq_some (l := List.range ((padded s).length / 64))
      (fun i hi v => processBlock_eq (padded s) (i := i)
        (by have := mem_range.mp hi; omega) v) Fips180.initial
    have hcount : (padded s).length / 64 = (Fips180.pad (bits s)).length / 512 := by
      rw [length_pad]
      omega
    rw [hbits, hcount] at hblocks
    rw [Option.bind_eq_bind, Option.bind_some, hcount, ← Fips180.initial, hblocks,
      Option.bind_eq_bind, Option.bind_some, Runtime.create, if_pos (by omega), Fips180.digest]
    generalize (List.range _).foldl _ _ = h
    obtain ⟨h₀, h₁, h₂, h₃, h₄⟩ := h
    -- The five words are one run, as each stands behind the one before it.
    have hbehind : ∀ (x : UInt32) (pos : ℕ) (t out : Bytes),
        ((Buffer.write out pos (Fips180.octets x)).bind fun out => Buffer.write out (pos + 4) t) =
          Buffer.write out pos (Fips180.octets x ++ t) := fun x pos t out => Buffer.write_append
    simp only [Option.bind_some, writeBe32_eq, hbehind h₃ 12, hbehind h₂ 8, hbehind h₁ 4,
      hbehind h₀ 0]
    exact Buffer.write_all (rt.alloc 20).2
  · rfl

end Sha1

/-! ## Base64 -/

namespace Base64

open Bits

lemma alphabet_eq {d : ℕ} (h : d < 64) : alphabet[d]? = some (Rfc4648.alphabet.getD d 0) := by
  have halphabet : alphabet = Rfc4648.alphabet := by decide
  have hlength : d < Rfc4648.alphabet.length := h
  simp [halphabet, hlength, List.getD]

lemma shiftRight_two (b : ℕ) : b >>> 2 = b / 4 := Nat.shiftRight_eq_div_pow b 2

lemma or_four (a : ℕ) {b : ℕ} (hb : b < 256) :
    ((a &&& 0x03) <<< 4) ||| (b >>> 4) = a % 4 * 16 + b / 16 := by
  rw [Nat.and_two_pow_sub_one_eq_mod a 2, Nat.shiftRight_eq_div_pow,
    ← Nat.shiftLeft_add_eq_or_of_lt (by omega), Nat.shiftLeft_eq]

lemma or_two (a : ℕ) {b : ℕ} (hb : b < 256) :
    ((a &&& 0x0f) <<< 2) ||| (b >>> 6) = a % 16 * 4 + b / 64 := by
  rw [Nat.and_two_pow_sub_one_eq_mod a 4, Nat.shiftRight_eq_div_pow,
    ← Nat.shiftLeft_add_eq_or_of_lt (by omega), Nat.shiftLeft_eq]

lemma groups_remainder (rest pre out : Bytes) {o : ℕ} (ho : o ≤ out.length) :
    ((groups (pre ++ rest) out pre.length o).bind fun x =>
      remainder (pre ++ rest) x.1 x.2.1 x.2.2) = Buffer.write out o (Rfc4648.encode rest) := by
  match rest with
  | [] =>
    have hleft : (pre ++ []).length - pre.length = 0 := by simp
    rw [groups, if_neg (by simp), Option.bind_some, remainder, hleft]
    simp [Rfc4648.encode, Rfc4648.groups, Buffer.write, ho, bits]
  | [b₀] =>
    have h₀ := b₀.toNat_lt
    have hleft : (pre ++ [b₀]).length - pre.length = 1 := by simp
    have hshift : (b₀.toNat &&& 0x03) <<< 4 = b₀.toNat % 4 * 16 := by
      rw [Nat.and_two_pow_sub_one_eq_mod b₀.toNat 2, Nat.shiftLeft_eq]
    have hget : (pre ++ [b₀])[pre.length]? = some b₀ := by simp
    rw [groups, if_neg (by simp), Option.bind_some, remainder, hleft]
    simp only [hget, Option.bind_eq_bind, Option.bind_some, shiftRight_two, hshift,
      alphabet_eq (show b₀.toNat / 4 < 64 by omega),
      alphabet_eq (show b₀.toNat % 4 * 16 < 64 by omega), Buffer.set_four]
    simp [Rfc4648.encode, Rfc4648.groups_one]
  | [b₀, b₁] =>
    have h₀ := b₀.toNat_lt
    have h₁ := b₁.toNat_lt
    have hleft : (pre ++ [b₀, b₁]).length - pre.length = 2 := by simp
    have hshift : (b₁.toNat &&& 0x0f) <<< 2 = b₁.toNat % 16 * 4 := by
      rw [Nat.and_two_pow_sub_one_eq_mod b₁.toNat 4, Nat.shiftLeft_eq]
    have hget : (pre ++ [b₀, b₁])[pre.length]? = some b₀ := by simp
    have hget' : (pre ++ [b₀, b₁])[pre.length + 1]? = some b₁ := by simp
    rw [groups, if_neg (by simp), Option.bind_some, remainder, hleft]
    simp only [hget, hget', Option.bind_eq_bind, Option.bind_some, shiftRight_two, hshift,
      or_four b₀.toNat h₁, alphabet_eq (show b₀.toNat / 4 < 64 by omega),
      alphabet_eq (show b₀.toNat % 4 * 16 + b₁.toNat / 16 < 64 by omega),
      alphabet_eq (show b₁.toNat % 16 * 4 < 64 by omega), Buffer.set_four]
    simp [Rfc4648.encode, Rfc4648.groups_two]
  | b₀ :: b₁ :: b₂ :: rest =>
    have h₀ := b₀.toNat_lt
    have h₁ := b₁.toNat_lt
    have h₂ := b₂.toNat_lt
    have hmask : b₂.toNat &&& 0x3f = b₂.toNat % 64 := Nat.and_two_pow_sub_one_eq_mod b₂.toNat 6
    have hget : (pre ++ b₀ :: b₁ :: b₂ :: rest)[pre.length]? = some b₀ := by simp
    have hget' : (pre ++ b₀ :: b₁ :: b₂ :: rest)[pre.length + 1]? = some b₁ := by simp
    have hget'' : (pre ++ b₀ :: b₁ :: b₂ :: rest)[pre.length + 2]? = some b₂ := by simp
    rw [groups, if_pos (by simp), Rfc4648.encode_three, Rfc4648.groups_three]
    simp only [hget, hget', hget'', Option.bind_eq_bind, Option.bind_some, shiftRight_two, hmask,
      or_four b₀.toNat h₁, or_two b₁.toNat h₂, alphabet_eq (show b₀.toNat / 4 < 64 by omega),
      alphabet_eq (show b₀.toNat % 4 * 16 + b₁.toNat / 16 < 64 by omega),
      alphabet_eq (show b₁.toNat % 16 * 4 + b₂.toNat / 64 < 64 by omega),
      alphabet_eq (show b₂.toNat % 64 < 64 by omega), Buffer.set_four_bind, Option.bind_assoc]
    rw [← Buffer.write_append]
    simp only [map_cons, map_nil, length_cons, length_nil]
    refine Option.bind_congr fun out' hout' => ?_
    have ho' : o + 4 ≤ out'.length := by
      rw [Buffer.length_of_write hout']
      exact Buffer.isSome_write.mp (Option.isSome_of_eq_some hout')
    have hnext := groups_remainder rest (pre ++ [b₀, b₁, b₂]) out' ho'
    rwa [append_assoc, length_append] at hnext

lemma encode_eq (rt : Runtime) (s : Bytes) :
    encode rt s = if (s.length + 2) / 3 * 4 ≤ rt.maxStringLength then some (Rfc4648.encode s)
      else none := by
  rw [encode, Runtime.create]
  split_ifs with hfits
  · have hall := groups_remainder s [] (rt.alloc ((s.length + 2) / 3 * 4)).1 (Nat.zero_le _)
    rw [Buffer.write_all ((rt.alloc _).2.trans (Rfc4648.length_encode s).symm)] at hall
    exact hall
  · rfl

end Base64

/-! ## The handshake -/

theorem accept_key_standard (rt : Runtime) (key : Bytes) :
    let message := Bits.bits (key ++ bytes "258EAFA5-E914-47DA-95CA-C5AB0DC85B11")
    acceptKey rt key =
      if (Fips180.pad message).length ≤ 8 * rt.maxStringLength then
        some (Rfc4648.encode (Fips180.digest message))
      else none := by
  intro message
  have hlen := Sha1.length_padded (key ++ websocketGuid)
  have hmod := Sha1.length_padded_mod (key ++ websocketGuid)
  have hpad : (Fips180.pad message).length = 8 * (Sha1.padded (key ++ websocketGuid)).length :=
    Sha1.length_pad _
  rw [acceptKey, Runtime.concat, hpad]
  by_cases hfits : (Sha1.padded (key ++ websocketGuid)).length ≤ rt.maxStringLength
  · rw [if_pos (by omega), if_pos (by omega), Option.bind_eq_bind, Option.bind_some,
      Sha1.digestString_eq, if_pos hfits, Option.bind_some, Base64.encode_eq,
      Fips180.length_digest, if_pos (by omega)]
    rfl
  · rw [if_neg (show ¬ 8 * _ ≤ _ by omega)]
    split_ifs
    · rw [Option.bind_eq_bind, Option.bind_some, Sha1.digestString_eq, if_neg hfits]
      rfl
    · rfl

lemma maxStringLength_lt : 2 ^ 57 - 9 < 2 ^ 57 := by norm_num

def runtime64 : Runtime := ⟨2 ^ 57 - 9, maxStringLength_lt, fun n => ⟨.replicate n 0, length_replicate⟩⟩

theorem accept_key_standard_sampleNonce :
    let key := bytes "dGhlIHNhbXBsZSBub25jZQ=="
    let message := Bits.bits (key ++ bytes "258EAFA5-E914-47DA-95CA-C5AB0DC85B11")
    acceptKey runtime64 key = some (Rfc4648.encode (Fips180.digest message)) ∧
      acceptKey runtime64 key = some (bytes "s3pPLMBiTxaQ9kYGzzhZRbK+xOo=") := by
  intro key message
  have hfits : (Fips180.pad message).length ≤ 8 * runtime64.maxStringLength := by decide +kernel
  exact ⟨(accept_key_standard runtime64 key).trans (if_pos hfits), by decide +kernel⟩

end SttBench.OxcamlEpoll
