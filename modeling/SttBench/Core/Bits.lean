import SttBench.Core.Ascii

/-! # Bit strings, and base64 -/

namespace Bits

open Ascii List

def ofByte (b : UInt8) : List Bool := (List.range 8).map fun i => b.toNat.testBit (7 - i)

def bits (bs : Bytes) : List Bool := bs.flatMap ofByte

def value (xs : List Bool) : ℕ := xs.foldl (fun n x => 2 * n + x.toNat) 0

@[simp] lemma length_ofByte (b : UInt8) : (ofByte b).length = 8 := by simp [ofByte]

@[simp] lemma length_bits (bs : Bytes) : (bits bs).length = 8 * bs.length := by
  simp [bits, length_flatMap, Nat.mul_comm]

lemma bits_append (bs cs : Bytes) : bits (bs ++ cs) = bits bs ++ bits cs := flatMap_append

lemma drop_bits (bs : Bytes) (n : ℕ) : (bits bs).drop (8 * n) = bits (bs.drop n) := by
  induction n generalizing bs with
  | zero => rfl
  | succ n ih =>
    cases bs with
    | nil => simp [bits]
    | cons b bs =>
      rw [show 8 * (n + 1) = 8 + 8 * n by ring, ← drop_drop, drop_succ_cons, ← ih]
      rfl

lemma take_bits (bs : Bytes) (n : ℕ) : (bits bs).take (8 * n) = bits (bs.take n) := by
  induction n generalizing bs with
  | zero => rfl
  | succ n ih =>
    cases bs with
    | nil => simp [bits]
    | cons b bs =>
      have hcons : bits (b :: bs) = ofByte b ++ bits bs := rfl
      rw [hcons, take_append, length_ofByte, take_of_length_le (by simp),
        show 8 * (n + 1) - 8 = 8 * n by omega, ih, take_succ_cons]
      rfl

lemma value_append (xs ys : List Bool) :
    value (xs ++ ys) = value xs * 2 ^ ys.length + value ys := by
  have hfrom : ∀ (ys : List Bool) (n : ℕ),
      ys.foldl (fun n x => 2 * n + x.toNat) n = n * 2 ^ ys.length + value ys := by
    intro ys
    induction ys with
    | nil => simp [value]
    | cons y ys ih =>
      intro n
      rw [value, foldl_cons, foldl_cons, ih, ih (2 * 0 + y.toNat), length_cons]
      ring
  rw [value, foldl_append, hfrom]
  rfl

lemma value_lt (xs : List Bool) : value xs < 2 ^ xs.length := by
  induction xs using List.reverseRecOn with
  | nil => decide
  | append_singleton xs x ih =>
    have hx : value [x] < 2 := by cases x <;> decide
    rw [value_append, length_append, pow_add]
    simp only [length_singleton, pow_one]
    omega

lemma value_ofByte (b : UInt8) : value (ofByte b) = b.toNat := by
  have hall : ∀ n < 256, value ((List.range 8).map fun i => n.testBit (7 - i)) = n := by
    decide +kernel
  exact hall _ b.toNat_lt

lemma value_bits (bs : Bytes) : value (bits bs) = bs.foldl (fun n b => n * 256 + b.toNat) 0 := by
  induction bs using List.reverseRecOn with
  | nil => rfl
  | append_singleton bs b ih =>
    have hbits : bits [b] = ofByte b := append_nil _
    rw [bits_append, value_append, hbits, length_ofByte, value_ofByte, ih, foldl_append]
    rfl

lemma value_window (xs : List Bool) (start width : ℕ) :
    value ((xs.drop start).take width) =
      value xs % 2 ^ (xs.length - start) / 2 ^ (xs.length - start - width) := by
  have hdrop : value (xs.drop start) = value xs % 2 ^ (xs.length - start) := by
    have h := value_append (xs.take start) (xs.drop start)
    have hlt := value_lt (xs.drop start)
    rw [take_append_drop] at h
    rw [h, ← length_drop, Nat.mul_comm, Nat.mul_add_mod, Nat.mod_eq_of_lt hlt]
  have h := value_append ((xs.drop start).take width) ((xs.drop start).drop width)
  have hlt := value_lt ((xs.drop start).drop width)
  rw [take_append_drop, hdrop] at h
  rw [h, ← length_drop, ← length_drop, Nat.mul_comm, Nat.mul_add_div (by positivity),
    Nat.div_eq_of_lt hlt, Nat.add_zero]

end Bits

namespace Rfc4648

open Ascii Bits List

def alphabet : Bytes :=
  ((List.range 26).map (65 + ·) ++ (List.range 26).map (97 + ·) ++ (List.range 10).map (48 + ·) ++
    [43, 47]).map UInt8.ofNat

def groups (xs : List Bool) : List ℕ :=
  (List.range ((xs.length + 5) / 6)).map fun i =>
    value (((xs ++ List.replicate 5 false).drop (6 * i)).take 6)

def encode (data : Bytes) : Bytes :=
  let digits := (groups (bits data)).map fun d => alphabet.getD d 0
  digits ++ List.replicate ((4 - digits.length % 4) % 4) 61

lemma groups_append {xs : List Bool} {k : ℕ} (h : xs.length = 6 * k) (ys : List Bool) :
    groups (xs ++ ys) = groups xs ++ groups ys := by
  have hcount : ((xs ++ ys).length + 5) / 6 = k + (ys.length + 5) / 6 := by
    rw [length_append]
    omega
  have hcount' : (xs.length + 5) / 6 = k := by omega
  rw [groups, groups, groups, hcount, hcount', range_add, map_append, map_map]
  congr 1
  · refine map_congr_left fun i hi => ?_
    have hi := mem_range.mp hi
    rw [append_assoc, drop_append_of_le_length (by omega),
      drop_append_of_le_length (by omega),
      take_append_of_le_length (by rw [length_drop]; omega),
      take_append_of_le_length (by rw [length_drop]; omega)]
  · refine map_congr_left fun i _ => ?_
    rw [Function.comp_apply, append_assoc, show 6 * (k + i) = xs.length + 6 * i by omega,
      ← drop_drop, drop_left]

private lemma groups_eq (bs : Bytes) :
    groups (bits bs) = (List.range ((8 * bs.length + 5) / 6)).map fun i =>
      bs.foldl (fun n b => n * 256 + b.toNat) 0 * 32 % 2 ^ (8 * bs.length + 5 - 6 * i) /
        2 ^ (8 * bs.length + 5 - 6 * i - 6) := by
  have hzeros : value (bits bs ++ List.replicate 5 false) = value (bits bs) * 32 :=
    value_append _ _
  rw [groups, length_bits]
  refine map_congr_left fun i _ => ?_
  rw [value_window, hzeros, value_bits, length_append, length_bits, length_replicate]

lemma groups_three (b₀ b₁ b₂ : UInt8) : groups (bits [b₀, b₁, b₂]) =
    [b₀.toNat / 4, b₀.toNat % 4 * 16 + b₁.toNat / 16, b₁.toNat % 16 * 4 + b₂.toNat / 64,
      b₂.toNat % 64] := by
  have h₀ := b₀.toNat_lt
  have h₁ := b₁.toNat_lt
  have h₂ := b₂.toNat_lt
  rw [groups_eq]
  simp only [length_cons, length_nil, foldl_cons, foldl_nil, range_succ,
    range_zero, map_cons, map_nil, nil_append, cons_append,
    List.cons.injEq, and_true]
  omega

lemma groups_two (b₀ b₁ : UInt8) : groups (bits [b₀, b₁]) =
    [b₀.toNat / 4, b₀.toNat % 4 * 16 + b₁.toNat / 16, b₁.toNat % 16 * 4] := by
  have h₀ := b₀.toNat_lt
  have h₁ := b₁.toNat_lt
  rw [groups_eq]
  simp only [length_cons, length_nil, foldl_cons, foldl_nil, range_succ,
    range_zero, map_cons, map_nil, nil_append, cons_append,
    List.cons.injEq, and_true]
  omega

lemma groups_one (b : UInt8) : groups (bits [b]) = [b.toNat / 4, b.toNat % 4 * 16] := by
  have h := b.toNat_lt
  rw [groups_eq]
  simp only [length_cons, length_nil, foldl_cons, foldl_nil, range_succ,
    range_zero, map_cons, map_nil, nil_append, cons_append,
    List.cons.injEq, and_true]
  omega

lemma encode_three (b₀ b₁ b₂ : UInt8) (rest : Bytes) :
    encode (b₀ :: b₁ :: b₂ :: rest) =
      (groups (bits [b₀, b₁, b₂])).map (fun d => alphabet.getD d 0) ++ encode rest := by
  have hgroups : groups (bits (b₀ :: b₁ :: b₂ :: rest)) =
      groups (bits [b₀, b₁, b₂]) ++ groups (bits rest) := by
    rw [← groups_append (k := 4) (length_bits _), ← bits_append]
    rfl
  have hmod : ∀ n, (4 + n) % 4 = n % 4 := fun n => Nat.add_mod_left 4 n
  simp only [encode, hgroups, map_append, length_append, append_assoc]
  simp only [groups_three, map_cons, map_nil, length_cons, length_nil]
  rw [hmod]

lemma length_encode (data : Bytes) : (encode data).length = (data.length + 2) / 3 * 4 := by
  simp only [encode, groups, length_append, length_map, length_range,
    length_replicate, length_bits]
  omega

end Rfc4648
