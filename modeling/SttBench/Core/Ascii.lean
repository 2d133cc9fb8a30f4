import Mathlib.Tactic

/-! # ASCII text in byte lists -/

namespace Ascii

abbrev Bytes := List UInt8

def bytes (s : String) : Bytes := s.toUTF8.data.toList

-- bytes are a finite type: a quantifier over a string is to run along it, not through all bytes
instance decidableForallMem (p : UInt8 → Prop) [DecidablePred p] (s : Bytes) :
    Decidable (∀ c ∈ s, p c) :=
  List.decidableBAll p s

lemma bytes_append (s t : String) : bytes (s ++ t) = bytes s ++ bytes t := by simp [bytes]

def digit (d : Fin 10) : UInt8 := 48 + UInt8.ofNat d

def isDigit (b : UInt8) : Bool := 48 ≤ b && b ≤ 57

def lower (b : UInt8) : UInt8 := if 65 ≤ b && b ≤ 90 then b + 32 else b

def isVisible (b : UInt8) : Bool := 33 ≤ b && b ≤ 126

def decimalFrom (acc : ℕ) (ds : Bytes) : ℕ := ds.foldl (fun n b => n * 10 + (b.toNat - 48)) acc

def decimal (ds : Bytes) : ℕ := decimalFrom 0 ds

@[simp] lemma decimalFrom_nil (acc : ℕ) : decimalFrom acc [] = acc := rfl

@[simp] lemma decimalFrom_cons (acc : ℕ) (b : UInt8) (ds : Bytes) :
    decimalFrom acc (b :: ds) = decimalFrom (acc * 10 + (b.toNat - 48)) ds := by
  simp only [decimalFrom, List.foldl_cons]

lemma le_decimalFrom : ∀ (ds : Bytes) (acc : ℕ), acc ≤ decimalFrom acc ds
  | [], acc => by simp
  | b :: ds, acc => by
    have := le_decimalFrom ds (acc * 10 + (b.toNat - 48))
    rw [decimalFrom_cons]
    omega

lemma isDigit_iff {b : UInt8} : isDigit b ↔ 48 ≤ b.toNat ∧ b.toNat ≤ 57 := by
  simp only [isDigit, Bool.and_eq_true, decide_eq_true_eq, UInt8.le_iff_toNat_le]
  exact Iff.rfl

lemma isVisible_iff {b : UInt8} : isVisible b ↔ 33 ≤ b.toNat ∧ b.toNat ≤ 126 := by
  simp only [isVisible, Bool.and_eq_true, decide_eq_true_eq, UInt8.le_iff_toNat_le]
  exact Iff.rfl

lemma isDigit.isVisible {b : UInt8} (h : isDigit b) : isVisible b := by
  rw [isDigit_iff] at h
  rw [isVisible_iff]
  omega

lemma digit_toNat (d : Fin 10) : (digit d).toNat = 48 + d := by
  have := d.isLt
  simp only [digit, UInt8.toNat_add, UInt8.toNat_ofNat']
  simp
  omega

lemma isDigit_digit (d : Fin 10) : isDigit (digit d) := by
  rw [isDigit_iff, digit_toNat]
  have := d.isLt
  omega

lemma digit_ne (d : Fin 10) {b : UInt8} (hb : isDigit b = false) : digit d ≠ b := by
  rintro rfl
  simp [isDigit_digit d] at hb

lemma span_iff {p : UInt8 → Bool} {b x rest : Bytes} :
    x = b.takeWhile p ∧ rest = b.dropWhile p ↔
      b = x ++ rest ∧ (∀ c ∈ x, p c) ∧ rest.head?.any p = false := by
  constructor
  · rintro ⟨rfl, rfl⟩
    refine ⟨List.takeWhile_append_dropWhile.symm, List.all_eq_true.mp List.all_takeWhile, ?_⟩
    cases htail : b.dropWhile p with
    | nil => rfl
    | cons c tail =>
      have hc := List.head?_dropWhile_not p b
      rw [htail] at hc
      simpa using hc
  · rintro ⟨rfl, hx, hrest⟩
    rw [List.takeWhile_append_of_pos hx, List.dropWhile_append_of_pos hx]
    cases rest with
    | nil => simp
    | cons c tail =>
      have hc : ¬p c = true := by simpa using hrest
      rw [List.takeWhile_cons_of_neg hc, List.dropWhile_cons_of_neg hc, List.append_nil]
      exact ⟨rfl, rfl⟩

end Ascii
