import Mathlib.Data.Int.Log
import Mathlib.Data.Rat.Floor
import Mathlib.Tactic.Positivity

/-!
# Doubles

The double of a rational is the nearest one, the even one of two.
-/

namespace SttBench

def roundEven (x : ℚ) : ℤ :=
  if x - ⌊x⌋ < 1 / 2 then ⌊x⌋
  else if 1 / 2 < x - ⌊x⌋ then ⌊x⌋ + 1
  else ⌊x⌋ + ⌊x⌋ % 2

theorem abs_roundEven_sub_le (x : ℚ) : |(roundEven x : ℚ) - x| ≤ 1 / 2 := by
  have hlo := Int.floor_le x
  have hhi := Int.lt_floor_add_one x
  have hparity : (0 : ℚ) ≤ (⌊x⌋ % 2 : ℤ) ∧ ((⌊x⌋ % 2 : ℤ) : ℚ) ≤ 1 := by
    constructor
    · exact_mod_cast Int.emod_nonneg ⌊x⌋ (by norm_num)
    · exact_mod_cast (show ⌊x⌋ % 2 ≤ 1 by omega)
  unfold roundEven
  split_ifs <;> push_cast <;> rw [abs_le] <;> constructor <;> linarith [hparity.1, hparity.2]

lemma roundEven_le {x : ℚ} {n : ℤ} (h : x ≤ n) : roundEven x ≤ n := by
  have hfloor : ⌊x⌋ ≤ n := Int.floor_le_iff.mpr (h.trans_lt (lt_add_one _))
  rcases hfloor.lt_or_eq with hlt | heq
  · unfold roundEven
    split_ifs <;> omega
  · rw [roundEven, if_pos]
    · exact hfloor
    · rw [heq]
      linarith

lemma le_roundEven {x : ℚ} {n : ℤ} (h : n ≤ x) : n ≤ roundEven x := by
  have hfloor : n ≤ ⌊x⌋ := Int.le_floor.mpr h
  unfold roundEven
  split_ifs <;> omega

inductive Double
  | finite (q : ℚ)
  | inf (negative : Bool)
  | nan
deriving DecidableEq

namespace Double

def lt : Double → Double → Bool
  | .finite a, .finite b => a < b
  | .finite _, .inf negative => !negative
  | .inf negative, .finite _ => negative
  | .inf a, .inf b => a && !b
  | _, _ => false

def eq : Double → Double → Bool
  | .finite a, .finite b => a = b
  | .inf a, .inf b => a == b
  | _, _ => false

@[simp] lemma lt_finite (a b : ℚ) : lt (.finite a) (.finite b) = decide (a < b) := rfl

@[simp] lemma eq_finite (a b : ℚ) : eq (.finite a) (.finite b) = decide (a = b) := rfl

variable (fl : ℚ → Double)

def add : Double → Double → Double
  | .finite a, .finite b => fl (a + b)
  | .finite _, .inf negative => .inf negative
  | .inf negative, .finite _ => .inf negative
  | .inf a, .inf b => if a = b then .inf a else .nan
  | _, _ => .nan

def mul : Double → Double → Double
  | .finite a, .finite b => fl (a * b)
  | .finite a, .inf negative => if a = 0 then .nan else .inf (negative != (a < 0))
  | .inf negative, .finite a => if a = 0 then .nan else .inf (negative != (a < 0))
  | .inf a, .inf b => .inf (a != b)
  | _, _ => .nan

def div : Double → Double → Double
  | .finite a, .finite b => fl (a / b)
  | .finite _, .inf _ => .finite 0
  | .inf negative, .finite a => .inf (negative != (a < 0))
  | _, _ => .nan

def le (x y : Double) : Bool := x.lt y || x.eq y

def max (x y : Double) : Double := if x.lt y then y else x

def ceil : Double → Double
  | .finite a => .finite ⌈a⌉
  | x => x

end Double

namespace Binary64

def ulp (x : ℚ) : ℚ := 2 ^ (max (Int.log 2 |x|) (-1022) - 52)

def roundFinite (x : ℚ) : ℚ := roundEven (x / ulp x) * ulp x

def nearest (x : ℚ) : Double :=
  if |roundFinite x| < 2 ^ 1024 then .finite (roundFinite x) else .inf (x < 0)

/-- The literal `0.1`. -/
example : nearest (1 / 10) = .finite (3602879701896397 / 36028797018963968) := by decide +kernel

lemma ulp_pos (x : ℚ) : 0 < ulp x := zpow_pos two_pos _

theorem abs_roundFinite_sub_le_ulp (x : ℚ) : |roundFinite x - x| ≤ ulp x / 2 := by
  have hulp := ulp_pos x
  have hround := abs_roundEven_sub_le (x / ulp x)
  have hscale : roundFinite x - x = (roundEven (x / ulp x) - x / ulp x) * ulp x := by
    rw [roundFinite, sub_mul, div_mul_cancel₀ _ hulp.ne']
  rw [hscale, abs_mul, abs_of_pos hulp]
  linarith [mul_le_mul_of_nonneg_right hround hulp.le]

lemma eq_roundFinite {x y : ℚ} (h : nearest x = .finite y) : y = roundFinite x := by
  unfold nearest at h
  split_ifs at h
  exact (Double.finite.inj h).symm

variable {x : ℚ}

lemma roundFinite_le (n : ℤ) (h : x ≤ n * ulp x) : roundFinite x ≤ n * ulp x := by
  refine mul_le_mul_of_nonneg_right ?_ (ulp_pos x).le
  exact_mod_cast roundEven_le ((div_le_iff₀ (ulp_pos x)).mpr h)

lemma le_roundFinite (n : ℤ) (h : n * ulp x ≤ x) : n * ulp x ≤ roundFinite x := by
  refine mul_le_mul_of_nonneg_right ?_ (ulp_pos x).le
  exact_mod_cast le_roundEven ((le_div_iff₀ (ulp_pos x)).mpr h)

lemma roundFinite_nonneg (hx : 0 ≤ x) : 0 ≤ roundFinite x := by
  simpa using le_roundFinite 0 (by simpa using hx)

lemma log_nonneg (hx : 1 ≤ x) : 0 ≤ Int.log 2 x := by
  rw [← Int.zpow_le_iff_le_log one_lt_two (by linarith)]
  simpa using hx

lemma ulp_of_one_le (hx : 1 ≤ x) : ulp x = 2 ^ (Int.log 2 x - 52) := by
  have hlog := log_nonneg hx
  rw [ulp, abs_of_nonneg (by linarith), max_eq_left (by omega)]

lemma zpow_log_le_roundFinite (hx : 1 ≤ x) : 2 ^ Int.log 2 x ≤ roundFinite x := by
  have hplaces : (2 : ℚ) ^ Int.log 2 x = ((2 ^ 52 : ℤ) : ℚ) * ulp x := by
    rw [ulp_of_one_le hx, zpow_sub₀ two_ne_zero]
    field_simp
    norm_num
  have hpow : (2 : ℚ) ^ Int.log 2 x ≤ x := by
    exact_mod_cast Int.zpow_log_le_self one_lt_two (show 0 < x by linarith)
  rw [hplaces] at hpow ⊢
  exact le_roundFinite _ hpow

lemma one_le_roundFinite (hx : 1 ≤ x) : 1 ≤ roundFinite x :=
  (one_le_zpow₀ one_le_two (log_nonneg hx)).trans (zpow_log_le_roundFinite hx)

theorem lt_roundFinite_add {x d : ℚ} (hx : 0 ≤ x) (hd : 1 ≤ d) (hlt : x < 2 ^ 53 * d) :
    x < roundFinite (x + d) := by
  have hone : 1 ≤ x + d := by linarith
  by_cases hulp : ulp (x + d) / 2 < d
  · linarith [(abs_le.mp (abs_roundFinite_sub_le_ulp (x + d))).1]
  · -- the places are so coarse that `x` lies below the power of two at or below `x + d`
    have hpow := zpow_log_le_roundFinite hone
    rw [ulp_of_one_le hone, zpow_sub₀ two_ne_zero] at hulp
    norm_num at hulp
    linarith

lemma roundFinite_grid (hx : 1 ≤ x) : ∃ n : ℤ, roundFinite x * 2 ^ 52 = n := by
  obtain ⟨k, hk⟩ := Int.eq_ofNat_of_zero_le (log_nonneg hx)
  refine ⟨roundEven (x / ulp x) * 2 ^ k, ?_⟩
  rw [roundFinite, ulp_of_one_le hx, hk, zpow_sub₀ two_ne_zero, mul_assoc]
  push_cast
  field_simp
  norm_num
  ring

lemma roundFinite_le_natCast {n : ℕ} (hn : n < 2 ^ 53) (h : x ≤ n) : roundFinite x ≤ n := by
  rcases le_or_gt x 0 with hneg | hpos
  · have hzero := roundFinite_le 0 (show x ≤ (0 : ℤ) * ulp x by simpa using hneg)
    rw [Int.cast_zero, zero_mul] at hzero
    exact hzero.trans n.cast_nonneg
  · have hlog : Int.log 2 x < 53 := by
      rw [← Int.lt_zpow_iff_log_lt one_lt_two hpos]
      refine h.trans_lt ?_
      exact_mod_cast hn
    obtain ⟨k, hk⟩ := Int.eq_ofNat_of_zero_le
      (show 0 ≤ 52 - max (Int.log 2 x) (-1022) by omega)
    have hulp : ulp x = (2 ^ k)⁻¹ := by
      rw [ulp, abs_of_pos hpos, ← zpow_natCast, ← zpow_neg, ← hk, neg_sub]
    have hmul : ((n * 2 ^ k : ℤ) : ℚ) * ulp x = n := by
      rw [hulp]
      push_cast
      field_simp
    have hround := roundFinite_le (n * 2 ^ k) (hmul.symm ▸ h)
    rwa [hmul] at hround

lemma nonneg_of_div_nearest {x d y : ℚ} (hx : 0 ≤ x) (hd : 0 ≤ d)
    (h : (nearest x).div nearest (.finite d) = .finite y) : 0 ≤ y := by
  unfold Double.div at h
  split at h
  case h_1 a b ha hb =>
    obtain rfl := Double.finite.inj hb
    rw [eq_roundFinite h, eq_roundFinite ha]
    exact roundFinite_nonneg (div_nonneg (roundFinite_nonneg hx) hd)
  case h_2 hb => cases hb
  all_goals cases h

lemma ulp_le (hpos : 0 < x) (hlog : -1022 ≤ Int.log 2 x) : ulp x ≤ x / 2 ^ 52 := by
  have hle : (2 : ℚ) ^ Int.log 2 x ≤ x := by
    exact_mod_cast Int.zpow_log_le_self one_lt_two hpos
  rw [ulp, abs_of_pos hpos, max_eq_left hlog, zpow_sub₀ two_ne_zero]
  exact div_le_div_of_nonneg_right hle (by positivity)

theorem abs_roundFinite_sub_le (hlo : 1 / 2 ^ 100 ≤ x) :
    |roundFinite x - x| ≤ x / 2 ^ 53 := by
  have hpos : 0 < x := lt_of_lt_of_le (by positivity) hlo
  have hlog : -100 ≤ Int.log 2 x := by
    rw [← Int.zpow_le_iff_le_log one_lt_two hpos]
    simpa [zpow_neg] using hlo
  have hulp := ulp_le hpos (by omega)
  calc |roundFinite x - x| ≤ ulp x / 2 := abs_roundFinite_sub_le_ulp x
    _ ≤ x / 2 ^ 52 / 2 := by linarith
    _ = x / 2 ^ 53 := by ring

theorem nearest_eq_finite (hlo : 1 / 2 ^ 100 ≤ x) (hhi : x ≤ 2 ^ 100) :
    ∃ y, nearest x = .finite y ∧ |y - x| ≤ x / 2 ^ 53 := by
  have hpos : 0 < x := lt_of_lt_of_le (by positivity) hlo
  have herr := abs_roundFinite_sub_le hlo
  refine ⟨roundFinite x, if_pos ?_, herr⟩
  have hdiff := abs_le.mp herr
  have hsmall : x / 2 ^ 53 ≤ x := div_le_self hpos.le (by norm_num)
  rw [abs_of_nonneg (by linarith [hdiff.1])]
  calc roundFinite x ≤ 2 ^ 100 + 2 ^ 100 := by linarith [hdiff.2]
    _ = 2 ^ 101 := by norm_num
    _ < 2 ^ 1024 := pow_lt_pow_right₀ one_lt_two (by norm_num)

/-! ## Bits -/

def bits : Double → UInt64
  | .nan => 0x7FF8000000000000
  | .inf negative => if negative then 0xFFF0000000000000 else 0x7FF0000000000000
  | .finite q =>
    if q = 0 then 0
    else UInt64.ofNat ((if q < 0 then 2 ^ 63 else 0) +
      ((max (Int.log 2 |q|) (-1022) + 1022).toNat * 2 ^ 52 + ⌊|q| / ulp q⌋.toNat))

example : bits (nearest (-1 / 10)) = 0xBFB999999999999A := by decide +kernel

end Binary64

/-! ## Lower bounds

A computation that may overflow to infinity is bounded from below all the same. -/

namespace Double

open Binary64

def AtLeast (x : ℚ) : Double → Prop
  | .finite y => x ≤ y
  | .inf negative => negative = false
  | .nan => False

variable {x y : ℚ} {a b : Double}

lemma atLeast_nearest (hlo : 1 / 2 ^ 100 ≤ x) : AtLeast (999 / 1000 * x) (nearest x) := by
  have hpos : 0 < x := lt_of_lt_of_le (by positivity) hlo
  unfold nearest
  split_ifs
  · have hlower := (abs_le.mp (abs_roundFinite_sub_le hlo)).1
    have hsmall : x / 2 ^ 53 ≤ x / 1000 := div_le_div_of_nonneg_left hpos.le (by norm_num) (by norm_num)
    show 999 / 1000 * x ≤ roundFinite x
    linarith
  · exact decide_eq_false (not_lt.mpr hpos.le)

lemma AtLeast.mono (h : AtLeast y a) (hxy : x ≤ y) : AtLeast x a := by
  cases a with
  | finite c => exact hxy.trans h
  | inf negative | nan => exact h

lemma AtLeast.max (ha : AtLeast x a) (hb : AtLeast y b) : AtLeast (Max.max x y) (a.max b) := by
  cases a with
  | nan => exact ha.elim
  | inf negative =>
    obtain rfl : negative = false := ha
    cases b <;> rfl
  | finite c =>
    cases b with
    | nan => exact hb.elim
    | inf negative =>
      obtain rfl : negative = false := hb
      rfl
    | finite d =>
      unfold Double.max
      split_ifs with hlt
      · rw [lt_finite, decide_eq_true_eq] at hlt
        exact max_le (le_trans ha hlt.le) hb
      · rw [lt_finite, decide_eq_true_eq, not_lt] at hlt
        exact max_le ha (le_trans hb hlt)

lemma AtLeast.div (ha : AtLeast x a) (hy : 0 < y) (hlo : 1 / 2 ^ 100 ≤ x / y) :
    AtLeast (999 / 1000 * (x / y)) (a.div nearest (.finite y)) := by
  cases a with
  | nan => exact ha.elim
  | inf negative =>
    obtain rfl : negative = false := ha
    show (false != decide (y < 0)) = false
    simp [hy.le]
  | finite c =>
    have hquot : x / y ≤ c / y := div_le_div_of_nonneg_right ha hy.le
    exact (atLeast_nearest (hlo.trans hquot)).mono (by linarith)

lemma AtLeast.ceil (ha : AtLeast x a) : AtLeast x a.ceil := by
  cases a with
  | nan => exact ha.elim
  | inf negative => exact ha
  | finite c => exact le_trans ha (Int.le_ceil c)

lemma AtLeast.mul (ha : AtLeast x a) (hy : 0 < y) (hlo : 1 / 2 ^ 100 ≤ y * x) :
    AtLeast (999 / 1000 * (y * x)) ((Double.finite y).mul nearest a) := by
  cases a with
  | nan => exact ha.elim
  | inf negative =>
    obtain rfl : negative = false := ha
    show AtLeast _ (if y = 0 then _ else _)
    rw [if_neg hy.ne']
    show (false != decide (y < 0)) = false
    simp [hy.le]
  | finite c =>
    have hprod : y * x ≤ y * c := mul_le_mul_of_nonneg_left ha hy.le
    exact (atLeast_nearest (hlo.trans hprod)).mono (by linarith)

lemma AtLeast.le_of_le (ha : AtLeast x a) (h : a.le (.finite y) = true) : x ≤ y := by
  cases a with
  | nan => exact ha.elim
  | inf negative =>
    obtain rfl : negative = false := ha
    cases h
  | finite c =>
    have hc : c ≤ y := by
      simp only [Double.le, lt_finite, eq_finite, Bool.or_eq_true, decide_eq_true_eq] at h
      exact h.elim le_of_lt le_of_eq
    exact le_trans ha hc

end Double

end SttBench
