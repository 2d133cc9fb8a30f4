import SttBench.Bench.Point

/-!
# The search of a sweep

`Sweep.sweep`: a step is one iteration, with the outcome of the point it has measured.
-/

namespace SttBench.Bench.Sweep

open Python Function

def stepFor (n : ℕ) : ℕ := if n < 400 then 25 else if n < 2000 then 50 else 100

section

variable (fl : ℚ → Double)

def rnd (n : Number) (s : ℕ) : Except Exception ℕ := do
  let q ← n.truediv fl (.int s)
  let k ← q.round
  return (max (s : ℤ) (k * s)).toNat

def sanity (prior : ℕ) : Except Exception ℕ := do
  let quarter ← Number.mul fl (.int prior) (.float (fl (25 / 100)))
  return max 25 (← rnd fl quarter (stepFor prior))

def above (s n : ℕ) : Except Exception ℕ := do
  let more ← Number.mul fl (.int n) (.float (fl (11 / 10)))
  return max (← rnd fl more s) (n + s)

def below (s n : ℕ) : Except Exception ℕ := do
  let less ← Number.mul fl (.int n) (.float (fl (85 / 100)))
  return min (← rnd fl less s) (n - s)

def middle (lo hi : ℕ) : Except Exception ℕ := do
  let half := max 1 (stepFor lo / 2)
  rnd fl (← Number.truediv fl (.int (lo + hi)) (.int 2)) half

end

/-! ## The search -/

abbrev Runs := ℕ → List Outcome

def Runs.probe (runs : Runs) (n : ℕ) (r : Outcome) : Runs × Outcome :=
  match runs n with
  | [] => (update runs n [r], r)
  | first :: _ => (runs, first)

inductive Pc
  | Sanity
  | First (n : ℕ)
  | WalkUp (n : ℕ)
  | WalkDown (n : ℕ)
  | Bisect
  | Confirm (cand : ℕ)
  | Done (confirmed : Option ℕ)
  | Raised (e : Exception)
deriving DecidableEq

structure Search where
  pc : Pc
  lo : Option ℕ
  hi : Option ℕ
  runs : Runs

namespace Search

def start : Search := ⟨.Sanity, none, none, fun _ => []⟩

def toConfirm (s : Search) : Search :=
  match s.lo with
  | some cand => if 0 < cand then { s with pc := .Confirm cand } else { s with pc := .Done none }
  | none => { s with pc := .Done none }

def probed (s : Search) (n : ℕ) (r : Outcome) (pc : Pc) : Search :=
  let (runs, outcome) := s.runs.probe n r
  if outcome = .pass then { pc, lo := some n, hi := s.hi, runs }
  else { pc, lo := s.lo, hi := some n, runs }

def undecided (outcomes : List Outcome) : Bool :=
  outcomes.count .pass < 2 && .fail ∉ outcomes && .invalid ∉ outcomes

def confirm (s : Search) (cand : ℕ) (r : Outcome) : Search :=
  if undecided (s.runs cand) then
    { s with runs := update s.runs cand (s.runs cand ++ [r]) }
  else if (s.runs cand).all (· = .pass) then { s with pc := .Done (some cand) }
  else
    let next := cand - stepFor (cand - 1)
    if next = 0 then { s with pc := .Done none }
    else { s with pc := .Confirm next, runs := (s.runs.probe next r).1 }

variable (fl : ℚ → Double) (prior : ℕ)

def iterate (s : Search) (r : Outcome) : Except Exception Search :=
  match s.pc with
  | .Sanity => do
      let _ ← sanity fl prior
      return { s with pc := .First (← rnd fl (.int prior) (stepFor prior)) }
  | .First n =>
    let next := s.probed n r .Bisect
    .ok { next with pc := if next.lo.isSome then .WalkUp n else .WalkDown n }
  | .WalkUp n =>
    if s.hi.isNone && n ≤ prior * 3 then do
      let n ← above fl (stepFor prior) n
      return s.probed n r (.WalkUp n)
    else .ok { s with pc := .Bisect }
  | .WalkDown n =>
    if s.lo.isNone && stepFor prior < n then do
      let n ← below fl (stepFor prior) n
      return s.probed n r (.WalkDown n)
    else .ok { s with pc := .Bisect }
  | .Bisect =>
    match s.lo, s.hi with
    | some lo, some hi =>
      if stepFor lo < hi - lo then do
        let mid ← middle fl lo hi
        if mid = lo ∨ mid = hi then return s.toConfirm
        return s.probed mid r .Bisect
      else .ok s.toConfirm
    | _, _ => .ok s.toConfirm
  | .Confirm cand => .ok (s.confirm cand r)
  | .Done _ => .ok s
  | .Raised _ => .ok s

def step (s : Search) (r : Outcome) : Search :=
  match iterate fl prior s r with
  | .ok s' => s'
  | .error e => { s with pc := .Raised e }

def run (r : ℕ → Outcome) : ℕ → Search
  | 0 => start
  | k + 1 => step fl prior (run r k) (r k)

end Search

/-! ## Doubles of the size of a number of sessions -/

section

open Binary64

def divisors : List ℕ := [12, 25, 50, 100]

lemma nearest_divisor {s : ℕ} (hs : s ∈ divisors) : nearest (s : ℚ) = .finite s := by
  revert s
  decide +kernel

lemma divisor_bounds {s : ℕ} (hs : s ∈ divisors) : 12 ≤ s ∧ s ≤ 100 := by
  revert s
  decide

def Moderate (n : Number) (v : ℚ) : Prop := n.value = .finite v ∧ 1 / 16 ≤ v ∧ v ≤ 2 ^ 60

lemma truediv_spec {n : Number} {v : ℚ} (hn : Moderate n v) {s : ℕ} (hs : s ∈ divisors) :
    ∃ y, n.truediv nearest (.int s) = .ok (.float (.finite y)) ∧ |y - v / s| ≤ v / s / 2 ^ 53 := by
  obtain ⟨hvalue, hlo, hhi⟩ := hn
  have hs12 : (12 : ℚ) ≤ s := by exact_mod_cast (divisor_bounds hs).1
  have hs100 : (s : ℚ) ≤ 100 := by exact_mod_cast (divisor_bounds hs).2
  have hzero : Number.eq (.int s) (.int 0) = false := by
    have : (s : ℤ) ≠ 0 := by have := (divisor_bounds hs).1; omega
    simpa using this
  have hq : 1 / 2 ^ 100 ≤ v / s ∧ v / s ≤ 2 ^ 100 := by
    constructor
    · rw [le_div_iff₀ (by linarith)]
      linarith
    · rw [div_le_iff₀ (by linarith)]
      linarith
  obtain ⟨y, hy, herr⟩ := nearest_eq_finite hq.1 hq.2
  refine ⟨y, ?_, herr⟩
  match n, hvalue with
  | .int a, hvalue =>
    obtain rfl : (a : ℚ) = v := Double.finite.inj hvalue
    simp [Number.truediv, hzero, hy]
  | .float (.finite q), hvalue =>
    obtain rfl : q = v := Double.finite.inj hvalue
    simp [Number.truediv, hzero, Number.toFloat, nearest_divisor hs, Double.div, hy]

lemma rnd_spec {n : Number} {v : ℚ} (hn : Moderate n v) {s : ℕ} (hs : s ∈ divisors) :
    ∃ m, rnd nearest n s = .ok m ∧ s ≤ m ∧ v - s / 2 - v / 2 ^ 53 ≤ m ∧
      (m : ℚ) ≤ max (s : ℚ) (v + s / 2 + v / 2 ^ 53) := by
  obtain ⟨y, hy, herr⟩ := truediv_spec hn hs
  have hspos : (0 : ℚ) < s := by
    have : 0 < s := by have := (divisor_bounds hs).1; omega
    exact_mod_cast this
  have hround := abs_roundEven_sub_le y
  have hprod : |(roundEven y * s : ℚ) - v| ≤ s / 2 + v / 2 ^ 53 := by
    have hsplit : (roundEven y * s : ℚ) - v = (roundEven y - y) * s + (y - v / s) * s := by
      field_simp
      ring
    calc |(roundEven y * s : ℚ) - v| ≤ |(roundEven y - y) * s| + |(y - v / s) * s| := by
          rw [hsplit]; exact abs_add_le _ _
      _ = |roundEven y - y| * s + |y - v / s| * s := by
          rw [abs_mul, abs_mul, abs_of_pos hspos]
      _ ≤ 1 / 2 * s + v / s / 2 ^ 53 * s := by gcongr
      _ = s / 2 + v / 2 ^ 53 := by field_simp
  obtain ⟨hlo, hhi⟩ := abs_le.mp hprod
  refine ⟨(max (s : ℤ) (roundEven y * s)).toNat, ?_, ?_, ?_, ?_⟩
  · simp [rnd, hy, Number.round, pure, Except.pure]
  · omega
  all_goals
    have hcast : (((max (s : ℤ) (roundEven y * s)).toNat : ℕ) : ℚ) = max (s : ℚ) (roundEven y * s) := by
      have hint : (((max (s : ℤ) (roundEven y * s)).toNat : ℕ) : ℤ) = max (s : ℤ) (roundEven y * s) :=
        Int.toNat_of_nonneg (by omega)
      exact_mod_cast congrArg (Int.cast : ℤ → ℚ) hint
    rw [hcast]
  · exact le_max_of_le_right (by linarith)
  · exact max_le_max le_rfl (by linarith)

lemma mul_spec {n : ℕ} (hn : 1 ≤ n) (hn' : n ≤ 10 ^ 17) {d : ℚ} (hd : 1 / 4 ≤ d)
    (hd' : d ≤ 11 / 10) :
    ∃ x v, Number.mul nearest (.int n) (.float (nearest d)) = .ok x ∧ Moderate x v ∧
      v ≤ 111 / 100 * n := by
  have hn1 : (1 : ℚ) ≤ n := by exact_mod_cast hn
  have hn2 : (n : ℚ) ≤ 10 ^ 17 := by exact_mod_cast hn'
  obtain ⟨n', hnear, herr⟩ := nearest_eq_finite (x := n) (by linarith) (by linarith)
  obtain ⟨d', hdear, hderr⟩ := nearest_eq_finite (x := d) (by linarith) (by linarith)
  have hn'lo : (n : ℚ) * (9 / 10) ≤ n' := by linarith [(abs_le.mp herr).1]
  have hn'hi : n' ≤ (n : ℚ) * (1001 / 1000) := by linarith [(abs_le.mp herr).2]
  have hd'lo : 1 / 5 ≤ d' := by linarith [(abs_le.mp hderr).1]
  have hd'hi : d' ≤ 1101 / 1000 := by linarith [(abs_le.mp hderr).2]
  have hplo : 9 / 50 ≤ n' * d' := by nlinarith
  have hphi : n' * d' ≤ (n : ℚ) * (1001 / 1000 * (1101 / 1000)) := by nlinarith
  obtain ⟨v, hv, hverr⟩ := nearest_eq_finite (x := n' * d') (by linarith) (by linarith)
  refine ⟨.float (.finite v), v, ?_, ⟨rfl, ?_, ?_⟩, ?_⟩
  · simp [Number.mul, Number.toFloat, hnear, hdear, Double.mul, hv, pure, Except.pure]
  · linarith [(abs_le.mp hverr).1]
  · linarith [(abs_le.mp hverr).2]
  · linarith [(abs_le.mp hverr).2]

lemma above_spec {n s : ℕ} (hs : s ∈ divisors) (hn : 1 ≤ n) (hn' : n ≤ 9 * 10 ^ 16) :
    ∃ m, above nearest s n = .ok m ∧ n + s ≤ m ∧ m ≤ 10 ^ 17 := by
  obtain ⟨x, v, hx, hv, hvn⟩ := mul_spec (d := 11 / 10) hn (hn'.trans (by norm_num)) (by norm_num)
    (by norm_num)
  obtain ⟨m, hm, -, -, hhi⟩ := rnd_spec hv hs
  refine ⟨max m (n + s), by simp [above, hx, hm, pure, Except.pure], le_max_right _ _, ?_⟩
  have hs100 := (divisor_bounds hs).2
  refine max_le ?_ (by omega)
  have hs' : (s : ℚ) ≤ 100 := by exact_mod_cast hs100
  have hn1 : (1 : ℚ) ≤ n := by exact_mod_cast hn
  have hn2 : (n : ℚ) ≤ 9 * 10 ^ 16 := by exact_mod_cast hn'
  have hbound : (m : ℚ) ≤ 10 ^ 17 := hhi.trans (max_le (by linarith) (by linarith))
  exact_mod_cast hbound

lemma below_spec {n s : ℕ} (hs : s ∈ divisors) (hn : s < n) (hn' : n ≤ 10 ^ 17) :
    ∃ m, below nearest s n = .ok m ∧ 0 < m ∧ m + s ≤ n := by
  have hs12 := (divisor_bounds hs).1
  obtain ⟨x, v, hx, hv, -⟩ := mul_spec (d := 85 / 100) (by omega) hn' (by norm_num) (by norm_num)
  obtain ⟨m, hm, hsm, -, -⟩ := rnd_spec hv hs
  refine ⟨min m (n - s), by simp [below, hx, hm, pure, Except.pure], ?_, ?_⟩
  · exact lt_min (by omega) (by omega)
  · have := min_le_right m (n - s)
    omega

lemma stepFor_mem (n : ℕ) : stepFor n ∈ divisors := by
  unfold stepFor
  split_ifs <;> decide

lemma sanity_spec {prior : ℕ} (h1 : 1 ≤ prior) (h2 : prior ≤ 3 * 10 ^ 16) :
    ∃ m, sanity nearest prior = .ok m := by
  obtain ⟨x, v, hx, hv, -⟩ := mul_spec (d := 25 / 100) h1 (h2.trans (by norm_num)) (by norm_num)
    (by norm_num)
  obtain ⟨m, hm, -⟩ := rnd_spec hv (stepFor_mem prior)
  exact ⟨max 25 m, by simp [sanity, hx, hm, pure, Except.pure]⟩

lemma rnd_prior_spec {prior : ℕ} (h1 : 1 ≤ prior) (h2 : prior ≤ 3 * 10 ^ 16) :
    ∃ m, rnd nearest (.int prior) (stepFor prior) = .ok m ∧ 0 < m ∧ m ≤ prior + 100 := by
  have hp1 : (1 : ℚ) ≤ prior := by exact_mod_cast h1
  have hp2 : (prior : ℚ) ≤ 3 * 10 ^ 16 := by exact_mod_cast h2
  have hmod : Moderate (.int prior) prior := ⟨by simp [Number.value], by linarith, by linarith⟩
  have hs := stepFor_mem prior
  obtain ⟨m, hm, hsm, -, hhi⟩ := rnd_spec hmod hs
  have hs12 := (divisor_bounds hs).1
  refine ⟨m, hm, by omega, ?_⟩
  have hs' : (stepFor prior : ℚ) ≤ 100 := by exact_mod_cast (divisor_bounds hs).2
  have hbound : (m : ℚ) ≤ prior + 100 := hhi.trans (max_le (by linarith) (by linarith))
  exact_mod_cast hbound

lemma half_spec (n : ℕ) : max 1 (stepFor n / 2) ∈ divisors ∧ 2 * max 1 (stepFor n / 2) ≤ stepFor n := by
  unfold stepFor
  split_ifs <;> decide

lemma middle_spec {lo hi : ℕ} (hgap : stepFor lo < hi - lo) (hhi : hi ≤ 10 ^ 17) :
    ∃ mid, middle nearest lo hi = .ok mid ∧ lo < mid ∧ mid < hi := by
  obtain ⟨hhalf, hle⟩ := half_spec lo
  set half := max 1 (stepFor lo / 2) with hdef
  have hhalf12 : (12 : ℚ) ≤ half := by exact_mod_cast (divisor_bounds hhalf).1
  have hsum : (lo : ℚ) + 2 * half + 1 ≤ hi := by
    have : lo + 2 * half + 1 ≤ hi := by omega
    exact_mod_cast this
  have hlo0 : (0 : ℚ) ≤ lo := Nat.cast_nonneg lo
  have hhi' : (hi : ℚ) ≤ 10 ^ 17 := by exact_mod_cast hhi
  obtain ⟨v, hv, herr⟩ := nearest_eq_finite (x := ((lo : ℚ) + hi) / 2) (by linarith) (by linarith)
  have hverr := abs_le.mp herr
  have hdiv : Number.truediv nearest (.int (lo + hi)) (.int 2) = .ok (.float (.finite v)) := by
    simp [Number.truediv, hv]
  have hmod : Moderate (.float (.finite v)) v := ⟨rfl, by linarith [hverr.1], by linarith [hverr.2]⟩
  obtain ⟨mid, hmid, -, hlow, hhigh⟩ := rnd_spec hmod hhalf
  -- the steps from 2000 sessions on are wider than what the two roundings can add up to
  have hcase : (lo : ℚ) < 2000 ∨ (half : ℚ) = 50 := by
    by_cases hlo : lo < 2000
    · exact .inl (by exact_mod_cast hlo)
    · refine .inr ?_
      have : half = 50 := by simp [hdef, stepFor, hlo, show ¬lo < 400 by omega]
      rw [this]
      norm_num
  have hbetween : (lo : ℚ) < mid ∧ (mid : ℚ) < hi := by
    rcases hcase with hcase | hcase <;>
      exact ⟨by linarith [hverr.1, hverr.2],
        hhigh.trans_lt (max_lt (by linarith) (by linarith [hverr.1, hverr.2]))⟩
  exact ⟨mid, by simp [middle, hdiv, ← hdef, hmid], by exact_mod_cast hbetween⟩

end

/-! ## The bracket -/

section

variable {runs : Runs} {n : ℕ} {r : Outcome}

lemma probe_of_ne {m : ℕ} (hm : m ≠ n) : (runs.probe n r).1 m = runs m := by
  unfold Runs.probe
  split
  · exact update_of_ne hm _ _
  · rfl

lemma probe_self (honce : (runs n).length ≤ 1) :
    (runs.probe n r).1 n = [(runs.probe n r).2] := by
  unfold Runs.probe
  split
  case h_1 => exact update_self _ _ _
  case h_2 first rest hruns =>
    show runs n = [first]
    rw [hruns, List.length_cons] at honce
    rw [hruns, List.eq_nil_of_length_eq_zero (by omega : rest.length = 0)]

end

namespace Search

variable {prior : ℕ} {s : Search} {n : ℕ} {r : Outcome} {pc : Pc}

structure Bracket (s : Search) : Prop where
  once : ∀ n, (s.runs n).length ≤ 1
  lo : ∀ l, s.lo = some l → 0 < l ∧ s.runs l = [.pass]
  hi : ∀ h, s.hi = some h → h ≤ 10 ^ 17 ∧ s.runs h ≠ [] ∧ .pass ∉ s.runs h
  lt : ∀ l h, s.lo = some l → s.hi = some h → l < h
  passed : s.hi = none → ∀ n, ∀ o ∈ s.runs n, o = .pass

lemma probed_ends (s : Search) (n : ℕ) (r : Outcome) (pc : Pc) : (s.probed n r pc).pc = pc ∧
    ((s.probed n r pc).lo = some n ∧ (s.probed n r pc).hi = s.hi ∨
      (s.probed n r pc).lo = s.lo ∧ (s.probed n r pc).hi = some n) := by
  simp only [probed]
  split_ifs
  · exact ⟨rfl, .inl ⟨rfl, rfl⟩⟩
  · exact ⟨rfl, .inr ⟨rfl, rfl⟩⟩

lemma Bracket.probed (hs : s.Bracket) (hn : 0 < n) (hn' : n ≤ 10 ^ 17)
    (hlo : ∀ l, s.lo = some l → l < n) (hhi : ∀ h, s.hi = some h → n < h) :
    (s.probed n r pc).Bracket := by
  have hself : (s.runs.probe n r).1 n = [(s.runs.probe n r).2] := probe_self (hs.once n)
  have honce : ∀ m, ((s.runs.probe n r).1 m).length ≤ 1 := by
    intro m
    by_cases hm : m = n
    · rw [hm, hself, List.length_singleton]
    · rw [probe_of_ne hm]
      exact hs.once m
  have hkeepLo : ∀ l, s.lo = some l → 0 < l ∧ (s.runs.probe n r).1 l = [.pass] := by
    intro l hl
    rw [probe_of_ne (hlo l hl).ne]
    exact hs.lo l hl
  have hkeepHi : ∀ h, s.hi = some h →
      h ≤ 10 ^ 17 ∧ (s.runs.probe n r).1 h ≠ [] ∧ .pass ∉ (s.runs.probe n r).1 h := by
    intro h hh
    rw [probe_of_ne (hhi h hh).ne']
    exact hs.hi h hh
  simp only [Search.probed]
  split_ifs with hpass
  · refine ⟨honce, ?_, hkeepHi, ?_, ?_⟩
    · rintro l ⟨⟩
      exact ⟨hn, hself.trans (by rw [hpass])⟩
    · rintro l h ⟨⟩ hh
      exact hhi h hh
    · intro hnone m o ho
      change o ∈ (s.runs.probe n r).1 m at ho
      by_cases hm : m = n
      · rw [hm, hself, hpass] at ho
        exact List.mem_singleton.mp ho
      · rw [probe_of_ne hm] at ho
        exact hs.passed hnone m o ho
  · refine ⟨honce, hkeepLo, ?_, ?_, by simp⟩
    · rintro h ⟨⟩
      exact ⟨hn', by simp [hself], by simpa [hself] using fun h => hpass h.symm⟩
    · rintro l h hl ⟨⟩
      exact hlo l hl

/-! ## Confirmation -/

structure Closed (s : Search) : Prop where
  lo : ∀ l, s.lo = some l → (s.runs l).head? = some .pass
  hi : ∀ h, s.hi = some h → s.runs h ≠ [] ∧ .pass ∉ s.runs h
  gap : ∀ l h, s.lo = some l → s.hi = some h → l < h ∧ h - l ≤ stepFor l

def Capped (s : Search) (cand : ℕ) : Prop := ∃ n, cand < n ∧ ∃ o ∈ s.runs n, o ≠ .pass

def Topped (s : Search) (cand : ℕ) : Prop :=
  ∃ c', cand < c' ∧ c' ≤ cand + stepFor (c' - 1) ∧ ∃ o ∈ s.runs c', o ≠ .pass

structure Confirming (s : Search) (cand : ℕ) : Prop where
  closed : s.Closed
  pos : 0 < cand
  le : ∀ l, s.lo = some l → cand ≤ l
  lt : ∀ h, s.hi = some h → cand < h
  topped : s.Capped cand → s.Topped cand

lemma stepFor_mono {m n : ℕ} (h : m ≤ n) : stepFor m ≤ stepFor n := by
  unfold stepFor
  split_ifs <;> omega

lemma stepFor_pos (n : ℕ) : 0 < stepFor n := by
  unfold stepFor
  split_ifs <;> omega

lemma Closed.update (hs : s.Closed) {c : ℕ} {outcomes : List Outcome}
    (hlo : ∀ l, s.lo = some l → l = c → outcomes.head? = (s.runs c).head?)
    (hhi : ∀ h, s.hi = some h → c < h) (pc : Pc) :
    ({ s with pc := pc, runs := update s.runs c outcomes } : Search).Closed := by
  refine ⟨?_, ?_, hs.gap⟩
  · intro l hl
    by_cases hc : l = c
    · subst hc
      simpa [hlo l hl rfl] using hs.lo l hl
    · simpa [hc] using hs.lo l hl
  · intro h hh
    simpa [(hhi h hh).ne'] using hs.hi h hh

lemma Topped.update {cand c : ℕ} (hs : s.Topped cand) (hc : c ≤ cand) (outcomes : List Outcome)
    (pc : Pc) :
    ({ s with pc := pc, runs := update s.runs c outcomes } : Search).Topped cand := by
  obtain ⟨c', hlt, hle, o, ho, hpass⟩ := hs
  refine ⟨c', hlt, hle, o, ?_, hpass⟩
  have hne : c' ≠ c := by omega
  simpa [hne] using ho

structure Confirmed (s : Search) (c : ℕ) : Prop where
  closed : s.Closed
  passes : 2 ≤ (s.runs c).count .pass
  only : ∀ o ∈ s.runs c, o = .pass
  topped : s.Capped c → s.Topped c

/-! ## A whole search -/

def Inv (s : Search) : Prop :=
  match s.pc with
  | .Sanity => s.Bracket ∧ s.lo = none ∧ s.hi = none
  | .First n => s.Bracket ∧ s.lo = none ∧ s.hi = none ∧ 0 < n ∧ n ≤ 4 * 10 ^ 16
  | .WalkUp n => s.Bracket ∧ 0 < n ∧ (s.hi = none → s.lo = some n)
  | .WalkDown n => s.Bracket ∧ n ≤ 10 ^ 17 ∧ (s.lo = none → s.hi = some n)
  | .Bisect => s.Bracket
  | .Confirm cand => s.Confirming cand
  | .Done none => s.Closed
  | .Done (some c) => s.Confirmed c
  | .Raised _ => False

def phase : Pc → ℕ
  | .Sanity => 5
  | .First _ => 4
  | .WalkUp _ => 3
  | .WalkDown _ => 3
  | .Bisect => 2
  | .Confirm _ => 1
  | .Done _ => 0
  | .Raised _ => 0

def variant (prior : ℕ) (s : Search) : ℕ :=
  match s.pc with
  | .WalkUp n => if s.hi.isSome then 0 else 3 * prior + 1 - n
  | .WalkDown n => if s.lo.isSome then 0 else n
  | .Bisect => s.hi.getD 0 - s.lo.getD 0
  | .Confirm cand => 4 * cand + if undecided (s.runs cand) then 2 - (s.runs cand).count .pass else 0
  | _ => 0

def rank (prior : ℕ) (s : Search) : ℕ ×ₗ ℕ := toLex (phase s.pc, variant prior s)

lemma rank_lt_of_phase {s' : Search} (h : phase s'.pc < phase s.pc) :
    rank prior s' < rank prior s :=
  Prod.Lex.toLex_lt_toLex.mpr (.inl h)

lemma rank_lt_of_variant {s' : Search} (h : phase s'.pc = phase s.pc)
    (hlt : variant prior s' < variant prior s) : rank prior s' < rank prior s :=
  Prod.Lex.toLex_lt_toLex.mpr (.inr ⟨h, hlt⟩)

structure Advances (prior : ℕ) (s s' : Search) : Prop where
  inv : s'.Inv
  rank_lt : rank prior s' < rank prior s

lemma toBisect_spec (hs : s.Bracket) (hphase : 2 < phase s.pc) :
    Advances prior s { s with pc := .Bisect } :=
  ⟨{ hs with }, rank_lt_of_phase hphase⟩

lemma toConfirm_spec (hs : s.Bracket) (hpc : s.pc = .Bisect)
    (hgap : ∀ l h, s.lo = some l → s.hi = some h → h - l ≤ stepFor l) :
    Advances prior s s.toConfirm := by
  have hclosed (pc : Pc) : ({ s with pc := pc } : Search).Closed := by
    refine ⟨?_, fun h hh => (hs.hi h hh).2, fun l h hl hh => ⟨hs.lt l h hl hh, hgap l h hl hh⟩⟩
    intro l hl
    show (s.runs l).head? = some .pass
    rw [(hs.lo l hl).2]
    rfl
  cases hlo : s.lo with
  | none =>
    have hdone : s.toConfirm = { s with pc := .Done none } := by simp [toConfirm, hlo]
    rw [hdone]
    exact ⟨hclosed _, rank_lt_of_phase (by rw [hpc]; exact Nat.zero_lt_two)⟩
  | some cand =>
    have hpos := (hs.lo cand hlo).1
    have hnext : s.toConfirm = { s with pc := .Confirm cand } := by simp [toConfirm, hlo, hpos]
    rw [hnext]
    refine ⟨⟨hclosed _, hpos, ?_, ?_, ?_⟩, rank_lt_of_phase (by rw [hpc]; exact Nat.one_lt_two)⟩
    · intro l hl
      exact (Option.some.inj (hlo.symm.trans hl)).le
    · intro h hh
      exact hs.lt cand h hlo hh
    · rintro ⟨n, -, o, ho, hpass⟩
      obtain ⟨h, hh⟩ : ∃ h, s.hi = some h := by
        rw [← Option.ne_none_iff_exists']
        exact fun hnone => hpass (hs.passed hnone n o ho)
      have hlt := hs.lt cand h hlo hh
      have hle := hgap cand h hlo hh
      have hmono : stepFor cand ≤ stepFor (h - 1) := stepFor_mono (by omega)
      obtain ⟨-, hne, hnot⟩ := hs.hi h hh
      obtain ⟨o, ho⟩ := List.exists_mem_of_ne_nil _ hne
      exact ⟨h, hlt, by omega, o, ho, fun heq => hnot (heq ▸ ho)⟩

lemma undecided_iff {outcomes : List Outcome} :
    undecided outcomes = true ↔
      outcomes.count .pass < 2 ∧ .fail ∉ outcomes ∧ .invalid ∉ outcomes := by
  simp [undecided, and_assoc]

lemma rerun_spec {cand : ℕ} (hs : s.Confirming cand) (hpc : s.pc = .Confirm cand)
    (hundecided : undecided (s.runs cand) = true) :
    Advances prior s { s with runs := update s.runs cand (s.runs cand ++ [r]) } := by
  constructor
  · simp only [Inv, hpc]
    refine ⟨hs.closed.update ?_ hs.lt _, hs.pos, hs.le, hs.lt, ?_⟩
    · rintro l hl rfl
      have hhead := hs.closed.lo l hl
      rw [List.head?_append, hhead]
      rfl
    · rintro ⟨n, hn, o, ho, hpass⟩
      dsimp only at ho
      rw [update_of_ne hn.ne'] at ho
      exact (hs.topped ⟨n, hn, o, ho, hpass⟩).update le_rfl _ _
  · refine rank_lt_of_variant rfl ?_
    obtain ⟨hcount, -, -⟩ := undecided_iff.mp hundecided
    simp only [variant, hpc, update_self, hundecided, if_true, List.count_append]
    split_ifs with hagain
    · -- still undecided, so the outcome is another pass
      obtain ⟨-, hfail, hinvalid⟩ := undecided_iff.mp hagain
      cases r with
      | pass =>
        have hone : List.count Outcome.pass [Outcome.pass] = 1 := rfl
        omega
      | fail => exact absurd (by simp) hfail
      | invalid => exact absurd (by simp) hinvalid
    · omega

lemma stepDown_spec {cand : ℕ} (hs : s.Confirming cand) (hpc : s.pc = .Confirm cand)
    (hbad : ∃ o ∈ s.runs cand, o ≠ .pass) (hnext : cand - stepFor (cand - 1) ≠ 0) :
    Advances prior s { s with
      pc := .Confirm (cand - stepFor (cand - 1))
      runs := (s.runs.probe (cand - stepFor (cand - 1)) r).1 } := by
  have hstep := stepFor_pos (cand - 1)
  have hlt : cand - stepFor (cand - 1) < cand := by omega
  set next := cand - stepFor (cand - 1) with hdef
  have hkeep {m : ℕ} (hm : next < m) : (s.runs.probe next r).1 m = s.runs m := probe_of_ne hm.ne'
  constructor
  · refine ⟨⟨?_, ?_, hs.closed.gap⟩, by omega, ?_, ?_, ?_⟩
    · intro l hl
      show ((s.runs.probe next r).1 l).head? = some .pass
      rw [hkeep (hlt.trans_le (hs.le l hl))]
      exact hs.closed.lo l hl
    · intro h hh
      show (s.runs.probe next r).1 h ≠ [] ∧ .pass ∉ (s.runs.probe next r).1 h
      rw [hkeep (hlt.trans (hs.lt h hh))]
      exact hs.closed.hi h hh
    · intro l hl
      exact hlt.le.trans (hs.le l hl)
    · intro h hh
      exact hlt.trans (hs.lt h hh)
    · intro _
      obtain ⟨o, ho, hpass⟩ := hbad
      refine ⟨cand, hlt, by omega, o, ?_, hpass⟩
      show o ∈ (s.runs.probe next r).1 cand
      rwa [hkeep hlt]
  · refine rank_lt_of_variant (by rw [hpc]; rfl) ?_
    simp only [variant, hpc]
    split_ifs <;> omega

lemma confirm_spec {cand : ℕ} (hs : s.Confirming cand) (hpc : s.pc = .Confirm cand) :
    Advances prior s (s.confirm cand r) := by
  have hclosed (pc : Pc) : ({ s with pc := pc } : Search).Closed :=
    { hs.closed with }
  have hover : 0 < phase s.pc := by
    rw [hpc]
    exact Nat.one_pos
  simp only [confirm]
  split_ifs with hundecided hall hzero
  · exact rerun_spec hs hpc hundecided
  · have honly : ∀ o ∈ s.runs cand, o = .pass := by simpa using hall
    refine ⟨⟨hclosed _, ?_, honly, hs.topped⟩, rank_lt_of_phase hover⟩
    rw [undecided_iff] at hundecided
    by_contra hfew
    refine hundecided ⟨by simpa using hfew, ?_, ?_⟩
    · intro hfail
      cases honly _ hfail
    · intro hinvalid
      cases honly _ hinvalid
  · exact ⟨hclosed _, rank_lt_of_phase hover⟩
  · exact stepDown_spec hs hpc (by simpa using hall) hzero

lemma walkUp_spec (h2 : prior ≤ 3 * 10 ^ 16) (hs : s.Bracket) (hn : 0 < n)
    (hlo : s.hi = none → s.lo = some n) (hpc : s.pc = .WalkUp n) :
    Advances prior s (step Binary64.nearest prior s r) := by
  by_cases hloop : s.hi.isNone = true ∧ n ≤ prior * 3
  · obtain ⟨hnone, hle⟩ := hloop
    have hhi : s.hi = none := by simpa using hnone
    obtain ⟨n', hn', hge, hbound⟩ := above_spec (stepFor_mem prior) hn (by omega)
    have hpos := stepFor_pos prior
    have hstep : step Binary64.nearest prior s r = s.probed n' r (.WalkUp n') := by
      simp [step, iterate, hpc, hnone, hle, hn', pure, Except.pure]
    have hbracket : (s.probed n' r (.WalkUp n')).Bracket := by
      refine hs.probed (by omega) (by omega) ?_ (by simp [hhi])
      intro l hl
      rw [hlo hhi] at hl
      cases hl
      omega
    obtain ⟨hpc', hends⟩ := probed_ends s n' r (.WalkUp n')
    rw [hstep]
    constructor
    · simp only [Inv, hpc']
      refine ⟨hbracket, by omega, ?_⟩
      rcases hends with ⟨hl, -⟩ | ⟨-, hh⟩
      · exact fun _ => hl
      · simp [hh]
    · refine rank_lt_of_variant (by rw [hpc', hpc]; rfl) ?_
      simp only [variant, hpc', hpc, hhi, Option.isSome_none, Bool.false_eq_true, if_false]
      split_ifs <;> omega
  · have hstep : step Binary64.nearest prior s r = { s with pc := .Bisect } := by
      have hexit : ¬ (s.hi = none ∧ n ≤ prior * 3) := by simpa using hloop
      simp [step, iterate, hpc, hexit]
    rw [hstep]
    exact toBisect_spec hs (by rw [hpc]; exact Nat.lt_succ_self 2)

lemma walkDown_spec (hs : s.Bracket) (hn : n ≤ 10 ^ 17) (hhi : s.lo = none → s.hi = some n)
    (hpc : s.pc = .WalkDown n) :
    Advances prior s (step Binary64.nearest prior s r) := by
  by_cases hloop : s.lo.isNone = true ∧ stepFor prior < n
  · obtain ⟨hnone, hlt⟩ := hloop
    have hlo : s.lo = none := by simpa using hnone
    obtain ⟨n', hn', hpos, hle⟩ := below_spec (stepFor_mem prior) hlt (by omega)
    have hstepPos := stepFor_pos prior
    have hstep : step Binary64.nearest prior s r = s.probed n' r (.WalkDown n') := by
      simp [step, iterate, hpc, hnone, hlt, hn', pure, Except.pure]
    have hbracket : (s.probed n' r (.WalkDown n')).Bracket := by
      refine hs.probed hpos (by omega) (by simp [hlo]) ?_
      intro h hh
      rw [hhi hlo] at hh
      cases hh
      omega
    obtain ⟨hpc', hends⟩ := probed_ends s n' r (.WalkDown n')
    rw [hstep]
    constructor
    · simp only [Inv, hpc']
      refine ⟨hbracket, by omega, ?_⟩
      rcases hends with ⟨hl, -⟩ | ⟨-, hh⟩
      · simp [hl]
      · exact fun _ => hh
    · refine rank_lt_of_variant (by rw [hpc', hpc]; rfl) ?_
      simp only [variant, hpc', hpc, hlo, Option.isSome_none, Bool.false_eq_true, if_false]
      split_ifs <;> omega
  · have hstep : step Binary64.nearest prior s r = { s with pc := .Bisect } := by
      have hexit : ¬ (s.lo = none ∧ stepFor prior < n) := by simpa using hloop
      simp [step, iterate, hpc, hexit]
    rw [hstep]
    exact toBisect_spec hs (by rw [hpc]; exact Nat.lt_succ_self 2)

lemma bisect_spec (hs : s.Bracket) (hpc : s.pc = .Bisect) :
    Advances prior s (step Binary64.nearest prior s r) := by
  by_cases hloop : ∃ l h, s.lo = some l ∧ s.hi = some h ∧ stepFor l < h - l
  · obtain ⟨l, h, hl, hh, hgap⟩ := hloop
    obtain ⟨mid, hmid, hlt, hgt⟩ := middle_spec hgap (hs.hi h hh).1
    have hstep : step Binary64.nearest prior s r = s.probed mid r .Bisect := by
      simp [step, iterate, hpc, hl, hh, hgap, hmid, hlt.ne', hgt.ne, pure, Except.pure]
    obtain ⟨hpc', hends⟩ := probed_ends s mid r .Bisect
    rw [hstep]
    constructor
    · simp only [Inv, hpc']
      refine hs.probed (by omega) (hgt.le.trans (hs.hi h hh).1) ?_ ?_
      · intro l' hl'
        cases hl.symm.trans hl'
        exact hlt
      · intro h' hh'
        cases hh.symm.trans hh'
        exact hgt
    · refine rank_lt_of_variant (by rw [hpc', hpc]) ?_
      simp only [variant, hpc', hpc, hl, hh, Option.getD_some]
      rcases hends with ⟨hl', hh'⟩ | ⟨hl', hh'⟩
      · rw [hl', hh', hh]
        simp only [Option.getD_some]
        omega
      · rw [hl', hh', hl]
        simp only [Option.getD_some]
        omega
  · have hgap : ∀ l h, s.lo = some l → s.hi = some h → h - l ≤ stepFor l := by
      intro l h hl hh
      by_contra hlt
      exact hloop ⟨l, h, hl, hh, by omega⟩
    have hstep : step Binary64.nearest prior s r = s.toConfirm := by
      simp only [step, iterate, hpc]
      split
      case h_1 s' hok =>
        split at hok
        case h_1 l h hl hh =>
          rw [if_neg (by have := hgap l h hl hh; omega)] at hok
          exact (Except.ok.inj hok).symm
        case h_2 => exact (Except.ok.inj hok).symm
      case h_2 e herror =>
        split at herror
        case h_1 l h hl hh =>
          rw [if_neg (by have := hgap l h hl hh; omega)] at herror
          cases herror
        case h_2 => cases herror
    rw [hstep]
    exact toConfirm_spec hs hpc hgap

lemma Advances.spec {s' : Search} (h : Advances prior s s') {k : ℕ} :
    s'.Inv ∧ (0 < k → rank prior s' < rank prior s) :=
  ⟨h.inv, fun _ => h.rank_lt⟩

theorem step_spec (h1 : 1 ≤ prior) (h2 : prior ≤ 3 * 10 ^ 16) (hs : s.Inv) (r : Outcome) :
    (step Binary64.nearest prior s r).Inv ∧
      (0 < phase s.pc → rank prior (step Binary64.nearest prior s r) < rank prior s) := by
  cases hpc : s.pc with
  | Sanity =>
    simp only [Inv, hpc] at hs
    obtain ⟨m, hm⟩ := sanity_spec h1 h2
    obtain ⟨n, hn, hpos, hle⟩ := rnd_prior_spec h1 h2
    have hstep : step Binary64.nearest prior s r = { s with pc := .First n } := by
      simp [step, iterate, hpc, hm, hn, pure, Except.pure]
    rw [hstep]
    refine ⟨⟨{ hs.1 with }, hs.2.1, hs.2.2, hpos, by omega⟩, fun _ => ?_⟩
    exact rank_lt_of_phase (by rw [hpc]; exact Nat.lt_succ_self 4)
  | First n =>
    simp only [Inv, hpc] at hs
    obtain ⟨hbracket, hlo, hhi, hpos, hle⟩ := hs
    have hprobed : (s.probed n r .Bisect).Bracket :=
      hbracket.probed hpos (by omega) (by simp [hlo]) (by simp [hhi])
    obtain ⟨-, hends⟩ := probed_ends s n r .Bisect
    rcases hends with ⟨hl, hh⟩ | ⟨hl, hh⟩
    · have hstep : step Binary64.nearest prior s r =
          { s.probed n r .Bisect with pc := .WalkUp n } := by
        simp [step, iterate, hpc, hl]
      rw [hstep]
      refine ⟨⟨{ hprobed with }, hpos, fun _ => hl⟩, fun _ => ?_⟩
      exact rank_lt_of_phase (by rw [hpc]; exact Nat.lt_succ_self 3)
    · have hstep : step Binary64.nearest prior s r =
          { s.probed n r .Bisect with pc := .WalkDown n } := by
        simp [step, iterate, hpc, hl, hlo]
      rw [hstep]
      refine ⟨⟨{ hprobed with }, by omega, fun _ => hh⟩, fun _ => ?_⟩
      exact rank_lt_of_phase (by rw [hpc]; exact Nat.lt_succ_self 3)
  | WalkUp n =>
    simp only [Inv, hpc] at hs
    exact (walkUp_spec h2 hs.1 hs.2.1 hs.2.2 hpc).spec
  | WalkDown n =>
    simp only [Inv, hpc] at hs
    exact (walkDown_spec hs.1 hs.2.1 hs.2.2 hpc).spec
  | Bisect =>
    simp only [Inv, hpc] at hs
    exact (bisect_spec hs hpc).spec
  | Confirm cand =>
    simp only [Inv, hpc] at hs
    have hstep : step Binary64.nearest prior s r = s.confirm cand r := by
      simp only [step, iterate, hpc]
    rw [hstep]
    exact (confirm_spec hs hpc).spec
  | Done confirmed =>
    have hstep : step Binary64.nearest prior s r = s := by simp only [step, iterate, hpc]
    rw [hstep]
    exact ⟨hs, fun h => (Nat.lt_irrefl 0 h).elim⟩
  | Raised e =>
    simp only [Inv, hpc] at hs

lemma inv_run (h1 : 1 ≤ prior) (h2 : prior ≤ 3 * 10 ^ 16) (r : ℕ → Outcome) (k : ℕ) :
    (run Binary64.nearest prior r k).Inv := by
  induction k with
  | zero => exact ⟨⟨fun _ => Nat.zero_le 1, nofun, nofun, nofun, fun _ _ => nofun⟩, rfl, rfl⟩
  | succ k ih => exact (step_spec h1 h2 ih (r k)).1

lemma exists_done (h1 : 1 ≤ prior) (h2 : prior ≤ 3 * 10 ^ 16) (r : ℕ → Outcome) :
    ∃ k confirmed, (run Binary64.nearest prior r k).pc = .Done confirmed := by
  obtain ⟨k, hk⟩ : ∃ k, phase (run Binary64.nearest prior r k).pc = 0 := by
    by_contra hnever
    push Not at hnever
    obtain ⟨_, ⟨k, rfl⟩, hmin⟩ := WellFounded.has_min wellFounded_lt
      (Set.range fun k => rank prior (run Binary64.nearest prior r k)) (Set.range_nonempty _)
    have hlt := (step_spec h1 h2 (inv_run h1 h2 r k) (r k)).2 (Nat.pos_of_ne_zero (hnever k))
    exact hmin _ ⟨k + 1, rfl⟩ hlt
  have hinv := inv_run h1 h2 r k
  cases hpc : (run Binary64.nearest prior r k).pc with
  | Done confirmed => exact ⟨k, confirmed, hpc⟩
  | Raised e => simp only [Inv, hpc] at hinv
  | _ => simp [hpc, phase] at hk

structure Sound (s : Search) : Prop where
  /-- The lower end has passed; while the bracket is searched for, it has no other outcome. -/
  lo : ∀ l, s.lo = some l → (s.runs l).head? = some .pass ∧
    (2 ≤ phase s.pc → ∀ o ∈ s.runs l, o = .pass)
  /-- The upper end has never passed. -/
  hi : ∀ h, s.hi = some h → s.runs h ≠ [] ∧ .pass ∉ s.runs h
  lt : ∀ l h, s.lo = some l → s.hi = some h → l < h
  /-- The bisection measures a point strictly between the ends. -/
  probe : ∀ l h, s.pc = .Bisect → s.lo = some l → s.hi = some h → stepFor l < h - l →
    ∃ mid, middle Binary64.nearest l h = .ok mid ∧ l < mid ∧ mid < h
  /-- Behind the bisection the ends are at most a step apart. -/
  gap : phase s.pc < 2 → ∀ l h, s.lo = some l → s.hi = some h → h - l ≤ stepFor l
  confirmed : ∀ c, s.pc = .Done (some c) → 2 ≤ (s.runs c).count .pass ∧
    (∀ o ∈ s.runs c, o = .pass) ∧
    (s.Capped c → ∃ c', c < c' ∧ c' ≤ c + stepFor (c' - 1) ∧ s.runs c' ≠ [] ∧
      ¬ (2 ≤ (s.runs c').count .pass ∧ ∀ o ∈ s.runs c', o = .pass))

lemma Inv.bracket (hs : s.Inv) (h : 2 ≤ phase s.pc) : s.Bracket := by
  cases hpc : s.pc with
  | Sanity | First _ | WalkUp _ | WalkDown _ =>
    simp only [Inv, hpc] at hs
    exact hs.1
  | Bisect =>
    simp only [Inv, hpc] at hs
    exact hs
  | _ => simp [hpc, phase] at h

lemma Inv.closed (hs : s.Inv) (h : phase s.pc < 2) : s.Closed := by
  cases hpc : s.pc with
  | Confirm cand =>
    simp only [Inv, hpc] at hs
    exact hs.closed
  | Done confirmed => cases confirmed with
    | none =>
      simp only [Inv, hpc] at hs
      exact hs
    | some c =>
      simp only [Inv, hpc] at hs
      exact hs.closed
  | Raised e => simp only [Inv, hpc] at hs
  | _ => simp [hpc, phase] at h

lemma Inv.sound (hs : s.Inv) : s.Sound := by
  refine ⟨?_, ?_, ?_, ?_, fun h => fun l h' hl hh => ((hs.closed h).gap l h' hl hh).2, ?_⟩
  · intro l hl
    by_cases hphase : 2 ≤ phase s.pc
    · have hruns := ((hs.bracket hphase).lo l hl).2
      exact ⟨by rw [hruns]; rfl, fun _ => by simp [hruns]⟩
    · exact ⟨(hs.closed (by omega)).lo l hl, fun h => absurd h hphase⟩
  · intro h hh
    by_cases hphase : 2 ≤ phase s.pc
    · exact ((hs.bracket hphase).hi h hh).2
    · exact (hs.closed (by omega)).hi h hh
  · intro l h hl hh
    by_cases hphase : 2 ≤ phase s.pc
    · exact (hs.bracket hphase).lt l h hl hh
    · exact ((hs.closed (by omega)).gap l h hl hh).1
  · intro l h hpc hl hh hgap
    have hbracket := hs.bracket (by rw [hpc]; exact Nat.le_refl 2)
    exact middle_spec hgap (hbracket.hi h hh).1
  · intro c hpc
    simp only [Inv, hpc] at hs
    refine ⟨hs.passes, hs.only, ?_⟩
    intro hcapped
    obtain ⟨c', hlt, hle, o, ho, hpass⟩ := hs.topped hcapped
    exact ⟨c', hlt, hle, List.ne_nil_of_mem ho, fun h => hpass (h.2 o ho)⟩

theorem search_sound (h1 : 1 ≤ prior) (h2 : prior ≤ 3 * 10 ^ 16) (r : ℕ → Outcome) :
    (∃ k confirmed, (run Binary64.nearest prior r k).pc = .Done confirmed) ∧
      ∀ k, (run Binary64.nearest prior r k).Sound :=
  ⟨exists_done h1 h2 r, fun k => (inv_run h1 h2 r k).sound⟩

theorem search_sound_rustSync :
    (∃ k confirmed, (run Binary64.nearest 3950
        (fun i => if i % 3 = 2 then .fail else .pass) k).pc = .Done confirmed) ∧
      ∀ k, (run Binary64.nearest 3950 (fun i => if i % 3 = 2 then .fail else .pass) k).Sound :=
  search_sound (by norm_num) (by norm_num) _

theorem coarse_bracket :
    ∃ (r : ℕ → Outcome) (k l h : ℕ), phase (run Binary64.nearest (2 * 10 ^ 17) r k).pc < 2 ∧
      (run Binary64.nearest (2 * 10 ^ 17) r k).lo = some l ∧
      (run Binary64.nearest (2 * 10 ^ 17) r k).hi = some h ∧ stepFor l < h - l :=
  ⟨fun i => if i < 13 ∨ i % 2 = 0 then .pass else .fail, 64, 589644119262733800,
    589644119262734000, by decide +kernel⟩

end Search

end SttBench.Bench.Sweep
