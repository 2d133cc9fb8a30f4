import SttBench.Bench.EvalSlo

/-!
# eval_slo.py: when there is a verdict

`Answerable` says that nothing on the way raises.
-/

namespace SttBench.Bench.EvalSlo

open Python List

/-! ## Texts of one line -/

def OneLine (s : String) : Prop := '\n' ∉ s.toList

lemma OneLine.append {s t : String} (hs : OneLine s) (ht : OneLine t) : OneLine (s ++ t) := by
  simp only [OneLine, String.toList_append, mem_append, not_or]
  exact ⟨hs, ht⟩

structure Plain (py : Interpreter) : Prop where
  str : ∀ x spec, OneLine (py.str x spec)
  repr : ∀ s, OneLine (py.repr s)
  loads : ∀ raw e, py.loads raw = .error e → OneLine e

lemma OneLine.intercalate {sep : String} (hsep : OneLine sep) {l : List String}
    (h : ∀ s ∈ l, OneLine s) : OneLine (sep.intercalate l) := by
  rw [OneLine, String.toList_intercalate]
  induction l with
  | nil => simp
  | cons s l ih =>
    have hs : '\n' ∉ s.toList := h s mem_cons_self
    have hrest := ih fun t ht => h t (mem_cons_of_mem s ht)
    cases l with
    | nil => simpa [List.intercalate] using hs
    | cons t l =>
      simp only [map_cons, List.intercalate, List.intersperse, flatten_cons,
        mem_append, not_or] at hrest ⊢
      exact ⟨hs, hsep, hrest⟩

/-! ## The required fields -/

def fits (fl : ℚ → Double) (n : ℤ) : Bool :=
  match fl n with
  | .finite _ => true
  | _ => false

def oversized (fl : ℚ → Double) : Option Json → Bool
  | some (.num (.int n)) => !fits fl n
  | _ => false

def good (fl : ℚ → Double) : Option Json → Bool
  | some (.num (.int n)) => fits fl n && 0 ≤ n
  | some (.num (.float (.finite q))) => 0 ≤ q
  | _ => false

variable {py : Interpreter} {sess : String} {d : Dict}

lemma toFloat_int (fl : ℚ → Double) (n : ℤ) :
    (∃ q, Number.toFloat fl (.int n) = .ok (.finite q) ∧ fits fl n = true) ∨
      Number.toFloat fl (.int n) = .error .OverflowError ∧ fits fl n = false := by
  cases h : fl n <;> simp [Number.toFloat, fits, h]

lemma isNumber_eq (v : Option Json) :
    isNumber py v = if oversized py.fl v then .error .OverflowError else .ok (good py.fl v) := by
  match v with
  | some (.num (.int n)) =>
    obtain ⟨q, hfloat, hfits⟩ | ⟨hfloat, hfits⟩ := toFloat_int py.fl n <;>
      simp [isNumber, oversized, good, hfloat, hfits, pure, Except.pure, bind, Except.bind]
  | some (.num (.float (.finite q))) => rfl
  | some (.num (.float (.inf _))) | some (.num (.float .nan)) => rfl
  | some .null | some (.bool _) | some (.str _) | some (.arr _) | some (.obj _) | none => rfl

def paths : List (String × Option String) :=
  required.flatMap fun (key, fields) =>
    if fields.isEmpty then [(key, none)] else fields.map fun f => (key, some f)

def lookup (d : Dict) : String × Option String → Option Json
  | (key, none) => d.get key
  | (key, some f) =>
    match d.get key with
    | some (.obj v) => Dict.get v f
    | _ => none

def firstBad (fl : ℚ → Double) (d : Dict) : Option (Option Json) :=
  (paths.map (lookup d)).find? fun v => !good fl v

def WellFormed (fl : ℚ → Double) (d : Dict) : Prop := ∀ path ∈ paths, good fl (lookup d path) = true

def Scan (fl : ℚ → Double) (vs : List (Option Json)) : Except Exception (Option String) → Prop
  | .ok none => ∀ v ∈ vs, good fl v = true
  | .ok (some bad) =>
    OneLine bad ∧ ∃ v, vs.find? (fun v => !good fl v) = some v ∧ oversized fl v = false
  | .error _ => ∃ v, vs.find? (fun v => !good fl v) = some v ∧ oversized fl v = true

lemma Scan.append {fl : ℚ → Double} {vs ws : List (Option Json)}
    {r r' : Except Exception (Option String)} (hr : Scan fl vs r) (hr' : Scan fl ws r') :
    Scan fl (vs ++ ws) (do
      match ← r with
      | some bad => pure (some bad)
      | none => r') := by
  match r with
  | .ok none =>
    have hnone : vs.find? (fun v => !good fl v) = none := by
      rw [List.find?_eq_none]
      intro v hv
      simp [hr v hv]
    match r' with
    | .ok none =>
      intro v hv
      exact (mem_append.mp hv).elim (hr v) (hr' v)
    | .ok (some bad) => exact ⟨hr'.1, by rw [List.find?_append, hnone]; exact hr'.2⟩
    | .error e =>
      show ∃ v, _
      rw [List.find?_append, hnone]
      exact hr'
  | .ok (some bad) =>
    obtain ⟨hline, v, hfind, hv⟩ := hr
    exact ⟨hline, v, by rw [List.find?_append, hfind]; rfl, hv⟩
  | .error e =>
    obtain ⟨v, hfind, hv⟩ := hr
    exact ⟨v, by rw [List.find?_append, hfind]; rfl, hv⟩

lemma scan_findSomeM? {α : Type} {fl : ℚ → Double} {f : α → Except Exception (Option String)}
    {g : α → List (Option Json)} {xs : List α} (h : ∀ x ∈ xs, Scan fl (g x) (f x)) :
    Scan fl (xs.flatMap g) (xs.findSomeM? f) := by
  induction xs with
  | nil => nofun
  | cons x xs ih =>
    have happend :=
      (h x mem_cons_self).append (ih fun y hy => h y (mem_cons_of_mem x hy))
    rw [flatMap_cons, List.findSomeM?]
    revert happend
    cases f x with
    | error e => exact id
    | ok r => cases r <;> exact id

lemma scan_isNumber {v : Option Json} {bad : String} (hbad : OneLine bad) :
    Scan py.fl [v] (do
      if ← isNumber py v then return none
      return some bad) := by
  rw [isNumber_eq]
  cases hsize : oversized py.fl v with
  | true =>
    have hgood : good py.fl v = false := by
      match v with
      | some (.num (.int n)) =>
        simp only [oversized, Bool.not_eq_true'] at hsize
        simp [good, hsize]
    exact ⟨v, by simp [hgood], hsize⟩
  | false => cases hgood : good py.fl v with
    | true => simp [Scan, hgood, pure, Except.pure]
    | false => exact ⟨hbad, v, by simp [hgood], hsize⟩

lemma scan_required (py : Interpreter) (d : Dict) :
    Scan py.fl (paths.map (lookup d))
      (required.findSomeM? fun (key, fields) => malformedField py d key fields) := by
  rw [paths, map_flatMap]
  refine scan_findSomeM? ?_
  rintro ⟨key, fields⟩ hmem
  have hnames : ∀ x ∈ required, '\n' ∉ x.1.toList ∧ ∀ f ∈ x.2, '\n' ∉ f.toList := by decide
  have hkey : OneLine key ∧ ∀ f ∈ fields, OneLine f := hnames _ hmem
  have hopen : OneLine "malformed-summary(" := by simp [OneLine]
  have hclose : OneLine ")" := by simp [OneLine]
  have hdot : OneLine "." := by simp [OneLine]
  have hbad := (hopen.append hkey.1).append hclose
  cases fields with
  | nil => exact scan_isNumber hbad
  | cons f fields =>
    simp only [malformedField, isEmpty_cons, Bool.false_eq_true, if_false, map_map]
    by_cases hobj : ∃ v, d.get key = some (.obj v)
    · obtain ⟨v, hv⟩ := hobj
      have hlookup : (f :: fields).map (lookup d ∘ fun f => (key, some f)) =
          (f :: fields).flatMap fun f => [Dict.get v f] := by
        rw [← map_eq_flatMap]
        simp [lookup, hv, Function.comp_def]
      rw [hlookup]
      simp only [hv]
      refine scan_findSomeM? ?_
      intro f' hf'
      exact scan_isNumber
        (((hopen.append hkey.1).append hdot |>.append (hkey.2 f' hf')).append hclose)
    · have hnone : lookup d (key, some f) = none := by
        simp only [lookup]
        split
        · exact absurd ⟨_, ‹_›⟩ hobj
        · rfl
      split
      · exact absurd ⟨_, ‹_›⟩ hobj
      · exact ⟨hbad, none, by simp [hnone, good], rfl⟩

lemma firstBad_eq_none_iff {fl : ℚ → Double} : firstBad fl d = none ↔ WellFormed fl d := by
  simp [firstBad, WellFormed, List.find?_eq_none]

/-! ## Behind the check -/

def Sound (fl : ℚ → Double) : Number → Prop
  | .int n => fits fl n = true ∧ 0 ≤ n
  | .float x => ∃ q, x = .finite q ∧ 0 ≤ q

def Reads (d : Dict) (path : String × Option String) (q : ℚ) : Prop :=
  ∃ x, lookup d path = some (.num x) ∧ x.value = .finite q

lemma Reads.unique {path : String × Option String} {q r : ℚ} (hq : Reads d path q)
    (hr : Reads d path r) : q = r := by
  obtain ⟨x, hx, hvalue⟩ := hq
  obtain ⟨y, hy, hvalue'⟩ := hr
  cases hx.symm.trans hy
  exact Double.finite.inj (hvalue.symm.trans hvalue')

section

variable {fl : ℚ → Double} {x : Number}

lemma Sound.exists_value (h : Sound fl x) : ∃ q : ℚ, x.value = .finite q ∧ 0 ≤ q := by
  cases x with
  | int n => exact ⟨n, rfl, by exact_mod_cast h.2⟩
  | float x => exact h

lemma exists_sound_of_good {v : Option Json} (h : good fl v = true) :
    ∃ x, v = some (.num x) ∧ Sound fl x := by
  match v with
  | some (.num (.int n)) =>
    simp only [good, Bool.and_eq_true, decide_eq_true_eq] at h
    exact ⟨.int n, rfl, h⟩
  | some (.num (.float (.finite q))) =>
    simp only [good, decide_eq_true_eq] at h
    exact ⟨.float (.finite q), rfl, q, rfl, h⟩

lemma WellFormed.number (h : WellFormed fl d) (key : String)
    (hkey : (key, none) ∈ paths := by decide) :
    ∃ x q, d.number key = .ok x ∧ Sound fl x ∧ x.value = .finite q ∧ 0 ≤ q ∧
      Reads d (key, none) q := by
  obtain ⟨x, hx, hsound⟩ := exists_sound_of_good (h _ hkey)
  obtain ⟨q, hq, hnonneg⟩ := hsound.exists_value
  refine ⟨x, q, ?_, hsound, hq, hnonneg, x, hx, hq⟩
  have hget : d.get key = some (.num x) := hx
  simp [Dict.number, Dict.item, hget, Json.asNumber]

lemma WellFormed.field (h : WellFormed fl d) (key f : String)
    (hkey : (key, some f) ∈ paths := by decide) :
    ∃ v x q, d.get key = some (.obj v) ∧ d.dict key = .ok v ∧ Dict.number v f = .ok x ∧
      Sound fl x ∧ x.value = .finite q ∧ 0 ≤ q ∧ Reads d (key, some f) q := by
  obtain ⟨x, hx, hsound⟩ := exists_sound_of_good (h _ hkey)
  obtain ⟨q, hq, hnonneg⟩ := hsound.exists_value
  have hobj : ∃ v, d.get key = some (.obj v) ∧ Dict.get v f = some (.num x) := by
    simp only [lookup] at hx
    split at hx
    · exact ⟨_, ‹_›, hx⟩
    · cases hx
  obtain ⟨v, hv, hf⟩ := hobj
  refine ⟨v, x, q, hv, ?_, ?_, hsound, hq, hnonneg, x, hx, hq⟩
  · simp [Dict.dict, Dict.item, hv, pure, Except.pure]
  · simp [Dict.number, Dict.item, hf, Json.asNumber]

lemma WellFormed.dict (h : WellFormed fl d) (key : String)
    (hkey : key ∈ paths.filterMap fun path => path.2.map fun _ => path.1) :
    ∃ v, d.dict key = .ok v ∧ ∀ f, (key, some f) ∈ paths → ∃ x, Dict.number v f = .ok x := by
  obtain ⟨⟨_, _ | f⟩, hpath, heq⟩ := mem_filterMap.mp hkey
  · cases heq
  · obtain rfl := Option.some.inj heq
    obtain ⟨v, -, -, -, hv, -⟩ := h.field _ f hpath
    refine ⟨v, hv, fun f' hf' => ?_⟩
    obtain ⟨v', x, -, -, hv', hx, -⟩ := h.field _ f' hf'
    cases hv.symm.trans hv'
    exact ⟨x, hx⟩

lemma lt_int_of_value {b : ℤ} {q : ℚ} (h : x.value = .finite q) :
    Number.lt (.int b) x = decide ((b : ℚ) < q) := by
  rw [Number.lt, h]
  rfl

lemma eq_zero_of_value {q : ℚ} (h : x.value = .finite q) :
    x.eq (.int 0) = decide (q = 0) := by
  have hzero : (Number.int 0).value = .finite 0 := by simp [Number.value]
  rw [Number.eq, h, hzero, Double.eq_finite]

end

/-! ## The error rate -/

structure Counts where
  connect : Number
  send : Number
  close : Number
  session : Number
  protocolErrors : Number
  inferenceErrors : Number
  partials : Number

def Divisible (fl : ℚ → Double) (n : ℤ) : Number → Prop
  | .int p => p = 0 ∨ ∃ q, fl (n / p) = .finite q
  | .float x => x = .finite 0 ∨ fits fl n = true

namespace Counts

def timeouts (c : Counts) : List Number := [c.connect, c.send, c.close, c.session]

def Of (d : Dict) (c : Counts) : Prop :=
  ∃ t, d.get "timeouts" = some (.obj t) ∧ Dict.get t "connect" = some (.num c.connect) ∧
    Dict.get t "send" = some (.num c.send) ∧ Dict.get t "close" = some (.num c.close) ∧
    Dict.get t "session" = some (.num c.session) ∧
    d.get "protocol_errors" = some (.num c.protocolErrors) ∧
    d.get "inference_errors" = some (.num c.inferenceErrors) ∧
    d.get "partials" = some (.num c.partials)

def Within (fl : ℚ → Double) (c : Counts) : Prop :=
  (∀ (pre : List ℤ) q post, c.timeouts = pre.map .int ++ .float q :: post → fits fl pre.sum = true) ∧
    ∀ t, Number.sum fl c.timeouts = .ok t → ∀ n, c.protocolErrors.max t = .int n →
      match c.inferenceErrors with
      | .int m => Divisible fl (n + m) c.partials
      | .float _ => fits fl n = true

end Counts

section

variable {fl : ℚ → Double}

lemma Sound.toFloat {x : Number} (h : Sound fl x) : ∃ q, x.toFloat fl = .ok (.finite q) := by
  cases x with
  | int n =>
    obtain ⟨q, hq, -⟩ | ⟨-, hfits⟩ := toFloat_int fl n
    · exact ⟨q, hq⟩
    · simp [h.1] at hfits
  | float x =>
    obtain ⟨q, rfl, -⟩ := h
    exact ⟨q, rfl⟩

lemma foldlM_add_float {ts : List Number} (hts : ∀ x ∈ ts, Sound fl x) (x : Double) :
    ∃ y, ts.foldlM (Number.add fl) (.float x) = .ok (.float y) := by
  induction ts generalizing x with
  | nil => exact ⟨x, rfl⟩
  | cons t ts ih =>
    obtain ⟨q, hq⟩ := (hts t mem_cons_self).toFloat
    rw [foldlM_cons, Number.add_float_left, hq]
    exact ih (fun t' ht' => hts t' (mem_cons_of_mem t ht')) _

lemma foldlM_add_int {ts : List Number} (hts : ∀ x ∈ ts, Sound fl x) (n : ℤ) :
    (∃ t, ts.foldlM (Number.add fl) (.int n) = .ok t) ↔
      ∀ (pre : List ℤ) q post, ts = pre.map .int ++ .float q :: post → fits fl (n + pre.sum) = true := by
  induction ts generalizing n with
  | nil => simp [pure, Except.pure]
  | cons t ts ih =>
    have hrest : ∀ x ∈ ts, Sound fl x := fun x hx => hts x (mem_cons_of_mem t hx)
    rw [foldlM_cons]
    cases t with
    | int m =>
      show (∃ t, ts.foldlM (Number.add fl) (.int (n + m)) = .ok t) ↔ _
      rw [ih hrest]
      constructor
      · intro h pre q post hts
        cases pre with
        | nil => cases hts
        | cons m' pre =>
          obtain ⟨hm, hrest⟩ := List.cons.inj hts
          cases hm
          rw [sum_cons, ← add_assoc]
          exact h pre q post hrest
      · intro h pre q post hts
        rw [add_assoc]
        exact h (m :: pre) q post (by rw [hts]; rfl)
    | float x =>
      have hpre : (∀ (pre : List ℤ) q post, Number.float x :: ts = pre.map .int ++ .float q :: post →
          fits fl (n + pre.sum) = true) ↔ fits fl n = true := by
        constructor
        · intro h
          simpa using h [] x ts rfl
        · intro h pre q post hts
          cases pre with
          | nil => simpa using h
          | cons m pre => cases hts
      rw [hpre]
      rw [Number.add_float_right]
      obtain ⟨q, hq, hfits⟩ | ⟨hq, hfits⟩ := toFloat_int fl n
      · obtain ⟨y, hy⟩ := foldlM_add_float hrest ((Double.finite q).add fl x)
        rw [hq]
        exact iff_of_true ⟨_, hy⟩ hfits
      · rw [hq, hfits]
        exact iff_of_false nofun nofun

lemma Counts.countErrors_eq {c : Counts} (hc : c.Of d) :
    countErrors py d = (do
      let t ← Number.sum py.fl c.timeouts
      (c.protocolErrors.max t).add py.fl c.inferenceErrors) := by
  obtain ⟨t, ht, hconnect, hsend, hclose, hsession, hprotocol, hinference, -⟩ := hc
  have htruthy : (Json.obj t).truthy = true := by
    cases t with
    | nil => cases hconnect
    | cons f t => rfl
  simp only [countErrors, ht, htruthy, if_true, Json.asDict, ok_bind, getOrZero, hprotocol,
    hinference, Json.asNumber, mapM_cons, mapM_nil, hconnect, hsend, hclose, hsession,
    pure, Except.pure, timeouts]

structure Counts.Checked (fl : ℚ → Double) (c : Counts) : Prop where
  timeouts : ∀ x ∈ c.timeouts, Sound fl x
  protocolErrors : Sound fl c.protocolErrors
  inferenceErrors : Sound fl c.inferenceErrors
  partials : Sound fl c.partials

lemma errorRate_float (x : Double) {p : Number} (hp : Sound py.fl p) :
    ∃ rate, errorRate py (.float x) p = .ok rate := by
  cases hzero : p.eq (.int 0) with
  | true => exact ⟨_, if_pos hzero⟩
  | false =>
    obtain ⟨q, hq⟩ := hp.toFloat
    refine ⟨.float (x.div py.fl (.finite q)), ?_⟩
    rw [errorRate, hzero, if_neg (by simp), Number.truediv_float_left _ x hzero, hq]
    rfl

lemma errorRate_int (n : ℤ) {p : Number} (hp : Sound py.fl p) :
    (∃ rate, errorRate py (.int n) p = .ok rate) ↔ Divisible py.fl n p := by
  cases p with
  | int p =>
    by_cases hzero : p = 0
    · exact iff_of_true ⟨.float (.finite 1), by simp [errorRate, hzero]⟩ (.inl hzero)
    · have hne : (Number.int p).eq (.int 0) = false := by simp [hzero]
      simp only [errorRate, hne, Divisible, hzero, false_or, Bool.false_eq_true, if_false,
        Number.truediv]
      cases py.fl (n / p) <;> simp
  | float x =>
    obtain ⟨q, rfl, -⟩ := hp
    have hvalue : (Number.float (.finite q)).eq (.int 0) = decide (q = 0) := eq_zero_of_value rfl
    by_cases hzero : q = 0
    · exact iff_of_true ⟨_, if_pos (hvalue.trans (decide_eq_true hzero))⟩
        (.inl (by rw [hzero]))
    · have hne : (Number.float (.finite q)).eq (.int 0) = false := by simp [hvalue, hzero]
      rw [errorRate, hne, if_neg (by simp), Number.truediv_float_right _ _ hne]
      obtain ⟨r, hr, hfits⟩ | ⟨hr, hfits⟩ := toFloat_int py.fl n
      · rw [hr]
        exact iff_of_true ⟨_, rfl⟩ (.inr hfits)
      · rw [hr, Divisible, hfits]
        refine iff_of_false (by rintro ⟨_, ⟨⟩⟩) ?_
        rintro (h | h)
        · exact hzero (Double.finite.inj h)
        · cases h

lemma Counts.rate_iff {c : Counts} (hc : c.Of d) (hchecked : c.Checked py.fl) :
    (∃ errs rate, countErrors py d = .ok errs ∧ errorRate py errs c.partials = .ok rate) ↔
      c.Within py.fl := by
  rw [countErrors_eq hc]
  have hsum := foldlM_add_int hchecked.timeouts 0
  simp only [zero_add] at hsum
  rw [Within, ← hsum]
  cases ht : Number.sum py.fl c.timeouts with
  | error e =>
    refine iff_of_false ?_ ?_
    · rintro ⟨errs, rate, h, -⟩
      cases h
    · rintro ⟨⟨t, h⟩, -⟩
      rw [Number.sum] at ht
      rw [ht] at h
      cases h
  | ok t =>
    rw [Number.sum] at ht
    simp only [ht, Except.ok.injEq, exists_eq', true_and, ok_bind, forall_eq']
    cases hmax : c.protocolErrors.max t with
    | float x =>
      obtain ⟨q, hq⟩ := hchecked.inferenceErrors.toFloat
      rw [Number.add_float_left, hq]
      obtain ⟨rate, hrate⟩ := errorRate_float (x.add py.fl (.finite q)) hchecked.partials
      exact iff_of_true ⟨_, rate, rfl, hrate⟩ (by rintro _ ⟨⟩)
    | int n =>
      simp only [Number.int.injEq, forall_eq']
      cases hi : c.inferenceErrors with
      | int m =>
        have hrate := errorRate_int (n + m) hchecked.partials
        simp [Number.add, hrate]
      | float x =>
        rw [Number.add_float_right]
        obtain ⟨q, hq, hfits⟩ | ⟨hq, hfits⟩ := toFloat_int py.fl n
        · rw [hq]
          obtain ⟨rate, hrate⟩ :=
            errorRate_float ((Double.finite q).add py.fl x) hchecked.partials
          exact iff_of_true ⟨_, rate, rfl, hrate⟩ hfits
        · rw [hq, hfits]
          refine iff_of_false ?_ (by rintro ⟨⟩)
          rintro ⟨errs, rate, h, -⟩
          cases h

end

/-! ## The verdict -/

structure Passing (py : Interpreter) (d : Dict) : Prop where
  newestP50 : ∃ q, Reads d ("newest_frame_to_partial_latency", some "p50_ms") q ∧ q ≤ 200
  newestP95 : ∃ q, Reads d ("newest_frame_to_partial_latency", some "p95_ms") q ∧ q ≤ 350
  oldestP50 : ∃ q, Reads d ("oldest_frame_to_partial_latency", some "p50_ms") q ∧ q ≤ 1200
  oldestP95 : ∃ q, Reads d ("oldest_frame_to_partial_latency", some "p95_ms") q ∧ q ≤ 1650
  errorRate : ∃ errs p rate, countErrors py d = .ok errs ∧ d.number "partials" = .ok p ∧
    errs.truediv py.fl p = .ok rate ∧ Number.lt (.float (py.fl (1 / 100000))) rate = false
  partials : ∃ q, Reads d ("partials", none) q ∧ 0 < q ∧ Reads d ("verified_partials", none) q
  none : ∀ key ∈ ["correctness_errors", "verify_dropped", "harness_faults"], Reads d (key, none) 0
  lag : ∃ lag block, Reads d ("harness_lag", some "p99_ms") lag ∧
    Reads d ("send_block", some "p99_ms") block ∧ ¬ (10 < lag ∧ block < 5)

section

variable (hpy : Plain py) (hd : WellFormed py.fl d)

lemma forall_mem_ite {c : Prop} [Decidable c] {m : Miss} (h : OneLine m.text) :
    ∀ x ∈ (if c then [m] else []), OneLine x.text := by
  split_ifs <;> simp [h]

include hpy hd

lemma missedGates_spec {errs p rate : Number} (hp : d.number "partials" = .ok p)
    (hrate : errorRate py errs p = .ok rate) :
    ∃ gates, missedGates py d errs = .ok gates ∧ (∀ m ∈ gates, OneLine m.text) ∧
      (gates = [] →
        (∃ q, Reads d ("newest_frame_to_partial_latency", some "p50_ms") q ∧ q ≤ 200) ∧
        (∃ q, Reads d ("newest_frame_to_partial_latency", some "p95_ms") q ∧ q ≤ 350) ∧
        (∃ q, Reads d ("oldest_frame_to_partial_latency", some "p50_ms") q ∧ q ≤ 1200) ∧
        (∃ q, Reads d ("oldest_frame_to_partial_latency", some "p95_ms") q ∧ q ≤ 1650) ∧
        Number.lt (.float (py.fl (1 / 100000))) rate = false ∧ p.eq (.int 0) = false ∧
        Reads d ("correctness_errors", none) 0) := by
  obtain ⟨nf, n50, q1, hget, hnf, hn50, -, hq1, -, hr1⟩ :=
    hd.field "newest_frame_to_partial_latency" "p50_ms"
  obtain ⟨nf', n95, q2, hget', -, hn95, -, hq2, -, hr2⟩ :=
    hd.field "newest_frame_to_partial_latency" "p95_ms"
  obtain ⟨of, o50, q3, hget2, hof, ho50, -, hq3, -, hr3⟩ :=
    hd.field "oldest_frame_to_partial_latency" "p50_ms"
  obtain ⟨of', o95, q4, hget2', -, ho95, -, hq4, -, hr4⟩ :=
    hd.field "oldest_frame_to_partial_latency" "p95_ms"
  obtain ⟨cerr, q5, hcerr, -, hq5, hnonneg, hr5⟩ := hd.number "correctness_errors"
  obtain rfl : nf = nf' := Json.obj.inj (Option.some.inj (hget.symm.trans hget'))
  obtain rfl : of = of' := Json.obj.inj (Option.some.inj (hget2.symm.trans hget2'))
  simp only [missedGates, hp, hnf, hof, hrate, hcerr, hn50, hn95, ho50, ho95, ok_bind, pure,
    Except.pure, Except.ok.injEq, exists_eq_left', lt_int_of_value hq1, lt_int_of_value hq2,
    lt_int_of_value hq3, lt_int_of_value hq4, lt_int_of_value hq5]
  have hstr : ∀ x spec, '\n' ∉ (py.str x spec).toList := hpy.str
  have hbounds : '\n' ∉ (Int.repr 200).toList ∧ '\n' ∉ (Int.repr 350).toList ∧
    '\n' ∉ (Int.repr 1200).toList ∧ '\n' ∉ (Int.repr 1650).toList := by decide +kernel
  constructor
  · simp only [forall_mem_append]
    refine ⟨⟨⟨⟨⟨⟨?_, ?_⟩, ?_⟩, ?_⟩, ?_⟩, ?_⟩, ?_⟩
    all_goals refine forall_mem_ite ?_
    all_goals simp [OneLine, hstr, hbounds]
  · simp only [append_eq_nil_iff, ite_eq_right_iff, cons_ne_nil, imp_false,
      decide_eq_true_eq, not_lt, Bool.not_eq_true]
    rintro ⟨⟨⟨⟨⟨⟨h1, h2⟩, h3⟩, h4⟩, hrate⟩, hzero⟩, hcerr⟩
    have hcerr0 : q5 = 0 := le_antisymm (by exact_mod_cast hcerr) hnonneg
    exact ⟨⟨q1, hr1, by exact_mod_cast h1⟩, ⟨q2, hr2, by exact_mod_cast h2⟩,
      ⟨q3, hr3, by exact_mod_cast h3⟩, ⟨q4, hr4, by exact_mod_cast h4⟩, hrate, hzero,
      hcerr0 ▸ hr5⟩

lemma harnessInvalid_spec (gates : List Miss) :
    ∃ invalid, harnessInvalid py d gates = .ok invalid ∧ (∀ s ∈ invalid, OneLine s) ∧
      (gates = [] → invalid = none → ∃ lag block, Reads d ("harness_lag", some "p99_ms") lag ∧
        Reads d ("send_block", some "p99_ms") block ∧ ¬ (10 < lag ∧ block < 5)) := by
  have hstr : ∀ x spec, '\n' ∉ (py.str x spec).toList := hpy.str
  obtain ⟨hl, lag, q, -, hhl, hlag, -, hq, -, hr⟩ := hd.field "harness_lag" "p99_ms"
  obtain ⟨sb, block, q', -, hsb, hblock, -, hq', -, hr'⟩ := hd.field "send_block" "p99_ms"
  have hlt : Number.lt (.float (.finite harnessLagP99MaxMs)) lag = decide (10 < q) := by
    rw [Number.lt, hq]
    rfl
  have hlt' : block.lt (.float (.finite sendBlockP99MaxMs)) = decide (q' < 5) := by
    rw [Number.lt, hq']
    rfl
  simp only [harnessInvalid, hhl, hlag, hsb, hblock, hlt, hlt', ok_bind, pure, Except.pure,
    decide_eq_true_eq]
  split_ifs with hall hlate hread
  · refine ⟨none, rfl, (by rintro _ ⟨⟩), ?_⟩
    rintro rfl
    simp at hall
  · exact ⟨_, rfl, by simp [OneLine, hstr], (by rintro _ ⟨⟩)⟩
  · exact ⟨none, rfl, (by rintro _ ⟨⟩), fun _ _ => ⟨q, q', hr, hr', fun h => hread h.2⟩⟩
  · exact ⟨none, rfl, (by rintro _ ⟨⟩), fun _ _ => ⟨q, q', hr, hr', fun h => hlate h.1⟩⟩

lemma verificationIncomplete_spec :
    ∃ incomplete, verificationIncomplete py d = .ok incomplete ∧ (∀ s ∈ incomplete, OneLine s) ∧
      (incomplete = none → Reads d ("verify_dropped", none) 0 ∧
        ∃ q, Reads d ("partials", none) q ∧ Reads d ("verified_partials", none) q) := by
  have hstr : ∀ x spec, '\n' ∉ (py.str x spec).toList := hpy.str
  obtain ⟨p, q, hp, -, hq, -, hr⟩ := hd.number "partials"
  obtain ⟨v, q', hv, -, hq', -, hr'⟩ := hd.number "verified_partials"
  obtain ⟨dropped, r, hdropped, -, hvalue, hnonneg, hread⟩ := hd.number "verify_dropped"
  have heq : v.eq p = decide (q' = q) := by rw [Number.eq, hq, hq', Double.eq_finite]
  simp only [verificationIncomplete, hp, hv, hdropped, heq, lt_int_of_value hvalue, ok_bind, pure,
    Except.pure]
  split_ifs with h
  · exact ⟨_, rfl, by simp [OneLine, hstr], (by rintro ⟨⟩)⟩
  · simp only [Int.cast_zero, Bool.or_eq_true, decide_eq_true_eq, Bool.not_eq_true',
      decide_eq_false_iff_not, not_or, not_lt, not_not] at h
    obtain rfl : r = 0 := le_antisymm h.1 hnonneg
    exact ⟨none, rfl, (by rintro _ ⟨⟩), fun _ => ⟨hread, q, hr, h.2 ▸ hr'⟩⟩

lemma judge_spec {gates : List Miss} (hgates : ∀ m ∈ gates, OneLine m.text) :
    ∃ verdict texts, judge py d gates = .ok (verdict, texts) ∧ (∀ s ∈ texts, OneLine s) ∧
      (verdict = .PASS → gates = [] ∧ Reads d ("verify_dropped", none) 0 ∧
        (∃ q, Reads d ("partials", none) q ∧ Reads d ("verified_partials", none) q) ∧
        ∃ lag block, Reads d ("harness_lag", some "p99_ms") lag ∧
          Reads d ("send_block", some "p99_ms") block ∧ ¬ (10 < lag ∧ block < 5)) := by
  obtain ⟨invalid, hinvalid, hline, hlag⟩ := harnessInvalid_spec hpy hd gates
  obtain ⟨incomplete, hincomplete, hline', hverified⟩ := verificationIncomplete_spec hpy hd
  have htexts : ∀ s ∈ gates.map Miss.text, OneLine s := by
    intro s hs
    obtain ⟨m, hm, rfl⟩ := mem_map.mp hs
    exact hgates m hm
  simp only [judge, hinvalid, hincomplete, ok_bind]
  cases invalid with
  | some s =>
    exact ⟨.INVALID, _, rfl, forall_mem_cons.mpr ⟨hline s rfl, htexts⟩, (by rintro ⟨⟩)⟩
  | none => cases gates with
    | cons m gates => exact ⟨.FAIL, _, rfl, htexts, (by rintro ⟨⟩)⟩
    | nil => cases incomplete with
      | some s =>
        exact ⟨.INVALID, _, rfl, forall_mem_cons.mpr ⟨hline' s rfl, htexts⟩, (by rintro ⟨⟩)⟩
      | none =>
        exact ⟨.PASS, _, rfl, htexts,
          fun _ => ⟨rfl, (hverified rfl).1, (hverified rfl).2, hlag rfl rfl⟩⟩

lemma details_spec (errs : Number) {gates : List String} (hgates : ∀ s ∈ gates, OneLine s) :
    ∃ text, details py d errs gates = .ok text ∧ OneLine text := by
  have hstr : ∀ x spec, '\n' ∉ (py.str x spec).toList := hpy.str
  have hjoin : '\n' ∉ (";".intercalate gates).toList :=
    OneLine.intercalate (by simp [OneLine]) hgates
  choose number _ hnumber _ using fun key hkey => hd.number key hkey
  choose dict hdict hfield using fun key hkey => hd.dict key hkey
  choose field hfield using hfield
  simp (disch := decide) only [details, hnumber, hdict, hfield, ok_bind, pure, Except.pure,
    Except.ok.injEq, exists_eq_left']
  split_ifs <;> simp [OneLine, hstr, hjoin, -String.toList_intercalate]

end

/-! ## Answers -/

def Accepted (py : Interpreter) (sess : String) (d : Dict) : Prop :=
  WellFormed py.fl d ∧
    (py.isdigit sess = true → ∃ n x, py.int sess = .ok n ∧ d.number "sessions" = .ok x ∧
      x.eq (.int n) = true) ∧
    (∀ q, Reads d ("partials", none) q → 0 < q → ¬ Reads d ("harness_lag_samples", none) 0) ∧
    Reads d ("harness_faults", none) 0

structure Answerable (py : Interpreter) (sess : String) (d : Dict) : Prop where
  fields : ∀ v, firstBad py.fl d = some v → oversized py.fl v = false
  sessions : WellFormed py.fl d → py.isdigit sess = true → ∃ n, py.int sess = .ok n
  counts : Accepted py sess d → ∀ c, Counts.Of d c → c.Within py.fl

lemma WellFormed.exists_counts {fl : ℚ → Double} (hd : WellFormed fl d) :
    ∃ c, Counts.Of d c ∧ c.Checked fl ∧ d.number "partials" = .ok c.partials := by
  have hget (path : String × Option String) (hpath : path ∈ paths := by decide) :
      ∃ x, lookup d path = some (.num x) ∧ Sound fl x := exists_sound_of_good (hd path hpath)
  obtain ⟨t, -, -, ht, -⟩ := hd.field "timeouts" "connect"
  have hlookup (f : String) : lookup d ("timeouts", some f) = Dict.get t f := by simp [lookup, ht]
  obtain ⟨connect, h1, hs1⟩ := hget ("timeouts", some "connect")
  obtain ⟨send, h2, hs2⟩ := hget ("timeouts", some "send")
  obtain ⟨close, h3, hs3⟩ := hget ("timeouts", some "close")
  obtain ⟨session, h4, hs4⟩ := hget ("timeouts", some "session")
  obtain ⟨protocolErrors, h5, hs5⟩ := hget ("protocol_errors", none)
  obtain ⟨inferenceErrors, h6, hs6⟩ := hget ("inference_errors", none)
  obtain ⟨partials, h7, hs7⟩ := hget ("partials", none)
  rw [hlookup] at h1 h2 h3 h4
  refine ⟨⟨connect, send, close, session, protocolErrors, inferenceErrors, partials⟩,
    ⟨t, ht, h1, h2, h3, h4, h5, h6, h7⟩, ⟨?_, hs5, hs6, hs7⟩, ?_⟩
  · simp only [Counts.timeouts, forall_mem_cons]
    exact ⟨hs1, hs2, hs3, hs4, nofun⟩
  · have hpartials : d.get "partials" = some (.num partials) := h7
    simp [Dict.number, Dict.item, hpartials, Json.asNumber]

lemma Counts.Of.unique {c c' : Counts} (hc : c.Of d) (hc' : c'.Of d) : c = c' := by
  obtain ⟨t, ht, h1, h2, h3, h4, h5, h6, h7⟩ := hc
  obtain ⟨t', ht', h1', h2', h3', h4', h5', h6', h7'⟩ := hc'
  cases ht.symm.trans ht'
  cases c
  cases c'
  simp_all

inductive Checks (py : Interpreter) (sess : String) (d : Dict) :
    Except Exception (Option String) → Prop
  | stops (bad : String) (hbad : OneLine bad) (haccepted : ¬ Accepted py sess d)
      (hfields : ∀ v, firstBad py.fl d = some v → oversized py.fl v = false)
      (hsessions : WellFormed py.fl d → py.isdigit sess = true → ∃ n, py.int sess = .ok n) :
      Checks py sess d (.ok (some bad))
  | passes (hd : WellFormed py.fl d)
      (haccepted : Reads d ("harness_faults", none) 0 → Accepted py sess d)
      (hsessions : py.isdigit sess = true → ∃ n, py.int sess = .ok n) :
      Checks py sess d (.ok none)
  | raises (e : Exception) (h : ¬ Answerable py sess d) : Checks py sess d (.error e)

lemma checks_samples (hd : WellFormed py.fl d)
    (hsessions : py.isdigit sess = true → ∃ n x, py.int sess = .ok n ∧
      d.number "sessions" = .ok x ∧ x.eq (.int n) = true) {q r : ℚ}
    (hpartials : Reads d ("partials", none) q)
    (hsamples : Reads d ("harness_lag_samples", none) r) :
    Checks py sess d (if ((0 : ℤ) : ℚ) < q then
      if r = 0 then .ok (some "no-harness-lag-samples") else .ok none else .ok none) := by
  have hint : py.isdigit sess = true → ∃ n, py.int sess = .ok n :=
    fun h => (hsessions h).imp fun n hn => hn.choose_spec.1
  split_ifs with hpos hzero
  · subst hzero
    refine .stops _ (by simp [OneLine]) ?_ ?_ fun _ => hint
    · intro h
      exact h.2.2.1 q hpartials (by exact_mod_cast hpos) hsamples
    · rw [firstBad_eq_none_iff.mpr hd]
      nofun
  · refine .passes hd (fun hfaults => ⟨hd, hsessions, ?_, hfaults⟩) hint
    intro q' _ _ h
    exact hzero (hsamples.unique h)
  · refine .passes hd (fun hfaults => ⟨hd, hsessions, ?_, hfaults⟩) hint
    intro q' hq' hpos' _
    rw [hq'.unique hpartials] at hpos'
    exact hpos (by exact_mod_cast hpos')

lemma malformed_spec (hpy : Plain py) (hsess : OneLine sess) :
    Checks py sess d (malformed py d sess) := by
  have hstr : ∀ x spec, '\n' ∉ (py.str x spec).toList := hpy.str
  have hscan := scan_required py d
  cases hloop : required.findSomeM? fun (key, fields) => malformedField py d key fields with
  | error e =>
    rw [hloop] at hscan
    obtain ⟨v, hfirst, hsize⟩ := hscan
    rw [malformed, hloop]
    refine .raises e fun h => ?_
    simpa [hsize] using h.fields v hfirst
  | ok r => cases r with
    | some bad =>
      rw [hloop] at hscan
      obtain ⟨hline, v, hfirst, hsize⟩ := hscan
      have hbad : ¬ WellFormed py.fl d := by
        rw [← firstBad_eq_none_iff, firstBad, hfirst]
        rintro ⟨⟩
      rw [malformed, hloop]
      refine .stops bad hline (fun h => hbad h.1) ?_ (fun h => absurd h hbad)
      intro v' hv'
      cases hfirst.symm.trans hv'
      exact hsize
    | none =>
      rw [hloop] at hscan
      have hd : WellFormed py.fl d := fun path hpath => hscan _ (mem_map_of_mem hpath)
      have hfields : ∀ v, firstBad py.fl d = some v → oversized py.fl v = false := by
        rw [firstBad_eq_none_iff.mpr hd]
        rintro _ ⟨⟩
      obtain ⟨x, -, hx, -⟩ := hd.number "sessions"
      obtain ⟨p, q, hp, -, hq, -, hpartials⟩ := hd.number "partials"
      obtain ⟨s, r, hs, -, hr, -, hsamples⟩ := hd.number "harness_lag_samples"
      simp only [malformed, hloop, hx, hp, hs, ok_bind, lt_int_of_value hq, eq_zero_of_value hr,
        decide_eq_true_eq, pure, Except.pure]
      by_cases hdigit : py.isdigit sess = true
      · rw [if_pos hdigit]
        cases hint : py.int sess with
        | error e =>
          refine .raises e fun h => ?_
          obtain ⟨n, hn⟩ := h.sessions hd hdigit
          cases hint.symm.trans hn
        | ok n => cases heq : x.eq (.int n) with
          | false =>
            simp only [heq, ok_bind, Bool.not_false, if_true]
            refine .stops _ ?_ ?_ hfields fun _ _ => ⟨n, hint⟩
            · simp [OneLine, hstr, show '\n' ∉ sess.toList from hsess]
            · rintro ⟨-, h, -⟩
              obtain ⟨n', x', hn', hx', heq'⟩ := h hdigit
              cases hint.symm.trans hn'
              cases hx.symm.trans hx'
              cases heq.symm.trans heq'
          | true =>
            simp only [heq, ok_bind, Bool.not_true, Bool.false_eq_true, if_false]
            exact checks_samples hd (fun _ => ⟨n, x, hint, hx, heq⟩) hpartials hsamples
      · rw [if_neg hdigit]
        exact checks_samples hd (fun h => absurd h hdigit) hpartials hsamples

structure Answers (py : Interpreter) (sess : String) (d : Option Dict) (line : Line) : Prop where
  sessions : line.sessions = sess
  text : OneLine line.text
  pass : line.verdict = .PASS → ∃ d', d = some d' ∧ Passing py d'

lemma oneLine_text (v : Verdict) {rest : String} (hsess : OneLine sess) (hrest : OneLine rest) :
    OneLine (Line.text ⟨sess, v, rest⟩) := by
  have hverdict : OneLine v.text := by cases v <;> simp [OneLine, Verdict.text]
  have hspace : OneLine " " := by simp [OneLine]
  exact (((hsess.append hspace).append hverdict).append hspace).append hrest

lemma exists_rate_of_missedGates {errs p : Number} {gates : List Miss} (hd : WellFormed py.fl d)
    (hp : d.number "partials" = .ok p) (hgates : missedGates py d errs = .ok gates) :
    ∃ rate, errorRate py errs p = .ok rate := by
  obtain ⟨nf, -, -, -, hnf, -⟩ := hd.field "newest_frame_to_partial_latency" "p50_ms"
  obtain ⟨of, -, -, -, hof, -⟩ := hd.field "oldest_frame_to_partial_latency" "p50_ms"
  cases hrate : errorRate py errs p with
  | ok rate => exact ⟨rate, rfl⟩
  | error e =>
    simp only [missedGates, hp, hnf, hof, hrate, ok_bind] at hgates
    cases hgates

lemma evaluate_accepted (hpy : Plain py) (hsess : OneLine sess) (haccepted : Accepted py sess d)
    (hmalformed : malformed py d sess = .ok none) :
    (∃ line, evaluate py sess d = .ok line ∧ Answers py sess (some d) line) ↔
      ∀ c, Counts.Of d c → c.Within py.fl := by
  have hd := haccepted.1
  obtain ⟨c, hc, hchecked, hp⟩ := hd.exists_counts
  have hwithin : (∀ c', Counts.Of d c' → c'.Within py.fl) ↔ c.Within py.fl :=
    ⟨fun h => h c hc, fun h c' hc' => hc.unique hc' ▸ h⟩
  obtain ⟨faults, q, hfaults, -, hq, -, hread⟩ := hd.number "harness_faults"
  obtain rfl : q = 0 := hread.unique haccepted.2.2.2
  have hevaluate : evaluate py sess d = (do
      let errs ← countErrors py d
      let judged ← judge py d (← missedGates py d errs)
      return ⟨sess, judged.1, ← details py d errs judged.2⟩) := by
    simp [evaluate, hmalformed, hfaults, lt_int_of_value hq]
  rw [hwithin, ← c.rate_iff hc hchecked, hevaluate]
  constructor
  · rintro ⟨line, hline, -⟩
    cases herrs : countErrors py d with
    | error e =>
      rw [herrs] at hline
      cases hline
    | ok errs =>
      rw [herrs, ok_bind] at hline
      cases hgates : missedGates py d errs with
      | error e =>
        rw [hgates] at hline
        cases hline
      | ok gates =>
        obtain ⟨rate, hrate⟩ := exists_rate_of_missedGates hd hp hgates
        exact ⟨errs, rate, rfl, hrate⟩
  · rintro ⟨errs, rate, herrs, hrate⟩
    obtain ⟨gates, hgates, hlines, hempty⟩ := missedGates_spec hpy hd hp hrate
    obtain ⟨verdict, texts, hjudge, htexts, hpass⟩ := judge_spec hpy hd hlines
    obtain ⟨rest, hdetails, hrest⟩ := details_spec hpy hd errs htexts
    refine ⟨⟨sess, verdict, rest⟩, ?_, rfl, oneLine_text _ hsess hrest, ?_⟩
    · simp [herrs, hgates, hjudge, hdetails, pure, Except.pure]
    · intro hverdict
      obtain ⟨hnil, hdropped, ⟨q, hpartials, hverified⟩, hlag⟩ := hpass hverdict
      obtain ⟨h1, h2, h3, h4, hlow, hne, hcerr⟩ := hempty hnil
      refine ⟨d, rfl, h1, h2, h3, h4, ⟨errs, c.partials, rate, herrs, hp, ?_, hlow⟩,
        ⟨q, hpartials, ?_, hverified⟩, ?_, hlag⟩
      · rwa [errorRate, if_neg (by simp [hne])] at hrate
      · obtain ⟨p, q', hp', -, hvalue, hnonneg, hread'⟩ := hd.number "partials"
        cases hp.symm.trans hp'
        rw [eq_zero_of_value hvalue, decide_eq_false_iff_not] at hne
        rw [hpartials.unique hread']
        exact lt_of_le_of_ne hnonneg (Ne.symm hne)
      · simp only [forall_mem_cons]
        exact ⟨hcerr, hdropped, haccepted.2.2.2, (by rintro _ ⟨⟩)⟩

theorem evaluate_answers_iff (hpy : Plain py) (hsess : OneLine sess) :
    (∃ line, evaluate py sess d = .ok line ∧ Answers py sess (some d) line) ↔
      Answerable py sess d := by
  have hchecks := malformed_spec (d := d) hpy hsess
  cases hmalformed : malformed py d sess with
  | error e =>
    rw [hmalformed] at hchecks
    cases hchecks with
    | raises _ h =>
      refine iff_of_false ?_ h
      rintro ⟨line, hline, -⟩
      rw [evaluate, hmalformed] at hline
      cases hline
  | ok r =>
    rw [hmalformed] at hchecks
    cases hchecks with
    | stops bad hbad haccepted hfields hsessions =>
      refine iff_of_true ⟨⟨sess, .INVALID, bad⟩, ?_, rfl, oneLine_text _ hsess hbad, (by rintro ⟨⟩)⟩
        ⟨hfields, hsessions, fun h => absurd h haccepted⟩
      rw [evaluate, hmalformed]
      rfl
    | passes hd haccepted hsessions =>
      have hfields : ∀ v, firstBad py.fl d = some v → oversized py.fl v = false := by
        rw [firstBad_eq_none_iff.mpr hd]
        rintro _ ⟨⟩
      obtain ⟨faults, q, hfaults, -, hq, hnonneg, hread⟩ := hd.number "harness_faults"
      by_cases hpos : 0 < q
      · have hno : ¬ Accepted py sess d := by
          intro h
          exact hpos.ne' (hread.unique h.2.2.2)
        refine iff_of_true ⟨⟨sess, .INVALID, "harness_faults=" ++ py.str faults "" ++
            " (session tasks panicked)"⟩, ?_, rfl, oneLine_text _ hsess ?_, (by rintro ⟨⟩)⟩
          ⟨hfields, fun _ => hsessions, fun h => absurd h hno⟩
        · simp [evaluate, hmalformed, hfaults, lt_int_of_value hq, hpos, pure, Except.pure]
        · have hstr : ∀ x spec, '\n' ∉ (py.str x spec).toList := hpy.str
          simp [OneLine, hstr]
      · obtain rfl : q = 0 := le_antisymm (not_lt.mp hpos) hnonneg
        rw [evaluate_accepted hpy hsess (haccepted hread) hmalformed]
        exact ⟨fun h => ⟨hfields, fun _ => hsessions, fun _ => h⟩,
          fun h => h.counts (haccepted hread)⟩


def summary? (py : Interpreter) (stdin : String) : Option Dict :=
  match py.loads (String.ofList (strip stdin.toList)) with
  | .ok (.obj d) => some d
  | _ => none

theorem main_answers_iff (hpy : Plain py) (stdin : String) (hsess : OneLine sess) :
    (∃ line, main py sess stdin = .ok line ∧ Answers py sess (summary? py stdin) line) ↔
      ∀ d, summary? py stdin = some d → Answerable py sess d := by
  have hnoJson {e : String} (he : OneLine e) (r : String) : Answers py sess none
      ⟨sess, .INVALID, "no-json (" ++ e ++ "); raw: " ++ py.repr r⟩ := by
    refine ⟨rfl, oneLine_text _ hsess ?_, Verdict.noConfusion⟩
    have hrepr : '\n' ∉ (py.repr r).toList := hpy.repr r
    simp [OneLine, show '\n' ∉ e.toList from he, hrepr]
  have hnone {P : Dict → Prop} : ∀ d, none = some d → P d := by
    rintro _ ⟨⟩
  rw [main, summary?]
  cases hloads : py.loads (String.ofList (strip stdin.toList)) with
  | error e => exact iff_of_true ⟨_, rfl, hnoJson (hpy.loads _ e hloads) _⟩ hnone
  | ok v => cases v with
    | obj d =>
      simp only [Option.some.injEq, forall_eq']
      exact evaluate_answers_iff hpy hsess
    | _ =>
      have hobject : OneLine "summary is not a JSON object" := by simp [OneLine]
      exact iff_of_true ⟨_, rfl, hnoJson hobject _⟩ hnone

lemma plain_samplePython (text : String) (v : Json) :
    Plain ((samplePython Binary64.nearest).reads text v) := by
  refine ⟨fun x spec => ?_, fun s => ?_, fun raw e he => ?_⟩
  · simp [OneLine, Interpreter.reads, samplePython, Interpreter.str]
  · simp only [OneLine, Interpreter.reads, samplePython, String.toList_append, String.toList_ofList]
    have hne (c : Char) : '\n' ∉ if c = '\n' then ['\\', 'n'] else [c] := by
      split
      · simp
      · simpa using Ne.symm ‹_›
    simp [hne]
  · by_cases h : raw = text
    · rw [h, Interpreter.loads_reads] at he
      cases he
    · cases (if_neg h).symm.trans he
      simp [OneLine]

theorem main_answers_iff_pass :
    ∃ line, main (reading Binary64.nearest 100000 0 0) "1" (summaryText 100000 0 0) = .ok line ∧
      line.verdict = .PASS ∧
      Answers (reading Binary64.nearest 100000 0 0) "1" (some (summaryOf 100000 0 0).json) line := by
  have hloads : summary? (reading Binary64.nearest 100000 0 0) (summaryText 100000 0 0) =
      some (summaryOf 100000 0 0).json := by
    rw [summary?, loads_summaryText]
  have hpass : (evaluate (reading Binary64.nearest 100000 0 0) "1"
      (summaryOf 100000 0 0).json).toOption.map Line.verdict = some .PASS := by
    decide +kernel
  have hfields : firstBad Binary64.nearest (summaryOf 100000 0 0).json = none := by
    rw [← Option.isNone_iff_eq_none]
    decide +kernel
  have hanswer : Answerable (reading Binary64.nearest 100000 0 0) "1"
      (summaryOf 100000 0 0).json := by
    refine ⟨fun v hv => ?_, fun _ _ => ⟨1, rfl⟩, fun _ c hc => ?_⟩
    · cases hfields.symm.trans hv
    · have hcounts : Counts.Of (summaryOf 100000 0 0).json
          ⟨.int 0, .int 0, .int 0, .int 0, .int 0, .int 0, .int 100000⟩ :=
        ⟨_, rfl, rfl, rfl, rfl, rfl, rfl, rfl, rfl⟩
      obtain rfl := hc.unique hcounts
      have hsum : Number.sum Binary64.nearest [.int 0, .int 0, .int 0, .int 0] = .ok (.int 0) := rfl
      have hrate : Binary64.nearest (((0 : ℤ) : ℚ) / ((100000 : ℤ) : ℚ)) = .finite 0 := by
        decide +kernel
      constructor
      · intro pre q post h
        have hmem : Number.float q ∈ pre.map .int ++ .float q :: post := by simp
        rw [← h] at hmem
        simp [Counts.timeouts] at hmem
      · intro t ht n hn
        cases hsum.symm.trans ht
        cases hn
        exact .inr ⟨0, hrate⟩
  have hplain : Plain (reading Binary64.nearest 100000 0 0) := plain_samplePython _ _
  obtain ⟨line, hline, hans⟩ := (main_answers_iff hplain (summaryText 100000 0 0)
    (by simp [OneLine])).mpr fun d hd => Option.some.inj (hloads.symm.trans hd) ▸ hanswer
  rw [main_summaryText] at hline ⊢
  rw [hline] at hpass
  exact ⟨line, hline, Option.some.inj hpass, hloads ▸ hans⟩

lemma evaluate_oversized_sessions {n : ℤ} (hget : d.get "sessions" = some (.num (.int n)))
    (hfits : fits py.fl n = false) : evaluate py sess d = .error .OverflowError := by
  have hnumber : isNumber py (d.get "sessions") = .error .OverflowError := by
    rw [isNumber_eq, hget, oversized, hfits]
    rfl
  simp only [evaluate, malformed, required, List.findSomeM?, malformedField, hnumber,
    isEmpty_nil, if_true]
  rfl

def manySessions : String :=
  "\x7b" ++ ("\"sessions\":1" ++ String.ofList (List.replicate 400 '0')) ++ "\x7d"

theorem main_raises :
    main ((samplePython Binary64.nearest).reads manySessions
      (.obj [("sessions", .num (.int (10 ^ 400)))])) "1" manySessions = .error .OverflowError := by
  have hfits : fits Binary64.nearest (10 ^ 400) = false := by decide +kernel
  have hloads := loads_object (samplePython Binary64.nearest)
    ("\"sessions\":1" ++ String.ofList (List.replicate 400 '0'))
    (.obj [("sessions", .num (.int (10 ^ 400)))])
  rw [main, manySessions]
  simp only [hloads]
  exact evaluate_oversized_sessions rfl hfits

end SttBench.Bench.EvalSlo
