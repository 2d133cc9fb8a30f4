import SttBench.Bench.Analysis
import SttBench.Core.Grouping

/-!
# The capacity of a service

`_slo_points_by_service` and `_slo_capacity_rows`, against the words the report explains.
-/

namespace SttBench.Bench.Analysis

open Python Grouping List
open EvalSlo (samplePython summaryOf)

structure ServiceResult where
  serviceName : String
  serviceLabel : String
  result : AnalysisResult

structure SloPoint where
  serviceName : String
  serviceLabel : String
  sessions : ℤ
  results : List ServiceResult
  representative : ServiceResult
  passes : Bool
  reasons : List Reason
  flushLatenessWarning : Bool

inductive CapacityStatus
  | bounded
  | lowerBound
  | noPass
deriving DecidableEq, Repr

structure CapacityRow where
  serviceName : String
  serviceLabel : String
  status : CapacityStatus
  highestPass : Option SloPoint
  firstFail : Option SloPoint
  limitingReasons : List Reason
  flushLatenessWarning : Bool
  passingPoints : ℕ
  failingPoints : ℕ

def CapacityRow.highestPassingSessions (row : CapacityRow) : Option ℤ :=
  row.highestPass.map (·.sessions)

def CapacityRow.firstFailingSessions (row : CapacityRow) : Option ℤ :=
  row.firstFail.map (·.sessions)

def capacitySortKey (r : ServiceResult) : List ℤ :=
  [r.result.sessions, r.result.measureSecs, r.result.warmupSecs, r.result.repeats]

def sloReasonOrder : List Reason :=
  [.oldestP50, .newestP50, .oldestP95, .newestP95, .protocolErrors, .timeouts, .inferenceErrors,
    .errorRate]

def orderedReasons (reasons : List Reason) : List Reason := sloReasonOrder.filter (· ∈ reasons)

def tupleLt : List Number → List Number → Bool
  | x :: xs, y :: ys => if x.eq y then tupleLt xs ys else x.lt y
  | _, _ => false

section

variable (py : Interpreter) (thresholds : SloThresholds)

def sloResultSortKey (r : ServiceResult) : Except Exception (List Number) := do
  let evaluation ← evaluateSlo py r.result thresholds
  return [
    .int (if evaluation.passes then 0 else 1),
    .int evaluation.reasons.length,
    .int (distinctErrors r.result),
    .float r.result.oldestLatency.p50Ms,
    .float r.result.newestLatency.p50Ms,
    .float r.result.oldestLatency.p95Ms,
    .float r.result.newestLatency.p95Ms,
    .float r.result.flushLateness.p95Ms,
    .int r.result.repeats]

def representativeSloResult (results : List ServiceResult) : Except Exception ServiceResult := do
  match ← results.mapM fun r => return (← sloResultSortKey py thresholds r, r) with
  | [] => .error .ValueError
  | first :: rest =>
    return (rest.foldl (fun best r => if tupleLt best.1 r.1 then r else best) first).2

def sloPoint (g : Group (String × ℤ) ServiceResult) : Except Exception SloPoint := do
  let results := g.members.insertionSort fun r r' => capacitySortKey r ≤ capacitySortKey r'
  let evaluations ← results.mapM fun r => evaluateSlo py r.result thresholds
  let representative ← representativeSloResult py thresholds results
  return {
    serviceName := (results.headD g.first).serviceName
    serviceLabel := g.key.1
    sessions := g.key.2
    results
    representative
    passes := evaluations.all (·.passes)
    reasons := orderedReasons (evaluations.flatMap (·.reasons))
    flushLatenessWarning := evaluations.any (·.flushLatenessWarning) }

def KeyLe (g g' : Group (String × ℤ) ServiceResult) : Prop :=
  g.key.1 < g'.key.1 ∨ g.key.1 = g'.key.1 ∧ g.key.2 ≤ g'.key.2

instance : DecidableRel KeyLe := fun _ _ => inferInstanceAs (Decidable (_ ∨ _))

def sloPointsByService (results : List ServiceResult) :
    Except Exception (List (Group String SloPoint)) := do
  let grouped := groupBy (fun r => (r.serviceLabel, r.result.sessions)) results
  let points ← (grouped.insertionSort KeyLe).mapM (sloPoint py thresholds)
  return groupBy (·.serviceLabel) points

def servicePoints (g : Group String SloPoint) : List SloPoint :=
  g.members.insertionSort fun p p' => p.sessions ≤ p'.sessions

def passingPoints (g : Group String SloPoint) : List SloPoint :=
  (servicePoints g).filter fun p => p.passes

def failingPoints (g : Group String SloPoint) : List SloPoint :=
  (servicePoints g).filter fun p => !p.passes

def highestPass (g : Group String SloPoint) : Option SloPoint := (passingPoints g).getLast?

def firstFail (g : Group String SloPoint) : Option SloPoint :=
  match highestPass g with
  | none => (failingPoints g).head?
  | some highest => (failingPoints g).find? fun p => highest.sessions < p.sessions

def capacityRow (g : Group String SloPoint) : CapacityRow where
  serviceName := ((servicePoints g).headD g.first).serviceName
  serviceLabel := g.key
  status :=
    match highestPass g with
    | none => .noPass
    | some _ => if (firstFail g).isSome then .bounded else .lowerBound
  highestPass := highestPass g
  firstFail := firstFail g
  limitingReasons :=
    match firstFail g with
    | some p => orderedReasons p.reasons
    | none => []
  flushLatenessWarning := (servicePoints g).any (·.flushLatenessWarning)
  passingPoints := (passingPoints g).length
  failingPoints := (failingPoints g).length

def sloCapacityRows (results : List ServiceResult) : Except Exception (List CapacityRow) := do
  return (← sloPointsByService py thresholds results).map capacityRow

/-! ## What a row is meant to say -/

def Meets (r : ServiceResult) : Prop :=
  ∃ evaluation, evaluateSlo py r.result thresholds = .ok evaluation ∧ evaluation.passes = true

variable (results : List ServiceResult) (label : String)

def Passed (n : ℤ) : Prop :=
  (∃ r ∈ results, r.serviceLabel = label ∧ r.result.sessions = n) ∧
    ∀ r ∈ results, r.serviceLabel = label → r.result.sessions = n → Meets py thresholds r

def Failed (n : ℤ) : Prop :=
  ∃ r ∈ results, r.serviceLabel = label ∧ r.result.sessions = n ∧ ¬ Meets py thresholds r

structure Documented (row : CapacityRow) : Prop where
  bounded_iff : row.status = .bounded ↔
    ∃ n m, Passed py thresholds results row.serviceLabel n ∧
      Failed py thresholds results row.serviceLabel m ∧ n < m
  lowerBound_iff : row.status = .lowerBound ↔
    (∃ n, Passed py thresholds results row.serviceLabel n) ∧
      ¬ ∃ m, Failed py thresholds results row.serviceLabel m
  noPass_iff : row.status = .noPass ↔
    ¬ ∃ n, Passed py thresholds results row.serviceLabel n
  highest_iff : ∀ n, row.highestPassingSessions = some n ↔
    IsGreatest {n | Passed py thresholds results row.serviceLabel n} n
  first_of_bounded : row.status = .bounded → ∀ n, row.highestPassingSessions = some n →
    ∃ m, row.firstFailingSessions = some m ∧
      IsLeast {m | Failed py thresholds results row.serviceLabel m ∧ n < m} m

end

/-! ## The row of the points of a service -/

section Sorted

variable {α : Type} {f : α → ℤ} {l : List α} {a : α}

lemma getLast?_of_sorted (h : l.Pairwise fun a b => f a ≤ f b) (ha : l.getLast? = some a) :
    a ∈ l ∧ ∀ b ∈ l, f b ≤ f a := by
  obtain ⟨l', rfl⟩ := List.getLast?_eq_some_iff.mp ha
  refine ⟨by simp, fun b hb => ?_⟩
  obtain hb | hb := mem_append.mp hb
  · exact (pairwise_append.mp h).2.2 b hb a (mem_singleton_self a)
  · rw [mem_singleton.mp hb]

lemma find?_of_sorted (h : l.Pairwise fun a b => f a ≤ f b) {p : α → Bool}
    (ha : l.find? p = some a) : a ∈ l ∧ p a = true ∧ ∀ b ∈ l, p b = true → f a ≤ f b := by
  obtain ⟨hp, before, after, rfl, hbefore⟩ := List.find?_eq_some_iff_append.mp ha
  refine ⟨by simp, hp, fun b hb hpb => ?_⟩
  obtain hb | hb := mem_append.mp hb
  · simpa [hpb] using hbefore b hb
  · obtain rfl | hb := mem_cons.mp hb
    · exact le_rfl
    · exact (pairwise_cons.mp (pairwise_append.mp h).2.1).1 b hb

end Sorted

instance : Std.Total fun p p' : SloPoint => p.sessions ≤ p'.sessions :=
  ⟨fun p p' => le_total p.sessions p'.sessions⟩

instance : IsTrans SloPoint fun p p' => p.sessions ≤ p'.sessions :=
  ⟨fun _ _ _ => le_trans⟩

section Row

variable {g : Group String SloPoint} {n m : ℤ}

def PassedAt (g : Group String SloPoint) (n : ℤ) : Prop :=
  ∃ p ∈ g.members, p.passes = true ∧ p.sessions = n

def FailedAt (g : Group String SloPoint) (n : ℤ) : Prop :=
  ∃ p ∈ g.members, p.passes = false ∧ p.sessions = n

lemma sorted_servicePoints (g : Group String SloPoint) :
    (servicePoints g).Pairwise fun p p' => p.sessions ≤ p'.sessions :=
  pairwise_insertionSort _ _

lemma mem_passingPoints {p : SloPoint} :
    p ∈ passingPoints g ↔ p ∈ g.members ∧ p.passes = true := by
  rw [passingPoints, mem_filter, servicePoints, mem_insertionSort]

lemma mem_failingPoints {p : SloPoint} :
    p ∈ failingPoints g ↔ p ∈ g.members ∧ p.passes = false := by
  rw [failingPoints, mem_filter, servicePoints, mem_insertionSort, Bool.not_eq_true']

lemma highestPass_eq_none (h : highestPass g = none) : ¬ ∃ n, PassedAt g n := by
  rintro ⟨n, p, hp, hpasses, -⟩
  have hmem : p ∈ passingPoints g := mem_passingPoints.mpr ⟨hp, hpasses⟩
  rw [List.getLast?_eq_none_iff.mp h] at hmem
  exact not_mem_nil hmem

lemma highestPass_eq_some {p : SloPoint} (h : highestPass g = some p) :
    IsGreatest {n | PassedAt g n} p.sessions := by
  obtain ⟨hp, hmax⟩ := getLast?_of_sorted ((sorted_servicePoints g).filter _) h
  obtain ⟨hmem, hpasses⟩ := mem_passingPoints.mp hp
  refine ⟨⟨p, hmem, hpasses, rfl⟩, ?_⟩
  rintro n ⟨p', hp', hpasses', rfl⟩
  exact hmax p' (mem_passingPoints.mpr ⟨hp', hpasses'⟩)

lemma firstFail_eq_none {p : SloPoint} (hp : highestPass g = some p) (h : firstFail g = none) :
    ¬ ∃ m, FailedAt g m ∧ p.sessions < m := by
  rintro ⟨m, ⟨p', hp', hfails, rfl⟩, hlt⟩
  simp only [firstFail, hp, List.find?_eq_none, decide_eq_true_eq] at h
  exact h p' (mem_failingPoints.mpr ⟨hp', hfails⟩) hlt

lemma firstFail_eq_some {p q : SloPoint} (hp : highestPass g = some p)
    (h : firstFail g = some q) : IsLeast {m | FailedAt g m ∧ p.sessions < m} q.sessions := by
  simp only [firstFail, hp] at h
  obtain ⟨hq, hlt, hmin⟩ := find?_of_sorted ((sorted_servicePoints g).filter _) h
  obtain ⟨hmem, hfails⟩ := mem_failingPoints.mp hq
  refine ⟨⟨⟨q, hmem, hfails, rfl⟩, of_decide_eq_true hlt⟩, ?_⟩
  rintro m ⟨⟨q', hq', hfails', rfl⟩, hlt'⟩
  exact hmin q' (mem_failingPoints.mpr ⟨hq', hfails'⟩) (decide_eq_true hlt')

end Row

/-! ## The points of the results -/

section Points

variable {py : Interpreter} {thresholds : SloThresholds} {results : List ServiceResult}

lemma sloPoint_eq_ok {gg : Group (String × ℤ) ServiceResult} {p : SloPoint}
    (h : sloPoint py thresholds gg = .ok p) :
    p.serviceLabel = gg.key.1 ∧ p.sessions = gg.key.2 ∧
      (p.passes = true ↔ ∀ r ∈ gg.members, Meets py thresholds r) := by
  obtain ⟨evaluations, hevaluations, h⟩ := bind_eq_ok h
  obtain ⟨representative, -, h⟩ := bind_eq_ok h
  cases h
  refine ⟨rfl, rfl, ?_⟩
  rw [all_eq_true]
  constructor
  · intro hall r hr
    obtain ⟨evaluation, hmem, hr⟩ :=
      exists_of_mapM_eq_ok hevaluations ((mem_insertionSort _).mpr hr)
    exact ⟨evaluation, hr, hall evaluation hmem⟩
  · intro hall evaluation hmem
    obtain ⟨r, hr, hevaluation⟩ := (mem_of_mapM_eq_ok hevaluations).mp hmem
    obtain ⟨evaluation', hevaluation', hpasses⟩ := hall r ((mem_insertionSort _).mp hr)
    cases hevaluation.symm.trans hevaluation'
    exact hpasses

lemma representativeSloResult_eq_error {e : Exception}
    (h : representativeSloResult py thresholds results = .error e) :
    results = [] ∨ ∃ r ∈ results, evaluateSlo py r.result thresholds = .error e := by
  obtain h | ⟨keyed, hkeyed, h⟩ := bind_eq_error h
  · obtain ⟨r, hr, h⟩ := exists_of_mapM_eq_error h
    obtain h | ⟨key, -, h⟩ := bind_eq_error h
    · obtain h | ⟨evaluation, -, h⟩ := bind_eq_error h
      · exact .inr ⟨r, hr, h⟩
      · cases h
    · cases h
  · cases keyed with
    | nil =>
      have hlength := (mapM_eq_ok_iff.mp hkeyed).length_eq
      exact .inl (length_eq_zero_iff.mp hlength)
    | cons first rest => cases h

lemma sloPoint_eq_error {gg : Group (String × ℤ) ServiceResult} {e : Exception}
    (h : sloPoint py thresholds gg = .error e) :
    ∃ r ∈ gg.members, evaluateSlo py r.result thresholds = .error e := by
  obtain h | ⟨evaluations, -, h⟩ := bind_eq_error h
  · obtain ⟨r, hr, h⟩ := exists_of_mapM_eq_error h
    exact ⟨r, (mem_insertionSort _).mp hr, h⟩
  · obtain h | ⟨representative, -, h⟩ := bind_eq_error h
    · obtain hnil | ⟨r, hr, h⟩ := representativeSloResult_eq_error h
      · have hlength := length_insertionSort
          (fun r r' => capacitySortKey r ≤ capacitySortKey r') gg.members
        rw [hnil] at hlength
        cases hlength
      · exact ⟨r, (mem_insertionSort _).mp hr, h⟩
    · cases h

lemma sloPointsByService_eq_ok {groups : List (Group String SloPoint)}
    (h : sloPointsByService py thresholds results = .ok groups) :
    ∃ points, groups = groupBy (·.serviceLabel) points ∧
      (∀ p ∈ points, ∃ gg ∈ groupBy (fun r => (r.serviceLabel, r.result.sessions)) results,
        sloPoint py thresholds gg = .ok p) ∧
      ∀ gg ∈ groupBy (fun r => (r.serviceLabel, r.result.sessions)) results,
        ∃ p ∈ points, sloPoint py thresholds gg = .ok p := by
  obtain ⟨points, hpoints, h⟩ := bind_eq_ok h
  refine ⟨points, (Except.ok.inj h).symm, fun p hp => ?_, fun gg hgg => ?_⟩
  · obtain ⟨gg, hgg, hp⟩ := (mem_of_mapM_eq_ok hpoints).mp hp
    exact ⟨gg, (mem_insertionSort _).mp hgg, hp⟩
  · exact exists_of_mapM_eq_ok hpoints ((mem_insertionSort _).mpr hgg)

variable {groups : List (Group String SloPoint)} {g : Group String SloPoint} {n : ℤ}

lemma exists_point (h : sloPointsByService py thresholds results = .ok groups) (hg : g ∈ groups)
    {r : ServiceResult} (hr : r ∈ results) (hlabel : r.serviceLabel = g.key) :
    ∃ p ∈ g.members, p.sessions = r.result.sessions ∧
      (p.passes = true ↔ ∀ r' ∈ results, r'.serviceLabel = g.key →
        r'.result.sessions = r.result.sessions → Meets py thresholds r') := by
  obtain ⟨points, rfl, -, hpoints⟩ := sloPointsByService_eq_ok h
  obtain ⟨gg, hgg, hkey⟩ :
      ∃ gg ∈ groupBy (fun r => (r.serviceLabel, r.result.sessions)) results,
        gg.key = (r.serviceLabel, r.result.sessions) := exists_mem_groupBy hr
  obtain ⟨p, hp, hpoint⟩ := hpoints gg hgg
  obtain ⟨hplabel, hsessions, hpasses⟩ := sloPoint_eq_ok hpoint
  rw [hkey] at hplabel hsessions
  refine ⟨p, (mem_members hg).mpr ⟨hp, hplabel.trans hlabel⟩, hsessions, hpasses.trans ?_⟩
  simp [mem_members hgg, hkey, hlabel]

lemma exists_result (h : sloPointsByService py thresholds results = .ok groups) (hg : g ∈ groups)
    {p : SloPoint} (hp : p ∈ g.members) :
    ∃ r ∈ results, r.serviceLabel = g.key ∧ r.result.sessions = p.sessions ∧
      (p.passes = true ↔ ∀ r' ∈ results, r'.serviceLabel = g.key →
        r'.result.sessions = p.sessions → Meets py thresholds r') := by
  obtain ⟨points, rfl, hpoints, -⟩ := sloPointsByService_eq_ok h
  obtain ⟨hp, hplabel⟩ := (mem_members hg).mp hp
  obtain ⟨gg, hgg, hpoint⟩ := hpoints p hp
  obtain ⟨hplabel', hsessions, hpasses⟩ := sloPoint_eq_ok hpoint
  have hkey : gg.key = (g.key, p.sessions) := Prod.ext (hplabel'.symm.trans hplabel) hsessions.symm
  obtain ⟨hr, hrkey⟩ := (mem_members hgg).mp (mem_cons_self : gg.first ∈ gg.members)
  rw [hkey, Prod.mk.injEq] at hrkey
  refine ⟨gg.first, hr, hrkey.1, hrkey.2, hpasses.trans ?_⟩
  simp [mem_members hgg, hkey]

lemma passedAt_eq (h : sloPointsByService py thresholds results = .ok groups) (hg : g ∈ groups) :
    PassedAt g = Passed py thresholds results g.key := by
  funext n
  refine propext ⟨?_, ?_⟩
  · rintro ⟨p, hp, hpasses, rfl⟩
    obtain ⟨r, hr, hlabel, hsessions, hiff⟩ := exists_result h hg hp
    exact ⟨⟨r, hr, hlabel, hsessions⟩, hiff.mp hpasses⟩
  · rintro ⟨⟨r, hr, hlabel, rfl⟩, hall⟩
    obtain ⟨p, hp, hsessions, hiff⟩ := exists_point h hg hr hlabel
    exact ⟨p, hp, hiff.mpr hall, hsessions⟩

lemma failedAt_eq (h : sloPointsByService py thresholds results = .ok groups) (hg : g ∈ groups) :
    FailedAt g = Failed py thresholds results g.key := by
  funext n
  refine propext ⟨?_, ?_⟩
  · rintro ⟨p, hp, hfails, rfl⟩
    obtain ⟨-, -, -, -, hiff⟩ := exists_result h hg hp
    simpa only [not_forall, exists_prop, Failed] using mt hiff.mpr (by simp [hfails])
  · rintro ⟨r, hr, hlabel, rfl, hfails⟩
    obtain ⟨p, hp, hsessions, hiff⟩ := exists_point h hg hr hlabel
    refine ⟨p, hp, ?_, hsessions⟩
    rw [← Bool.not_eq_true, hiff]
    exact fun hall => hfails (hall r hr hlabel rfl)

lemma sloPointsByService_eq_error {e : Exception}
    (h : sloPointsByService py thresholds results = .error e) :
    ∃ r ∈ results, evaluateSlo py r.result thresholds = .error e := by
  obtain h | ⟨points, -, h⟩ := bind_eq_error h
  · obtain ⟨gg, hgg, h⟩ := exists_of_mapM_eq_error h
    obtain ⟨r, hr, h⟩ := sloPoint_eq_error h
    exact ⟨r, ((mem_members ((mem_insertionSort _).mp hgg)).mp hr).1, h⟩
  · cases h

lemma mem_keys_iff (h : sloPointsByService py thresholds results = .ok groups) (label : String) :
    label ∈ groups.map Group.key ↔ ∃ r ∈ results, r.serviceLabel = label := by
  rw [mem_map]
  constructor
  · rintro ⟨g, hg, rfl⟩
    obtain ⟨r, hr, hlabel, -⟩ := exists_result h hg (mem_cons_self : g.first ∈ g.members)
    exact ⟨r, hr, hlabel⟩
  · rintro ⟨r, hr, rfl⟩
    obtain ⟨points, rfl, -, hpoints⟩ := sloPointsByService_eq_ok h
    obtain ⟨gg, hgg, hkey⟩ :
        ∃ gg ∈ groupBy (fun r => (r.serviceLabel, r.result.sessions)) results,
          gg.key = (r.serviceLabel, r.result.sessions) := exists_mem_groupBy hr
    obtain ⟨p, hp, hpoint⟩ := hpoints gg hgg
    obtain ⟨g, hg, hlabel⟩ : ∃ g ∈ groupBy (·.serviceLabel) points, g.key = p.serviceLabel :=
      exists_mem_groupBy hp
    exact ⟨g, hg, by rw [hlabel, (sloPoint_eq_ok hpoint).1, hkey]⟩

end Points

/-! ## When a row means what it says -/

section Documented

variable {py : Interpreter} {thresholds : SloThresholds} {results : List ServiceResult}
  {g : Group String SloPoint}

def FailsAbove (py : Interpreter) (thresholds : SloThresholds) (results : List ServiceResult)
    (label : String) : Prop :=
  (∃ n, Passed py thresholds results label n) → (∃ m, Failed py thresholds results label m) →
    ∃ m, Failed py thresholds results label m ∧ ∀ n, Passed py thresholds results label n → n < m

section Row

variable (hpassed : PassedAt g = Passed py thresholds results g.key)
  (hfailed : FailedAt g = Failed py thresholds results g.key) {p q : SloPoint}
include hpassed

lemma documented_of_highestPass_eq_none (hp : highestPass g = none) :
    Documented py thresholds results (capacityRow g) := by
  have hnone : ¬ ∃ n, Passed py thresholds results g.key n := hpassed ▸ highestPass_eq_none hp
  have hstatus : (capacityRow g).status = .noPass := by simp only [capacityRow, hp]
  have hhighest : (capacityRow g).highestPassingSessions = none := congrArg (Option.map _) hp
  refine ⟨?_, ?_, ?_, ?_, ?_⟩
  · exact iff_of_false (by simp [hstatus]) fun ⟨n, _, hn, _⟩ => hnone ⟨n, hn⟩
  · exact iff_of_false (by simp [hstatus]) fun h => hnone h.1
  · exact iff_of_true hstatus hnone
  · intro n
    exact iff_of_false (by simp [hhighest]) fun h => hnone ⟨n, h.1⟩
  · intro h
    simp [hstatus] at h

lemma isGreatest_highestPass (hp : highestPass g = some p) :
    IsGreatest {n | Passed py thresholds results g.key n} p.sessions :=
  hpassed ▸ highestPass_eq_some hp

lemma highestPassingSessions_iff (hp : highestPass g = some p) (n : ℤ) :
    (capacityRow g).highestPassingSessions = some n ↔
      IsGreatest {n | Passed py thresholds results g.key n} n := by
  have hmax := isGreatest_highestPass hpassed hp
  have hhighest : (capacityRow g).highestPassingSessions = some p.sessions :=
    congrArg (Option.map _) hp
  rw [hhighest, Option.some.injEq]
  constructor
  · rintro rfl
    exact hmax
  · exact hmax.unique

lemma documented_iff_of_firstFail_eq_none (hp : highestPass g = some p)
    (hq : firstFail g = none) :
    Documented py thresholds results (capacityRow g) ↔
      ¬ ∃ m, Failed py thresholds results g.key m := by
  have hsome : ∃ n, Passed py thresholds results g.key n :=
    ⟨p.sessions, (isGreatest_highestPass hpassed hp).1⟩
  have hstatus : (capacityRow g).status = .lowerBound := by simp [capacityRow, hp, hq]
  constructor
  · intro h
    exact (h.lowerBound_iff.mp hstatus).2
  · intro hfail
    refine ⟨?_, ?_, ?_, highestPassingSessions_iff hpassed hp, ?_⟩
    · exact iff_of_false (by simp [hstatus]) fun ⟨_, m, _, hm, _⟩ => hfail ⟨m, hm⟩
    · exact iff_of_true hstatus ⟨hsome, hfail⟩
    · exact iff_of_false (by simp [hstatus]) fun h => h hsome
    · intro h
      simp [hstatus] at h

include hfailed

lemma documented_of_firstFail_eq_some (hp : highestPass g = some p) (hq : firstFail g = some q) :
    Documented py thresholds results (capacityRow g) := by
  have hmax := isGreatest_highestPass hpassed hp
  have hmin : IsLeast {m | Failed py thresholds results g.key m ∧ p.sessions < m} q.sessions :=
    hfailed ▸ firstFail_eq_some hp hq
  have hhighest : (capacityRow g).highestPassingSessions = some p.sessions :=
    congrArg (Option.map _) hp
  have hstatus : (capacityRow g).status = .bounded := by simp [capacityRow, hp, hq]
  refine ⟨?_, ?_, ?_, highestPassingSessions_iff hpassed hp, ?_⟩
  · exact iff_of_true hstatus ⟨p.sessions, q.sessions, hmax.1, hmin.1.1, hmin.1.2⟩
  · exact iff_of_false (by simp [hstatus]) fun h => h.2 ⟨q.sessions, hmin.1.1⟩
  · exact iff_of_false (by simp [hstatus]) fun h => h ⟨p.sessions, hmax.1⟩
  · intro _ n hn
    cases hhighest.symm.trans hn
    exact ⟨q.sessions, congrArg (Option.map _) hq, hmin⟩

lemma documented_capacityRow_iff :
    Documented py thresholds results (capacityRow g) ↔
      FailsAbove py thresholds results g.key := by
  cases hp : highestPass g with
  | none =>
    have hnone : ¬ ∃ n, Passed py thresholds results g.key n := hpassed ▸ highestPass_eq_none hp
    exact iff_of_true (documented_of_highestPass_eq_none hpassed hp) fun h => absurd h hnone
  | some p =>
    have hmax := isGreatest_highestPass hpassed hp
    cases hq : firstFail g with
    | none =>
      have hnone : ¬ ∃ m, Failed py thresholds results g.key m ∧ p.sessions < m :=
        hfailed ▸ firstFail_eq_none hp hq
      rw [documented_iff_of_firstFail_eq_none hpassed hp hq]
      constructor
      · intro h _ hfail
        exact absurd hfail h
      · intro habove hfail
        obtain ⟨m, hm, hlt⟩ := habove ⟨p.sessions, hmax.1⟩ hfail
        exact hnone ⟨m, hm, hlt _ hmax.1⟩
    | some q =>
      have hmin : IsLeast {m | Failed py thresholds results g.key m ∧ p.sessions < m}
          q.sessions := hfailed ▸ firstFail_eq_some hp hq
      obtain ⟨hfails, hlt⟩ := hmin.1
      exact iff_of_true (documented_of_firstFail_eq_some hpassed hfailed hp hq) fun _ _ =>
        ⟨q.sessions, hfails, fun n hn => (hmax.2 hn).trans_lt hlt⟩

end Row

end Documented

theorem capacity_documented_iff (py : Interpreter) (thresholds : SloThresholds)
    (results : List ServiceResult) :
    match sloCapacityRows py thresholds results with
    | .error e => ∃ r ∈ results, evaluateSlo py r.result thresholds = .error e
    | .ok rows =>
      (rows.map (·.serviceLabel)).Nodup ∧
      (∀ label, label ∈ rows.map (·.serviceLabel) ↔ ∃ r ∈ results, r.serviceLabel = label) ∧
      ∀ row ∈ rows, Documented py thresholds results row ↔
        FailsAbove py thresholds results row.serviceLabel := by
  cases hrows : sloCapacityRows py thresholds results with
  | error e =>
    obtain h | ⟨groups, -, h⟩ := bind_eq_error hrows
    · exact sloPointsByService_eq_error h
    · cases h
  | ok rows =>
    obtain ⟨groups, hgroups, h⟩ := bind_eq_ok hrows
    cases h
    have hlabels : (groups.map capacityRow).map (·.serviceLabel) = groups.map Group.key := by
      rw [map_map]
      rfl
    refine ⟨?_, ?_, ?_⟩
    · obtain ⟨points, rfl, -⟩ := sloPointsByService_eq_ok hgroups
      rw [hlabels]
      exact nodup_keys_groupBy _ _
    · intro label
      rw [hlabels]
      exact mem_keys_iff hgroups label
    · intro row hrow
      obtain ⟨g, hg, rfl⟩ := mem_map.mp hrow
      exact documented_capacityRow_iff (passedAt_eq hgroups hg) (failedAt_eq hgroups hg)

def observedResult (sessions : ℤ) (protocolErrors : ℕ) : ServiceResult where
  serviceName := "go-nethttp"
  serviceLabel := "go-nethttp"
  result := { resultOf (summaryOf 1 protocolErrors 0) with sessions }

theorem failing_count_not_reported :
    ∃ row,
      sloCapacityRows (samplePython .finite) (balancedRealtime (.finite 0))
        [observedResult 100 1, observedResult 200 0] = .ok [row] ∧
      row.status = .lowerBound ∧
      Failed (samplePython .finite) (balancedRealtime (.finite 0))
        [observedResult 100 1, observedResult 200 0] row.serviceLabel 100 ∧
      ¬ Documented (samplePython .finite) (balancedRealtime (.finite 0))
        [observedResult 100 1, observedResult 200 0] row := by
  have hrows : (sloCapacityRows (samplePython .finite) (balancedRealtime (.finite 0))
      [observedResult 100 1, observedResult 200 0]).map
        (·.map fun row => (row.status, row.serviceLabel)) =
      .ok [(.lowerBound, "go-nethttp")] := by
    decide +kernel
  have hfails : (evaluateSlo (samplePython .finite) (observedResult 100 1).result
      (balancedRealtime (.finite 0))).map (·.passes) = .ok false := by
    decide +kernel
  have hfailed : Failed (samplePython .finite) (balancedRealtime (.finite 0))
      [observedResult 100 1, observedResult 200 0] "go-nethttp" 100 := by
    refine ⟨observedResult 100 1, mem_cons_self, rfl, rfl, ?_⟩
    rintro ⟨evaluation, hevaluation, hpasses⟩
    rw [hevaluation] at hfails
    exact absurd (hpasses.symm.trans (Except.ok.inj hfails)) (by decide)
  cases h : sloCapacityRows (samplePython .finite) (balancedRealtime (.finite 0))
      [observedResult 100 1, observedResult 200 0] with
  | error e =>
    rw [h] at hrows
    cases hrows
  | ok rows =>
    rw [h] at hrows
    obtain ⟨row, rfl, hrow⟩ := map_eq_singleton_iff.mp (Except.ok.inj hrows)
    obtain ⟨hstatus, hlabel⟩ := Prod.mk.injEq _ _ _ _ ▸ hrow
    rw [← hlabel] at hfailed
    exact ⟨row, rfl, hstatus, hfailed, fun hdoc =>
      (hdoc.lowerBound_iff.mp hstatus).2 ⟨100, hfailed⟩⟩

end SttBench.Bench.Analysis
