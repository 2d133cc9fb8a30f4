import SttBench.Bench.EvalSlo

/-!
# One point of a sweep

`Sweep.point`, which measures a point that is INVALID once more.
-/

namespace SttBench.Bench

open Python

inductive Outcome
  | pass
  | fail
  | invalid
deriving DecidableEq, Repr

structure Health where
  ready : Bool
  restarts : ℕ
  lastReason : Option String
  node : Option String
deriving DecidableEq

structure Attempt where
  before : Option Health
  out : List Char
  after : Option Health

namespace Attempt

def line (a : Attempt) : List Char :=
  ((splitlines (strip a.out)).getLast?).getD "<no output>".toList

def restarted (a : Attempt) : Bool :=
  match a.before, a.after with
  | some before, some after => after.restarts ≠ before.restarts
  | _, _ => true

def oom (a : Attempt) : Bool :=
  a.restarted && a.after.any fun after => after.lastReason = some "OOMKilled"

end Attempt

section

variable (isWord : Char → Bool)

def boundary : List Char → Bool
  | [] => true
  | c :: _ => !isWord c

def matchesVerdict (n : ℕ) (word : String) (line : List Char) : Bool :=
  let start := (toString n).toList ++ ' ' :: word.toList
  start.isPrefixOf line && boundary isWord (line.drop start.length)

def judgeAttempt (n : ℕ) (a : Attempt) : Outcome :=
  let ok := matchesVerdict isWord n "PASS" a.line && !a.oom
  let restarted := a.restarted && !a.oom
  let harness := matchesVerdict isWord n "INVALID" a.line
  if restarted || harness then .invalid else if ok then .pass else .fail

def point (n : ℕ) (first second : Attempt) : Outcome × ℕ :=
  match judgeAttempt isWord n first with
  | .invalid => (judgeAttempt isWord n second, 2)
  | outcome => (outcome, 1)

end

/-! ## What counts against the gateway -/

section

variable {isWord : Char → Bool} {n : ℕ}

def Attempt.hasVerdict (isWord : Char → Bool) (n : ℕ) (a : Attempt) : Bool :=
  matchesVerdict isWord n "PASS" a.line || matchesVerdict isWord n "FAIL" a.line ||
    matchesVerdict isWord n "INVALID" a.line

structure FairTo (isWord : Char → Bool) (n : ℕ) (first second : Attempt) : Prop where
  fail_first : point isWord n first second = (.fail, 1) →
    matchesVerdict isWord n "FAIL" first.line = true ∨ first.oom = true
  fail_second : point isWord n first second = (.fail, 2) →
    matchesVerdict isWord n "FAIL" second.line = true ∨ second.oom = true
  retried : first.hasVerdict isWord n = false → first.oom = false →
    (point isWord n first second).2 = 2
  invalid : (point isWord n first second).2 = 2 → second.hasVerdict isWord n = false →
    second.oom = false → (point isWord n first second).1 = .invalid

def Attempt.Recognized (isWord : Char → Bool) (n : ℕ) (a : Attempt) : Prop :=
  a.hasVerdict isWord n = true ∨ a.restarted = true

def Attempt.Inconclusive (isWord : Char → Bool) (n : ℕ) (a : Attempt) : Prop :=
  a.restarted = true ∧ a.oom = false ∨ matchesVerdict isWord n "INVALID" a.line = true

lemma judgeAttempt_eq_invalid_iff (a : Attempt) :
    judgeAttempt isWord n a = .invalid ↔ a.Inconclusive isWord n := by
  simp only [judgeAttempt, Attempt.Inconclusive, ← Bool.not_eq_true']
  split_ifs with hinvalid hok <;> simpa using hinvalid

lemma fail_of_recognized {a : Attempt} (ha : a.Recognized isWord n)
    (hfail : judgeAttempt isWord n a = .fail) :
    matchesVerdict isWord n "FAIL" a.line = true ∨ a.oom = true := by
  cases hoom : a.oom with
  | true => exact .inr rfl
  | false =>
    simp only [judgeAttempt, hoom, Bool.not_false, Bool.and_true] at hfail
    split_ifs at hfail with hinvalid hok
    simp only [Bool.or_eq_true, not_or, Bool.not_eq_true] at hinvalid
    simpa [Attempt.Recognized, Attempt.hasVerdict, hinvalid, hok] using ha

lemma fail_of_not_recognized {a : Attempt} (ha : ¬ a.Recognized isWord n) :
    judgeAttempt isWord n a = .fail ∧ a.hasVerdict isWord n = false ∧ a.oom = false := by
  simp only [Attempt.Recognized, not_or, Bool.not_eq_true] at ha
  obtain ⟨hverdict, hrestarted⟩ := ha
  have hoom : a.oom = false := by simp [Attempt.oom, hrestarted]
  refine ⟨?_, hverdict, hoom⟩
  simp only [Attempt.hasVerdict, Bool.or_eq_false_iff] at hverdict
  simp [judgeAttempt, hrestarted, hverdict]

lemma point_of_inconclusive {first : Attempt} (second : Attempt)
    (h : first.Inconclusive isWord n) :
    point isWord n first second = (judgeAttempt isWord n second, 2) := by
  rw [point, (judgeAttempt_eq_invalid_iff first).mpr h]

lemma point_of_not_inconclusive {first : Attempt} (second : Attempt)
    (h : ¬ first.Inconclusive isWord n) :
    point isWord n first second = (judgeAttempt isWord n first, 1) := by
  rw [← judgeAttempt_eq_invalid_iff] at h
  unfold point
  split
  · contradiction
  · rfl

theorem point_fair_iff (first second : Attempt) :
    FairTo isWord n first second ↔
      first.Recognized isWord n ∧
        (first.Inconclusive isWord n → second.Recognized isWord n) := by
  constructor
  · intro h
    constructor
    · by_contra hfirst
      obtain ⟨hfail, hverdict, hoom⟩ := fail_of_not_recognized hfirst
      have hretried := h.retried hverdict hoom
      simp [point, hfail] at hretried
    · intro hinc
      by_contra hsecond
      obtain ⟨hfail, hverdict, hoom⟩ := fail_of_not_recognized hsecond
      have hpoint := point_of_inconclusive second hinc
      have hinvalid := h.invalid (by rw [hpoint]) hverdict hoom
      rw [hpoint, hfail] at hinvalid
      cases hinvalid
  · rintro ⟨hfirst, hsecond⟩
    by_cases hinc : first.Inconclusive isWord n
    · have hpoint := point_of_inconclusive second hinc
      refine ⟨?_, ?_, fun _ _ => by rw [hpoint], ?_⟩
      · intro hfail
        simp [hpoint] at hfail
      · intro hfail
        rw [hpoint] at hfail
        exact fail_of_recognized (hsecond hinc) (Prod.mk.inj hfail).1
      · intro _ hverdict hoom
        rw [hpoint, judgeAttempt_eq_invalid_iff]
        rcases hsecond hinc with hseen | hrestarted
        · simp [hseen] at hverdict
        · exact .inl ⟨hrestarted, hoom⟩
    · have hpoint := point_of_not_inconclusive second hinc
      refine ⟨?_, ?_, ?_, ?_⟩
      · intro hfail
        rw [hpoint] at hfail
        exact fail_of_recognized hfirst (Prod.mk.inj hfail).1
      · intro hfail
        simp [hpoint] at hfail
      · intro hverdict hoom
        rcases hfirst with hseen | hrestarted
        · simp [hseen] at hverdict
        · exact absurd (.inl ⟨hrestarted, hoom⟩) hinc
      · intro htwo
        simp [hpoint] at htwo

def upHealth : Health := ⟨true, 0, none, none⟩

theorem noOutput_fails :
    point Char.isAlphanum 100 ⟨some upHealth, [], some upHealth⟩ ⟨some upHealth, [], some upHealth⟩ =
        (.fail, 1) ∧
      ¬ FairTo Char.isAlphanum 100 ⟨some upHealth, [], some upHealth⟩
        ⟨some upHealth, [], some upHealth⟩ := by
  have hpoint : point Char.isAlphanum 100 ⟨some upHealth, [], some upHealth⟩
      ⟨some upHealth, [], some upHealth⟩ = (.fail, 1) := by
    decide +kernel
  have hunread : (⟨some upHealth, [], some upHealth⟩ : Attempt).hasVerdict Char.isAlphanum 100 =
      false := by
    decide +kernel
  refine ⟨hpoint, ?_⟩
  intro hfair
  have hretried := hfair.retried hunread rfl
  rw [hpoint] at hretried
  cases hretried

end

end SttBench.Bench
