import SttBench.Core.TransitionSystem

/-! # Systems with a clock, and arrivals that keep a distance -/

variable {σ ε R : Type*}

structure Timed (σ R : Type*) where
  state : σ
  now : R
  last : Option R

namespace TransitionSystem

section

variable [Add R] [LE R] {M : TransitionSystem σ ε} {gap : R} {arrival : σ → ε → Bool}
  {C : Timed σ R → R → ε → Prop}

def Timely (gap : R) (arrival : σ → ε → Bool) (C : Timed σ R → R → ε → Prop) (p : Timed σ R)
    (e : R × ε) : Prop :=
  p.now ≤ e.1 ∧ (arrival p.state e.2 = true → ∀ l ∈ p.last, l + gap ≤ e.1) ∧ C p e.1 e.2

def tick (arrival : σ → ε → Bool) (p : Timed σ R) (e : R × ε) (s : σ) : Timed σ R :=
  ⟨s, e.1, if arrival p.state e.2 then some e.1 else p.last⟩

def timed (M : TransitionSystem σ ε) (gap : R) (arrival : σ → ε → Bool)
    (C : Timed σ R → R → ε → Prop) : TransitionSystem (Timed σ R) (R × ε) where
  init p := M.init p.state ∧ p.last = none
  step p e p' := Timely gap arrival C p e ∧ ∃ s, M.step p.state e.2 s ∧ p' = tick arrival p e s

lemma Reachable.of_timed {p : Timed σ R} (hp : (M.timed gap arrival C).Reachable p) :
    M.Reachable p.state := by
  induction hp with
  | start h => exact .start h.1
  | step _ h ih =>
    obtain ⟨-, s, hstep, rfl⟩ := h
    exact .step ih hstep

instance [DecidableLE R] [∀ p t e, Decidable (C p t e)] (p : Timed σ R) (e : R × ε) :
    Decidable (Timely gap arrival C p e) :=
  inferInstanceAs (Decidable (_ ∧ (_ → _) ∧ _))

def timedStep (f : σ → ε → Option σ) (gap : R) (arrival : σ → ε → Bool)
    (C : Timed σ R → R → ε → Prop) [DecidableLE R] [∀ p t e, Decidable (C p t e)]
    (p : Timed σ R) (e : R × ε) : Option (Timed σ R) :=
  if Timely gap arrival C p e then (f p.state e.2).map (tick arrival p e) else none

lemma timed_step_of_timedStep [DecidableLE R] [∀ p t e, Decidable (C p t e)]
    {f : σ → ε → Option σ} (hf : ∀ s e s', f s e = some s' → M.step s e s') {p p' : Timed σ R}
    {e : R × ε} (h : timedStep f gap arrival C p e = some p') :
    (M.timed gap arrival C).step p e p' := by
  unfold timedStep at h
  split_ifs at h with htimely
  obtain ⟨s, hs, rfl⟩ := Option.map_eq_some_iff.mp h
  exact ⟨htimely, s, hf _ _ _ hs, rfl⟩

lemma Reachable.exists_of_timedStep [DecidableLE R] [∀ p t e, Decidable (C p t e)]
    {f : σ → ε → Option σ} (hf : ∀ s e s', f s e = some s' → M.step s e s') (s₀ : σ) (now : R)
    (hinit : M.init s₀) {Q : Timed σ R → Prop} (es : List (R × ε))
    (h : ∃ p ∈ exec (timedStep f gap arrival C) ⟨s₀, now, none⟩ es, Q p) :
    ∃ p, (M.timed gap arrival C).Reachable p ∧ Q p := by
  obtain ⟨p, hexec, hp⟩ := h
  refine ⟨p, ?_, hp⟩
  exact Reachable.of_exec (fun _ _ _ => timed_step_of_timedStep hf) (.start ⟨hinit, rfl⟩) hexec

end

end TransitionSystem

variable [CommRing R] [LinearOrder R]

def Spaced (gap since now : R) (last : Option R) (n : ℕ) : Prop :=
  since ≤ now ∧ (n = 0 ∨ ∃ l, last = some l ∧ l ≤ now ∧ since + n * gap ≤ l + gap)

namespace Spaced

variable {gap since now t : R} {last : Option R} {n : ℕ}

lemma zero (h : since ≤ now) : Spaced gap since now last 0 := ⟨h, .inl rfl⟩

lemma wait (h : Spaced gap since now last n) (ht : now ≤ t) : Spaced gap since t last n :=
  ⟨h.1.trans ht, h.2.imp id fun ⟨l, hlast, hl, hn⟩ => ⟨l, hlast, hl.trans ht, hn⟩⟩

variable [IsStrictOrderedRing R]

lemma arrive (h : Spaced gap since now last n) (ht : now ≤ t)
    (hgap : ∀ l ∈ last, l + gap ≤ t) : Spaced gap since t (some t) (n + 1) := by
  refine ⟨h.1.trans ht, .inr ⟨t, rfl, le_refl t, ?_⟩⟩
  rcases h.2 with rfl | ⟨l, hlast, -, hn⟩
  · have := h.1.trans ht
    push_cast
    linarith
  · have := hgap l hlast
    push_cast
    linarith

theorem mul_gap_le (h : Spaced gap since now last n) (ht : now ≤ t)
    (hgap : ∀ l ∈ last, l + gap ≤ t) : n * gap ≤ t - since := by
  obtain ⟨-, hzero | ⟨l, hl, -, hn⟩⟩ := h.arrive ht hgap
  · cases hzero
  · cases hl
    push_cast at hn
    linarith

end Spaced
