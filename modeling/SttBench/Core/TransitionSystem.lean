import Mathlib.Tactic

/-!
# Labelled transition systems, and the invariant rule

What holds for every interleaving is what holds of every reachable state.
-/

structure TransitionSystem (σ ε : Type*) where
  init : σ → Prop
  step : σ → ε → σ → Prop

namespace TransitionSystem

variable {σ ε : Type*} {M : TransitionSystem σ ε} {P Q : σ → Prop}

inductive Reachable (M : TransitionSystem σ ε) : σ → Prop
  | start {s : σ} (h : M.init s) : Reachable M s
  | step {s s' : σ} {e : ε} (hs : Reachable M s) (h : M.step s e s') : Reachable M s'

structure Inductive (M : TransitionSystem σ ε) (P : σ → Prop) : Prop where
  init : ∀ s, M.init s → P s
  step : ∀ s e s', P s → M.step s e s' → P s'

variable {s : σ} {C : σ → ε → Prop} {τ δ : Type*} {f : σ → ε → Option σ}

theorem Inductive.reachable (h : M.Inductive P) (hs : M.Reachable s) : P s := by
  induction hs with
  | start h0 => exact h.init _ h0
  | step _ hstep ih => exact h.step _ _ _ ih hstep

structure InductiveUnder (M : TransitionSystem σ ε) (Q P : σ → Prop) : Prop where
  init : ∀ s, M.init s → P s
  step : ∀ s e s', Q s → P s → M.step s e s' → P s'

theorem InductiveUnder.reachable (h : M.InductiveUnder Q P) (hQ : ∀ s, M.Reachable s → Q s)
    (hs : M.Reachable s) : P s := by
  induction hs with
  | start h0 => exact h.init _ h0
  | step hr hstep ih => exact h.step _ _ _ (hQ _ hr) ih hstep

def Leads (M : TransitionSystem σ ε) : σ → σ → Prop :=
  Relation.ReflTransGen fun s s' => ∃ e, M.step s e s'

lemma Reachable.leads {s s' : σ} (hs : M.Reachable s) (h : M.Leads s s') : M.Reachable s' := by
  induction h with
  | refl => exact hs
  | tail _ hstep ih =>
    obtain ⟨e, hstep⟩ := hstep
    exact .step ih hstep

lemma Leads.keeps {s s' : σ} (h : M.Leads s s') (hstep : ∀ a e b, P a → M.step a e b → P b)
    (hs : P s) : P s' := by
  induction h with
  | refl => exact hs
  | tail _ hlast ih =>
    obtain ⟨e, hlast⟩ := hlast
    exact hstep _ e _ ih hlast

def restrict (M : TransitionSystem σ ε) (C : σ → ε → Prop) : TransitionSystem σ ε where
  init := M.init
  step s e s' := C s e ∧ M.step s e s'

lemma Reachable.of_restrict (hs : (M.restrict C).Reachable s) :
    M.Reachable s := by
  induction hs with
  | start h0 => exact Reachable.start h0
  | step _ hstep ih => exact Reachable.step ih hstep.2

lemma Reachable.restrict (hs : M.Reachable s) (hC : ∀ s e, C s e) :
    (M.restrict C).Reachable s := by
  induction hs with
  | start h0 => exact Reachable.start h0
  | step _ hstep ih => exact Reachable.step ih ⟨hC _ _, hstep⟩

theorem Reachable.refine {N : TransitionSystem τ δ} {f : σ → τ}
    (hinit : ∀ s, M.init s → P s ∧ N.init (f s))
    (hstep : ∀ s e s', P s → N.Reachable (f s) → M.step s e s' →
      P s' ∧ (f s' = f s ∨ ∃ d, N.step (f s) d (f s')))
    (hs : M.Reachable s) : P s ∧ N.Reachable (f s) := by
  induction hs with
  | start h0 => exact ⟨(hinit _ h0).1, Reachable.start (hinit _ h0).2⟩
  | step _ h ih =>
    obtain ⟨hP, heq | ⟨d, hd⟩⟩ := hstep _ _ _ ih.1 ih.2 h
    · exact ⟨hP, heq ▸ ih.2⟩
    · exact ⟨hP, Reachable.step ih.2 hd⟩

theorem Reachable.simulate_leads {N : TransitionSystem τ δ} {R : σ → τ → Prop}
    (hinit : ∀ s, M.init s → ∃ t, N.init t ∧ R s t)
    (hstep : ∀ s e s' t, N.Reachable t → R s t → M.step s e s' → ∃ t', N.Leads t t' ∧ R s' t')
    (hs : M.Reachable s) : ∃ t, N.Reachable t ∧ R s t := by
  induction hs with
  | start h0 =>
    obtain ⟨t, ht, hR⟩ := hinit _ h0
    exact ⟨t, Reachable.start ht, hR⟩
  | step _ h ih =>
    obtain ⟨t, ht, hR⟩ := ih
    obtain ⟨t', hleads, hR'⟩ := hstep _ _ _ t ht hR h
    exact ⟨t', ht.leads hleads, hR'⟩

theorem Reachable.simulate {N : TransitionSystem τ δ} {R : σ → τ → Prop}
    (hinit : ∀ s, M.init s → ∃ t, N.init t ∧ R s t)
    (hstep : ∀ s e s' t, N.Reachable t → R s t → M.step s e s' →
      R s' t ∨ ∃ d t', N.step t d t' ∧ R s' t')
    (hs : M.Reachable s) : ∃ t, N.Reachable t ∧ R s t := by
  refine simulate_leads hinit (fun s e s' t ht hR h => ?_) hs
  obtain hR' | ⟨d, t', hd, hR'⟩ := hstep s e s' t ht hR h
  · exact ⟨t, .refl, hR'⟩
  · exact ⟨t', .single ⟨d, hd⟩, hR'⟩

def ofFun (s₀ : σ) (f : σ → ε → Option σ) : TransitionSystem σ ε where
  init s := s = s₀
  step s e s' := f s e = some s'

def exec (f : σ → ε → Option σ) : σ → List ε → Option σ
  | s, [] => some s
  | s, e :: es => (f s e).bind fun s' => exec f s' es

lemma exec_cons_eq_some {s s' : σ} {e : ε} {es : List ε} :
    exec f s (e :: es) = some s' ↔ ∃ t, f s e = some t ∧ exec f t es = some s' := by
  simp [exec, Option.bind_eq_some_iff]

theorem Reachable.of_exec {f : σ → ε → Option σ}
    (hf : ∀ s e s', f s e = some s' → M.step s e s') :
    ∀ {es : List ε} {s s' : σ}, M.Reachable s → exec f s es = some s' → M.Reachable s'
  | [], s, s', hs, h => by
    simp only [exec, Option.some.injEq] at h
    exact h ▸ hs
  | e :: es, s, s', hs, h => by
    obtain ⟨t, ht, h⟩ := exec_cons_eq_some.mp h
    exact Reachable.of_exec hf (Reachable.step hs (hf _ _ _ ht)) h

lemma Leads.of_exec {f : σ → ε → Option σ} (hf : ∀ s e s', f s e = some s' → M.step s e s') :
    ∀ {es : List ε} {s s' : σ}, exec f s es = some s' → M.Leads s s'
  | [], s, s', h => by
    simp only [exec, Option.some.injEq] at h
    exact h ▸ .refl
  | e :: es, s, s', h => by
    obtain ⟨t, ht, h⟩ := exec_cons_eq_some.mp h
    exact .head ⟨e, hf _ _ _ ht⟩ (Leads.of_exec hf h)

lemma Reachable.exists_of_exec {s₀ : σ} (es : List ε)
    (h : ∃ s ∈ exec f s₀ es, Q s) : ∃ s, (ofFun s₀ f).Reachable s ∧ Q s := by
  obtain ⟨s, hexec, hs⟩ := h
  exact ⟨s, Reachable.of_exec (fun _ _ _ h => h) (.start rfl) hexec, hs⟩

def guarded (C : σ → ε → Prop) [∀ s e, Decidable (C s e)] (f : σ → ε → Option σ) (s : σ) (e : ε) :
    Option σ :=
  if C s e then f s e else none

lemma restrict_step_of_guarded [∀ s e, Decidable (C s e)] {s₀ s s' : σ} {e : ε}
    (h : guarded C f s e = some s') :
    ((ofFun s₀ f).restrict C).step s e s' := by
  unfold guarded at h
  split_ifs at h with hC
  exact ⟨hC, h⟩

lemma Reachable.exists_of_guarded [∀ s e, Decidable (C s e)] {s₀ : σ}
    (es : List ε) (h : ∃ s ∈ exec (guarded C f) s₀ es, Q s) :
    ∃ s, ((ofFun s₀ f).restrict C).Reachable s ∧ Q s := by
  obtain ⟨s, hexec, hs⟩ := h
  exact ⟨s, Reachable.of_exec (fun _ _ _ => restrict_step_of_guarded) (.start rfl) hexec, hs⟩

lemma Leads.of_exec_guarded [∀ s e, Decidable (C s e)] {s₀ s s' : σ}
    {es : List ε} (h : exec (guarded C f) s es = some s') :
    ((ofFun s₀ f).restrict C).Leads s s' :=
  Leads.of_exec (fun _ _ _ => restrict_step_of_guarded) h

end TransitionSystem
