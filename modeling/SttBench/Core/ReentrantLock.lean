import Mathlib.Data.List.Basic
import Mathlib.Tactic.Cases

/-! # A reentrant lock, and calls made one at a time -/

inductive ReentrantLock (T : Type*)
  | free
  | held (owner : T) (more : ℕ)
deriving DecidableEq, Repr

namespace ReentrantLock

variable {T : Type*} [DecidableEq T] {l l' : ReentrantLock T} {t t' : T}

def holds : ReentrantLock T → T → ℕ
  | .free, _ => 0
  | .held owner more, t => if t = owner then more + 1 else 0

def acquire (t : T) : ReentrantLock T → Option (ReentrantLock T)
  | .free => some (.held t 0)
  | .held owner more => if t = owner then some (.held owner (more + 1)) else none

def release (t : T) : ReentrantLock T → Option (ReentrantLock T)
  | .free => none
  | .held owner 0 => if t = owner then some .free else none
  | .held owner (more + 1) => if t = owner then some (.held owner more) else none

theorem exclusive (ht : 0 < l.holds t) (ht' : 0 < l.holds t') : t = t' := by
  cases l with
  | free => exact absurd ht (Nat.lt_irrefl 0)
  | held owner more =>
    have howner {t : T} (h : 0 < (held owner more).holds t) : t = owner := by
      by_contra hne
      simp [holds, hne] at h
    exact (howner ht).trans (howner ht').symm

lemma holds_acquire (h : l.acquire t = some l') :
    l'.holds = Function.update l.holds t (l.holds t + 1) := by
  funext u
  cases l with
  | free =>
    cases h
    simp [holds, Function.update_apply]
  | held owner more =>
    simp only [acquire] at h
    split_ifs at h with howner
    cases h
    subst howner
    by_cases hu : u = t
    · simp [holds, hu]
    · simp [holds, hu]

lemma holds_release (h : l.release t = some l') :
    l'.holds = Function.update l.holds t (l.holds t - 1) := by
  funext u
  cases l with
  | free => cases h
  | held owner more =>
    cases more with
    | zero | succ more =>
      simp only [release] at h
      split_ifs at h with howner
      cases h
      subst howner
      by_cases hu : u = t
      · simp [holds, hu]
      · simp [holds, hu]

end ReentrantLock

/-! ## Calls -/

inductive CallEntry (C : Type*)
  | enter (c : C)
  | leave (c : C)
deriving DecidableEq, Repr

namespace CallEntry

variable {C : Type*} {log : List (CallEntry C)} {c : C} {p : C → Prop}

inductive Serial : List (CallEntry C) → Option C → Prop
  | nil : Serial [] none
  | enter {log : List (CallEntry C)} (h : Serial log none) (c : C) :
      Serial (log ++ [.enter c]) (some c)
  | leave {log : List (CallEntry C)} {c : C} (h : Serial log (some c)) :
      Serial (log ++ [.leave c]) none

def Issued (p : C → Prop) (log : List (CallEntry C)) : Prop := ∃ c, p c ∧ .enter c ∈ log

def NoneAfter (p : C → Prop) : List (CallEntry C) → Prop
  | [] => True
  | .enter c :: log => (p c → ∀ c', .enter c' ∉ log) ∧ NoneAfter p log
  | .leave _ :: log => NoneAfter p log

def entered (p : C → Prop) [DecidablePred p] : List (CallEntry C) → List C
  | [] => []
  | .enter c :: log => if p c then c :: entered p log else entered p log
  | .leave _ :: log => entered p log

lemma not_issued_nil : ¬ Issued p [] := by
  rintro ⟨c, -, hc⟩
  cases hc

lemma issued_enter : Issued p (log ++ [.enter c]) ↔ Issued p log ∨ p c := by
  simp only [Issued, List.mem_append, List.mem_singleton, enter.injEq]
  constructor
  · rintro ⟨c', hp, hc' | rfl⟩
    · exact .inl ⟨c', hp, hc'⟩
    · exact .inr hp
  · rintro (⟨c', hp, hc'⟩ | hp)
    · exact ⟨c', hp, .inl hc'⟩
    · exact ⟨c, hp, .inr rfl⟩

lemma issued_leave : Issued p (log ++ [.leave c]) ↔ Issued p log := by
  simp [Issued]

lemma NoneAfter.enter (c : C) :
    ∀ {log : List (CallEntry C)}, ¬ Issued p log → NoneAfter p (log ++ [.enter c]) := by
  intro log
  induction log with
  | nil => exact fun _ => ⟨fun _ _ => List.not_mem_nil, trivial⟩
  | cons entry log ih =>
    intro hissued
    have hlog : ¬ Issued p log := fun ⟨d, hd, hmem⟩ => hissued ⟨d, hd, List.mem_cons_of_mem _ hmem⟩
    cases entry with
    | leave d => exact ih hlog
    | enter d => exact ⟨fun hd => absurd ⟨d, hd, List.mem_cons_self⟩ hissued, ih hlog⟩

lemma NoneAfter.leave (c : C) :
    ∀ {log : List (CallEntry C)}, NoneAfter p log → NoneAfter p (log ++ [.leave c]) := by
  intro log
  induction log with
  | nil => exact fun _ => trivial
  | cons entry log ih =>
    intro h
    cases entry with
    | leave d => exact ih h
    | enter d => exact ⟨fun hd c' hc' => h.1 hd c' (by simpa using hc'), ih h.2⟩

lemma entered_eq_nil [DecidablePred p] :
    ∀ {log : List (CallEntry C)}, (∀ c, .enter c ∉ log) → entered p log = [] := by
  intro log
  induction log with
  | nil => exact fun _ => rfl
  | cons entry log ih =>
    intro h
    cases entry with
    | leave d => exact ih fun c hc => h c (List.mem_cons_of_mem _ hc)
    | enter d => exact absurd List.mem_cons_self (h d)

lemma NoneAfter.length_entered_le [DecidablePred p] :
    ∀ {log : List (CallEntry C)}, NoneAfter p log → (entered p log).length ≤ 1 := by
  intro log
  induction log with
  | nil => exact fun _ => Nat.zero_le 1
  | cons entry log ih =>
    intro h
    cases entry with
    | leave d => exact ih h
    | enter d =>
      simp only [entered]
      split_ifs with hd
      · rw [entered_eq_nil (h.1 hd)]
        exact Nat.le_refl 1
      · exact ih h.2

end CallEntry
