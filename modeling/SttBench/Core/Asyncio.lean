import Mathlib.Tactic

/-!
# Tasks of a single-threaded event loop

A task runs alone from one suspension point of its coroutine to the next.
-/

namespace Asyncio

inductive Ending
  | Returned
  | Cancelled
  | Raised
deriving DecidableEq, Repr

inductive AsyncTask (κ : Type*)
  | Suspended (point : κ) (ready cancelled : Bool)
  | Done (ending : Ending)
deriving DecidableEq, Repr

namespace AsyncTask

variable {κ : Type*} {t : AsyncTask κ} {point : κ} {p : κ → Bool} {cancelled : Bool}

def create (point : κ) : AsyncTask κ := .Suspended point true false

def park (point : κ) : AsyncTask κ := .Suspended point false false

def suspendedAt (p : κ → Bool) : AsyncTask κ → Bool
  | .Suspended point _ _ => p point
  | .Done _ => false

def wakeAt (p : κ → Bool) : AsyncTask κ → AsyncTask κ
  | .Suspended point ready cancelled => .Suspended point (ready || p point) cancelled
  | .Done ending => .Done ending

def cancel : AsyncTask κ → AsyncTask κ
  | .Suspended point ready _ => .Suspended point ready true
  | .Done ending => .Done ending

def done : AsyncTask κ → Bool
  | .Suspended .. => false
  | .Done _ => true

def resume : AsyncTask κ → Option (κ × Bool)
  | .Suspended point ready cancelled => if ready || cancelled then some (point, cancelled) else none
  | .Done _ => none

def Stopping : AsyncTask κ → Prop
  | .Suspended _ _ cancelled => cancelled = true
  | .Done _ => True

@[simp] lemma suspendedAt_wakeAt {q : κ → Bool} :
    (t.wakeAt q).suspendedAt p = t.suspendedAt p := by
  cases t <;> rfl

@[simp] lemma suspendedAt_cancel : t.cancel.suspendedAt p = t.suspendedAt p := by
  cases t <;> rfl

@[simp] lemma stopping_wakeAt : (t.wakeAt p).Stopping ↔ t.Stopping := by
  cases t <;> rfl

@[simp] lemma stopping_cancel : t.cancel.Stopping := by
  cases t <;> trivial

@[simp] lemma done_wakeAt : (t.wakeAt p).done = t.done := by
  cases t <;> rfl

lemma suspendedAt_of_done (h : t.done = true) : t.suspendedAt p = false := by
  cases t with
  | Suspended q ready c => nomatch h
  | Done e => rfl

lemma wakeAt_eq_suspended {ready : Bool} :
    t.wakeAt p = .Suspended point ready cancelled ↔
      ∃ before, t = .Suspended point before cancelled ∧ (before || p point) = ready := by
  cases t with
  | Suspended q r c =>
    simp only [wakeAt, Suspended.injEq]
    constructor
    · rintro ⟨rfl, hready, rfl⟩
      exact ⟨r, ⟨rfl, rfl, rfl⟩, hready⟩
    · rintro ⟨before, ⟨rfl, rfl, rfl⟩, hready⟩
      exact ⟨rfl, hready, rfl⟩
  | Done e => simp [wakeAt]

lemma suspendedAt_of_resume (h : t.resume = some (point, cancelled)) :
    t.suspendedAt p = p point := by
  cases t with
  | Suspended q ready c =>
    simp only [resume, Option.ite_none_right_eq_some, Option.some.injEq, Prod.mk.injEq] at h
    rw [suspendedAt, h.2.1]
  | Done e => nomatch h

lemma Stopping.of_resume (ht : t.Stopping) (h : t.resume = some (point, cancelled)) :
    cancelled = true := by
  cases t with
  | Suspended q ready c =>
    simp only [resume, Option.ite_none_right_eq_some, Option.some.injEq, Prod.mk.injEq] at h
    rw [← h.2.2]
    exact ht
  | Done e => nomatch h

lemma resume_eq_some_false :
    t.resume = some (point, false) ↔ t = .Suspended point true false := by
  cases t with
  | Suspended q ready c => cases ready <;> cases c <;> simp [resume]
  | Done e => simp [resume]

end AsyncTask

structure Queue (α : Type*) (maxsize : ℕ) where
  items : List α
  bounded : items.length ≤ maxsize

namespace Queue

variable {α : Type*} {maxsize : ℕ}

def empty : Queue α maxsize := ⟨[], Nat.zero_le _⟩

def put (q : Queue α maxsize) (a : α) : Option (Queue α maxsize) :=
  if h : q.items.length < maxsize then some ⟨q.items ++ [a], by simpa using h⟩ else none

def get (q : Queue α maxsize) : Option (α × Queue α maxsize) :=
  match h : q.items with
  | [] => none
  | a :: rest => some (a, ⟨rest, by have := q.bounded; rw [h] at this; simp at this; omega⟩)

end Queue

end Asyncio
