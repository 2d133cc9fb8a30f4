import SttBench.Core.ReentrantLock
import SttBench.Core.TransitionSystem

/-! # A resource behind a lock, and its last call -/

open CallEntry

structure CallerView (C : Type*) where
  /-- It has seen that the flag is not set, and has not made its call. -/
  armed : Bool
  /-- The call it is in. -/
  call : Option C

/-- Shared state of threads `T` that make calls `C`. -/
@[ext]
structure LastCall (T C : Type*) where
  lock : ReentrantLock T
  closed : Bool
  /-- Who has set the flag and may still make the last call. -/
  closer : Option T
  view : T → CallerView C
  log : List (CallEntry C)

namespace LastCall

variable {T C : Type*} [DecidableEq T] {last : C → Prop}

def start : LastCall T C := ⟨.free, false, none, fun _ => ⟨false, none⟩, []⟩

inductive Label
  | acquire
  | release
  | shut
  | close
  | quit
  | arm
  | call
  | lastCall
  | leave

def set (a : LastCall T C) (t : T) (v : CallerView C) : LastCall T C :=
  { a with view := Function.update a.view t v }

def enter (a : LastCall T C) (t : T) (c : C) : LastCall T C :=
  { a with log := a.log ++ [CallEntry.enter c] }.set t ⟨false, some c⟩

def leave (a : LastCall T C) (t : T) (c : C) : LastCall T C :=
  { a with log := a.log ++ [CallEntry.leave c] }.set t ⟨false, none⟩

inductive Step (last : C → Prop) : LastCall T C → Label → LastCall T C → Prop
  | acquire {a : LastCall T C} {t : T} {lock : ReentrantLock T}
      (hlock : a.lock.acquire t = some lock) : Step last a .acquire { a with lock := lock }
  | release {a : LastCall T C} {t : T} {lock : ReentrantLock T}
      (hlock : a.lock.release t = some lock) (hview : a.view t = ⟨false, none⟩) :
      Step last a .release { a with lock := lock }
  | shut {a : LastCall T C} : Step last a .shut { a with closed := true }
  | close {a : LastCall T C} {t : T} (hclosed : a.closed = false) :
      Step last a .close { a with closed := true, closer := some t }
  | quit {a : LastCall T C} : Step last a .quit { a with closer := none }
  | arm {a : LastCall T C} {t : T} (hholds : 0 < a.lock.holds t) (hclosed : a.closed = false)
      (hview : a.view t = ⟨false, none⟩) : Step last a .arm (a.set t ⟨true, none⟩)
  | call {a : LastCall T C} {t : T} {c : C} (hlast : ¬ last c) (hview : a.view t = ⟨true, none⟩) :
      Step last a .call (a.enter t c)
  | lastCall {a : LastCall T C} {t : T} {c : C} (hholds : 0 < a.lock.holds t)
      (hcloser : a.closer = some t) (hview : a.view t = ⟨false, none⟩) :
      Step last a .lastCall ({ a with closer := none }.enter t c)
  | leave {a : LastCall T C} {t : T} {c : C} (hview : a.view t = ⟨false, some c⟩) :
      Step last a .leave (a.leave t c)

def system (T : Type*) [DecidableEq T] (last : C → Prop) :
    TransitionSystem (LastCall T C) Label where
  init a := a = start
  step := Step last

/-! ## The invariant -/

structure Inv (last : C → Prop) (a : LastCall T C) : Prop where
  /-- Who may call, or is in a call, holds the lock. -/
  holds : ∀ t, a.view t ≠ ⟨false, none⟩ → 0 < a.lock.holds t
  /-- The log has the one call that is in progress. -/
  busy : ∀ t c, (a.view t).call = some c → Serial a.log (some c)
  idle : (∀ t, (a.view t).call = none) → Serial a.log none
  noneAfter : NoneAfter last a.log
  closer : a.closer ≠ none → a.closed = true
  /-- After the last call the flag is set, and nobody is about to call. -/
  issued : Issued last a.log → a.closed = true ∧ a.closer = none ∧ ∀ t, (a.view t).armed = false

variable {a : LastCall T C} {t : T}

lemma inv_start : (start : LastCall T C).Inv last where
  holds _ h := absurd rfl h
  busy _ _ h := by cases h
  idle _ := .nil
  noneAfter := trivial
  closer h := absurd rfl h
  issued h := absurd h not_issued_nil

lemma set_view_self (v : CallerView C) : (a.set t v).view t = v := Function.update_self ..

lemma set_view_of_ne (v : CallerView C) {u : T} (hne : u ≠ t) : (a.set t v).view u = a.view u :=
  Function.update_of_ne hne ..

lemma Inv.others (h : a.Inv last) (hholds : 0 < a.lock.holds t) {u : T} (hne : u ≠ t) :
    a.view u = ⟨false, none⟩ := by
  by_contra hview
  exact hne (ReentrantLock.exclusive (h.holds u hview) hholds)

lemma Inv.serial_none (h : a.Inv last) (hholds : 0 < a.lock.holds t)
    (hcall : (a.view t).call = none) : Serial a.log none := by
  refine h.idle fun u => ?_
  by_cases hne : u = t
  · exact hne ▸ hcall
  · rw [h.others hholds hne]

lemma Inv.acquire (h : a.Inv last) {lock : ReentrantLock T}
    (hlock : a.lock.acquire t = some lock) : { a with lock := lock }.Inv last where
  holds u hu := by
    refine Nat.lt_of_lt_of_le (h.holds u hu) ?_
    show a.lock.holds u ≤ lock.holds u
    rw [ReentrantLock.holds_acquire hlock, Function.update_apply]
    split_ifs with hne
    · exact hne ▸ Nat.le_succ _
    · exact Nat.le_refl _
  busy := h.busy
  idle := h.idle
  noneAfter := h.noneAfter
  closer := h.closer
  issued := h.issued

lemma Inv.release (h : a.Inv last) {lock : ReentrantLock T}
    (hlock : a.lock.release t = some lock) (hview : a.view t = ⟨false, none⟩) :
    { a with lock := lock }.Inv last where
  holds u hu := by
    have hne : u ≠ t := fun hut => hu (hut ▸ hview)
    show 0 < lock.holds u
    rw [ReentrantLock.holds_release hlock, Function.update_of_ne hne]
    exact h.holds u hu
  busy := h.busy
  idle := h.idle
  noneAfter := h.noneAfter
  closer := h.closer
  issued := h.issued

lemma Inv.arm (h : a.Inv last) (hholds : 0 < a.lock.holds t) (hclosed : a.closed = false)
    (hview : a.view t = ⟨false, none⟩) : (a.set t ⟨true, none⟩).Inv last where
  holds u hu := by
    by_cases hne : u = t
    · exact hne ▸ hholds
    · exact absurd ((set_view_of_ne _ hne).trans (h.others hholds hne)) hu
  busy u c hu := by
    by_cases hne : u = t
    · rw [hne, set_view_self] at hu
      cases hu
    · rw [set_view_of_ne _ hne] at hu
      exact h.busy u c hu
  idle _ := h.serial_none hholds (by rw [hview])
  noneAfter := h.noneAfter
  closer := h.closer
  issued hlog := by cases hclosed.symm.trans (h.issued hlog).1

lemma Inv.enter (h : a.Inv last) {c : C} (hholds : 0 < a.lock.holds t)
    (hcall : (a.view t).call = none) (hissued : ¬ Issued last a.log)
    (hlast : last c → a.closed = true ∧ a.closer = none) : (a.enter t c).Inv last where
  holds u hu := by
    by_cases hne : u = t
    · exact hne ▸ hholds
    · exact absurd ((set_view_of_ne _ hne).trans (h.others hholds hne)) hu
  busy u c' hu := by
    by_cases hne : u = t
    · rw [LastCall.enter, hne, set_view_self] at hu
      cases hu
      exact .enter (h.serial_none hholds hcall) c
    · rw [LastCall.enter, set_view_of_ne _ hne, h.others hholds hne] at hu
      cases hu
  idle hidle := by
    have hbusy := hidle t
    rw [LastCall.enter, set_view_self] at hbusy
    cases hbusy
  noneAfter := .enter c hissued
  closer := h.closer
  issued hlog := by
    obtain hlog | hc := issued_enter.mp hlog
    · exact absurd hlog hissued
    refine ⟨(hlast hc).1, (hlast hc).2, fun u => ?_⟩
    by_cases hne : u = t
    · rw [LastCall.enter, hne, set_view_self]
    · rw [LastCall.enter, set_view_of_ne _ hne, h.others hholds hne]

lemma Inv.leave (h : a.Inv last) {c : C} (hview : a.view t = ⟨false, some c⟩) :
    (a.leave t c).Inv last := by
  have hholds : 0 < a.lock.holds t := h.holds t (by rw [hview]; exact nofun)
  have hnone (u : T) : (a.leave t c).view u = ⟨false, none⟩ := by
    by_cases hne : u = t
    · rw [LastCall.leave, hne, set_view_self]
    · rw [LastCall.leave, set_view_of_ne _ hne, h.others hholds hne]
  exact
    { holds := fun u hu => absurd (hnone u) hu
      busy := fun u c' hu => by
        rw [hnone u] at hu
        cases hu
      idle := fun _ => .leave (h.busy t c (by rw [hview]))
      noneAfter := .leave c h.noneAfter
      closer := h.closer
      issued := fun hlog => by
        obtain ⟨hclosed, hcloser, -⟩ := h.issued (issued_leave.mp hlog)
        exact ⟨hclosed, hcloser, fun u => by rw [hnone u]⟩ }

theorem inv_inductive (T : Type*) [DecidableEq T] (last : C → Prop) :
    (system T last).Inductive (Inv last) where
  init := by
    rintro a rfl
    exact inv_start
  step := by
    rintro a e a' h hstep
    cases hstep with
    | acquire hlock => exact h.acquire hlock
    | release hlock hview => exact h.release hlock hview
    | shut =>
      exact { h with
        closer := fun _ => rfl
        issued := fun hlog => ⟨rfl, (h.issued hlog).2⟩ }
    | close hclosed =>
      exact { h with
        closer := fun _ => rfl
        issued := fun hlog => by cases hclosed.symm.trans (h.issued hlog).1 }
    | quit =>
      exact { h with
        closer := fun hne => absurd rfl hne
        issued := fun hlog => ⟨(h.issued hlog).1, rfl, (h.issued hlog).2.2⟩ }
    | arm hholds hclosed hview => exact h.arm hholds hclosed hview
    | @call t c hlast hview =>
      have hissued : ¬ Issued last a.log := fun hlog => by
        have harmed := (h.issued hlog).2.2 t
        rw [hview] at harmed
        cases harmed
      refine h.enter (h.holds t (by rw [hview]; exact nofun)) (by rw [hview]) hissued ?_
      exact fun hc => absurd hc hlast
    | @lastCall t c hholds hcloser hview =>
      have hissued : ¬ Issued last a.log := fun hlog => by
        cases hcloser.symm.trans (h.issued hlog).2.1
      have hquit : { a with closer := none }.Inv last :=
        { h with
          closer := fun hne => absurd rfl hne
          issued := fun hlog => absurd hlog hissued }
      refine hquit.enter hholds (by rw [hview]) hissued fun _ => ⟨?_, rfl⟩
      exact h.closer (by rw [hcloser]; exact nofun)
    | leave hview => exact h.leave hview

theorem safe (h : (system T last).Reachable a) :
    (∃ c, Serial a.log c) ∧ NoneAfter last a.log := by
  have hinv := (inv_inductive T last).reachable h
  refine ⟨?_, hinv.noneAfter⟩
  by_cases hbusy : ∃ t c, (a.view t).call = some c
  · obtain ⟨t, c, hcall⟩ := hbusy
    exact ⟨some c, hinv.busy t c hcall⟩
  · refine ⟨none, hinv.idle fun t => ?_⟩
    by_contra hcall
    obtain ⟨c, hc⟩ := Option.ne_none_iff_exists'.mp hcall
    exact hbusy ⟨t, c, hc⟩

end LastCall
