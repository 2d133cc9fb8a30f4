import Mathlib.Tactic

/-! # FIFO channels with their history -/

structure Channel (α : Type*) where
  log : List α
  read : ℕ
  read_le : read ≤ log.length

namespace Channel

variable {α : Type*} {c c' : Channel α} {a : α}

def empty : Channel α := ⟨[], 0, le_rfl⟩

def send (c : Channel α) (a : α) : Channel α :=
  ⟨c.log ++ [a], c.read, by
    rw [List.length_append]
    exact le_trans c.read_le (Nat.le_add_right _ _)⟩

def unread (c : Channel α) : List α := c.log.drop c.read

def taken (c : Channel α) : List α := c.log.take c.read

def recv? (c : Channel α) : Option (α × Channel α) :=
  if h : c.read < c.log.length then some (c.log[c.read], ⟨c.log, c.read + 1, h⟩) else none

@[simp] lemma send_log (c : Channel α) (a : α) : (c.send a).log = c.log ++ [a] := rfl

@[simp] lemma send_read (c : Channel α) (a : α) : (c.send a).read = c.read := rfl

@[simp] lemma unread_send (c : Channel α) (a : α) : (c.send a).unread = c.unread ++ [a] := by
  rw [unread, unread, send_log, send_read, List.drop_append_of_le_length c.read_le]

@[simp] lemma taken_send (c : Channel α) (a : α) : (c.send a).taken = c.taken := by
  rw [taken, taken, send_log, send_read, List.take_append_of_le_length c.read_le]

lemma taken_append_unread (c : Channel α) : c.taken ++ c.unread = c.log :=
  List.take_append_drop _ _

lemma mem_log_of_mem_taken (h : a ∈ c.taken) : a ∈ c.log := List.mem_of_mem_take h

lemma recv?_eq_some (h : c.recv? = some (a, c')) :
    c'.log = c.log ∧ c'.read = c.read + 1 ∧ c.unread = a :: c'.unread ∧
      c'.taken = c.taken ++ [a] := by
  unfold recv? at h
  split_ifs at h with hlt
  obtain ⟨rfl, rfl⟩ := Prod.mk.inj (Option.some.inj h)
  exact ⟨rfl, rfl, List.drop_eq_getElem_cons hlt, List.take_succ_eq_append_getElem hlt⟩

lemma mem_unread_of_le {k : ℕ} (hk : c.read ≤ k) (h : c.log[k]? = some a) : a ∈ c.unread :=
  List.mem_iff_getElem?.mpr ⟨k - c.read, by rw [unread, List.getElem?_drop]; simpa [hk] using h⟩

lemma mem_taken_of_recv {b : α} (hrecv : c.recv? = some (a, c')) (h : b ∈ c.taken) :
    b ∈ c'.taken := by
  obtain ⟨-, -, -, htaken⟩ := recv?_eq_some hrecv
  rw [htaken]
  exact List.mem_append_left _ h

def map {β : Type*} (f : α → β) (c : Channel α) : Channel β :=
  ⟨c.log.map f, c.read, by simpa using c.read_le⟩

lemma map_taken {β : Type*} (f : α → β) (c : Channel α) : (c.map f).taken = c.taken.map f := by
  simp [map, taken]

lemma map_unread {β : Type*} (f : α → β) (c : Channel α) : (c.map f).unread = c.unread.map f := by
  simp [map, unread]

lemma map_send {β : Type*} (f : α → β) (c : Channel α) (a : α) :
    (c.send a).map f = (c.map f).send (f a) := by
  simp [map, send]

lemma map_recv? {β : Type*} (f : α → β) (h : c.recv? = some (a, c')) :
    (c.map f).recv? = some (f a, c'.map f) := by
  unfold recv? at h
  split_ifs at h with hlt
  obtain ⟨rfl, rfl⟩ := Prod.mk.inj (Option.some.inj h)
  have hlt' : (c.map f).read < (c.map f).log.length := by simpa [map] using hlt
  rw [recv?, dif_pos hlt']
  simp [map]

end Channel
