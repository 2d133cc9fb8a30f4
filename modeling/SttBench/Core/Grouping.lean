import Mathlib.Data.List.Induction
import Mathlib.Data.List.Nodup

/-! # Grouping by a key -/

namespace Grouping

open List

structure Group (κ α : Type) where
  key : κ
  first : α
  rest : List α

variable {κ α : Type}

namespace Group

def members (g : Group κ α) : List α := g.first :: g.rest

def append (g : Group κ α) (a : α) : Group κ α := { g with rest := g.rest ++ [a] }

@[simp] lemma key_append (g : Group κ α) (a : α) : (g.append a).key = g.key := rfl

@[simp] lemma members_append (g : Group κ α) (a : α) :
    (g.append a).members = g.members ++ [a] := rfl

lemma ext_members {g g' : Group κ α} (hkey : g.key = g'.key) (h : g.members = g'.members) :
    g = g' := by
  obtain ⟨k, first, rest⟩ := g
  obtain ⟨k', first', rest'⟩ := g'
  cases h
  obtain rfl : k = k' := hkey
  rfl

end Group

variable [DecidableEq κ]

def add (k : κ) (a : α) : List (Group κ α) → List (Group κ α)
  | [] => [⟨k, a, []⟩]
  | g :: groups => if g.key = k then g.append a :: groups else g :: add k a groups

def groupBy (key : α → κ) (as : List α) : List (Group κ α) :=
  as.foldl (fun groups a => add (key a) a groups) []

/-! ## One member more -/

section Add

variable {k : κ} {a : α} {groups : List (Group κ α)} {g : Group κ α}

lemma map_key_add :
    (add k a groups).map Group.key =
      if k ∈ groups.map Group.key then groups.map Group.key else groups.map Group.key ++ [k] := by
  induction groups with
  | nil => simp [add]
  | cons g groups ih =>
    by_cases hkey : g.key = k
    · simp [add, hkey]
    · have hkey' : k ≠ g.key := fun h => hkey h.symm
      simp only [add, if_neg hkey, map_cons, ih, mem_cons, hkey', false_or]
      split_ifs <;> rfl

lemma nodup_keys_add (h : (groups.map Group.key).Nodup) :
    ((add k a groups).map Group.key).Nodup := by
  rw [map_key_add]
  split_ifs with hmem
  · exact h
  · exact nodup_append.mpr
      ⟨h, nodup_singleton k, fun k' hk' k'' hk'' heq => by
        rw [mem_singleton] at hk''
        exact hmem (hk'' ▸ heq ▸ hk')⟩

lemma mem_add (h : (groups.map Group.key).Nodup) :
    g ∈ add k a groups ↔
      (g ∈ groups ∧ g.key ≠ k) ∨ (∃ g' ∈ groups, g'.key = k ∧ g = g'.append a) ∨
        (k ∉ groups.map Group.key ∧ g = ⟨k, a, []⟩) := by
  induction groups with
  | nil => simp [add]
  | cons g₀ groups ih =>
    rw [map_cons, nodup_cons] at h
    by_cases hkey : g₀.key = k
    · -- no other group has the key
      have hother (g' : Group κ α) (hg' : g' ∈ groups) : g'.key ≠ k := fun hk =>
        h.1 (mem_map.mpr ⟨g', hg', hk.trans hkey.symm⟩)
      rw [add, if_pos hkey, mem_cons]
      constructor
      · rintro (rfl | hg)
        · exact .inr (.inl ⟨g₀, mem_cons_self, hkey, rfl⟩)
        · exact .inl ⟨mem_cons_of_mem g₀ hg, hother g hg⟩
      · rintro (⟨hg, hk⟩ | ⟨g', hg', hk, rfl⟩ | ⟨hk, -⟩)
        · obtain rfl | hg := mem_cons.mp hg
          · exact absurd hkey hk
          · exact .inr hg
        · obtain rfl | hg' := mem_cons.mp hg'
          · exact .inl rfl
          · exact absurd hk (hother g' hg')
        · exact absurd (mem_cons.mpr (.inl hkey.symm)) hk
    · have hkey' : k ≠ g₀.key := fun heq => hkey heq.symm
      rw [add, if_neg hkey, mem_cons, ih h.2]
      simp only [map_cons, mem_cons, exists_eq_or_imp, hkey, false_and, false_or, hkey']
      constructor
      · rintro (rfl | ⟨hg, hk⟩ | hg)
        · exact .inl ⟨.inl rfl, hkey⟩
        · exact .inl ⟨.inr hg, hk⟩
        · exact .inr hg
      · rintro (⟨rfl | hg, hk⟩ | hg)
        · exact .inl rfl
        · exact .inr (.inl ⟨hg, hk⟩)
        · exact .inr (.inr hg)

end Add

/-! ## All of them -/

variable {key : α → κ} {as : List α}

lemma groupBy_concat (as : List α) (a : α) :
    groupBy key (as ++ [a]) = add (key a) a (groupBy key as) := by
  rw [groupBy, foldl_append]
  rfl

theorem nodup_keys_groupBy (key : α → κ) (as : List α) :
    ((groupBy key as).map Group.key).Nodup := by
  induction as using List.reverseRecOn with
  | nil => exact nodup_nil
  | append_singleton as a ih =>
    rw [groupBy_concat]
    exact nodup_keys_add ih

theorem mem_groupBy {g : Group κ α} :
    g ∈ groupBy key as ↔ g.members = as.filter fun a => key a = g.key := by
  induction as using List.reverseRecOn generalizing g with
  | nil => simp [groupBy, Group.members]
  | append_singleton as a ih =>
    rw [groupBy_concat, mem_add (nodup_keys_groupBy key as), filter_append]
    by_cases hkey : key a = g.key
    · have hfilter : [a].filter (fun a => key a = g.key) = [a] := by simp [hkey]
      rw [hfilter]
      constructor
      · rintro (⟨-, hne⟩ | ⟨g', hg', -, rfl⟩ | ⟨hnone, rfl⟩)
        · exact absurd hkey.symm hne
        · rw [Group.members_append, ih.mp hg']
          rfl
        · have hempty : as.filter (fun a' => key a' = key a) = [] := by
            cases has : as.filter (fun a' => key a' = key a) with
            | nil => rfl
            | cons x xs =>
              have hmem : (⟨key a, x, xs⟩ : Group κ α) ∈ groupBy key as := ih.mpr has.symm
              exact absurd (mem_map.mpr ⟨_, hmem, rfl⟩) hnone
          rw [hempty]
          rfl
      · intro h
        cases has : as.filter (fun a' => key a' = g.key) with
        | nil =>
          refine .inr (.inr ⟨?_, Group.ext_members hkey.symm ?_⟩)
          · intro hmem
            obtain ⟨g', hg', hk⟩ := mem_map.mp hmem
            have hmembers := ih.mp hg'
            rw [hk, hkey, has] at hmembers
            exact cons_ne_nil _ _ hmembers
          · rw [h, has]
            rfl
        | cons x xs =>
          have hmem : (⟨g.key, x, xs⟩ : Group κ α) ∈ groupBy key as := ih.mpr has.symm
          refine .inr (.inl ⟨⟨g.key, x, xs⟩, hmem, hkey.symm, Group.ext_members rfl ?_⟩)
          rw [h, has]
          rfl
    · have hfilter : [a].filter (fun a => key a = g.key) = [] := by simp [hkey]
      rw [hfilter, append_nil, ← ih]
      constructor
      · rintro (⟨hg, -⟩ | ⟨g', -, hk, rfl⟩ | ⟨-, rfl⟩)
        · exact hg
        · exact absurd hk.symm hkey
        · exact absurd rfl hkey
      · intro hg
        exact .inl ⟨hg, fun h => hkey h.symm⟩

lemma mem_members {g : Group κ α} (h : g ∈ groupBy key as) {a : α} :
    a ∈ g.members ↔ a ∈ as ∧ key a = g.key := by
  rw [mem_groupBy.mp h, mem_filter, decide_eq_true_eq]

lemma exists_mem_groupBy {a : α} (ha : a ∈ as) : ∃ g ∈ groupBy key as, g.key = key a := by
  have hmem : a ∈ as.filter fun a' => key a' = key a := by simpa using ha
  obtain ⟨x, xs, h⟩ := exists_cons_of_ne_nil (ne_nil_of_mem hmem)
  exact ⟨⟨key a, x, xs⟩, mem_groupBy.mpr h.symm, rfl⟩

end Grouping
