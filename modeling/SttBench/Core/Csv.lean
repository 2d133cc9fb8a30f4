import Mathlib.Data.List.Basic

/-!
# The rows of a CSV text

Python's `csv.reader` in its default dialect, character by character.
-/

namespace Csv

open List

instance decidableForallMem (p : Char → Prop) [DecidablePred p] (s : List Char) :
    Decidable (∀ c ∈ s, p c) :=
  List.decidableBAll p s

inductive Kind
  | comma
  | quote
  | lf
  | cr
  | other
deriving DecidableEq, Repr

def kind (c : Char) : Kind :=
  if c = ',' then .comma
  else if c = '"' then .quote
  else if c = '\n' then .lf
  else if c = '\r' then .cr
  else .other

inductive State
  | StartRecord
  | StartField
  | InField
  | InQuotedField
  | QuoteInQuotedField
  | EatCrnl
deriving DecidableEq, Repr

inductive Op
  | add
  | save
  | emit
deriving DecidableEq, Repr

def startField : Kind → List Op × State
  | .lf => ([.save, .emit], .StartRecord)
  | .cr => ([.save], .EatCrnl)
  | .quote => ([], .InQuotedField)
  | .comma => ([.save], .StartField)
  | .other => ([.add], .InField)

def startRecord : Kind → List Op × State
  | .lf => ([.emit], .StartRecord)
  | .cr => ([], .EatCrnl)
  | k => startField k

def transition : State → Kind → List Op × State
  | .StartRecord, k => startRecord k
  | .StartField, k => startField k
  | .InField, .lf => ([.save, .emit], .StartRecord)
  | .InField, .cr => ([.save], .EatCrnl)
  | .InField, .comma => ([.save], .StartField)
  | .InField, _ => ([.add], .InField)
  | .InQuotedField, .quote => ([], .QuoteInQuotedField)
  | .InQuotedField, _ => ([.add], .InQuotedField)
  | .QuoteInQuotedField, .quote => ([.add], .InQuotedField)
  | .QuoteInQuotedField, .lf => ([.save, .emit], .StartRecord)
  | .QuoteInQuotedField, .cr => ([.save], .EatCrnl)
  | .QuoteInQuotedField, .comma => ([.save], .StartField)
  | .QuoteInQuotedField, .other => ([.add], .InField)
  | .EatCrnl, .lf => ([.emit], .StartRecord)
  | .EatCrnl, k => (.emit :: (startRecord k).1, (startRecord k).2)

def atEnd : State → List Op
  | .StartRecord => []
  | .EatCrnl => [.emit]
  | _ => [.save, .emit]

structure Table where
  rows : List (List (List Char))
  fields : List (List Char)
  field : List Char
deriving DecidableEq, Repr

inductive Error
  | FieldLimit (rows : List (List (List Char)))
deriving DecidableEq, Repr

def fieldLimit : ℕ := 131072

def Table.apply (c : Char) (T : Table) : Op → Except Error Table
  | .add => if fieldLimit ≤ T.field.length then .error (.FieldLimit T.rows)
      else .ok { T with field := T.field ++ [c] }
  | .save => .ok { T with fields := T.fields ++ [T.field], field := [] }
  | .emit => .ok ⟨T.rows ++ [T.fields], [], []⟩

def Table.applyAll (c : Char) (T : Table) (ops : List Op) : Except Error Table :=
  ops.foldlM (Table.apply c) T

structure Scanner where
  table : Table
  state : State
deriving DecidableEq, Repr

namespace Scanner

def start : Scanner := ⟨⟨[], [], []⟩, .StartRecord⟩

def step (s : Scanner) (c : Char) : Except Error Scanner := do
  let T ← s.table.applyAll c (transition s.state (kind c)).1
  return ⟨T, (transition s.state (kind c)).2⟩

def run (s : Scanner) (cs : List Char) : Except Error Scanner := cs.foldlM step s

def complete (s : Scanner) (cs : List Char) : Except Error Table := do
  let s ← s.run cs
  s.table.applyAll '\n' (atEnd s.state)

end Scanner

def rows (text : List Char) : Except Error (List (List (List Char))) := do
  let T ← Scanner.start.complete text
  return T.rows

/-! ## Fields -/

def unquoted : List Char → Option (List Char)
  | [] => some []
  | c :: cs =>
    match kind c with
    | .comma => none
    | .lf => none
    | .cr => none
    | _ => (unquoted cs).map (c :: ·)

def quoted : Bool → List Char → Option (List Char)
  | closing, [] => if closing then some [] else none
  | false, c :: cs =>
    match kind c with
    | .quote => quoted true cs
    | _ => (quoted false cs).map (c :: ·)
  | true, c :: cs =>
    match kind c with
    | .quote => (quoted false cs).map (c :: ·)
    | _ => unquoted (c :: cs)

def content : List Char → Option (List Char)
  | [] => some []
  | c :: cs =>
    match kind c with
    | .quote => quoted false cs
    | _ => unquoted (c :: cs)

def OneField (t : List Char) : Prop := ∃ w, content t = some w ∧ w.length ≤ fieldLimit

lemma unquoted_cons {c : Char} {t w : List Char} (h : unquoted (c :: t) = some w) :
    (kind c = .quote ∨ kind c = .other) ∧ ∃ w', unquoted t = some w' ∧ w = c :: w' := by
  cases hc : kind c <;> simp [unquoted, hc] at h ⊢
  all_goals
    obtain ⟨w', hw', rfl⟩ := h
    exact ⟨w', hw', rfl⟩

namespace Scanner

variable {s s' : Scanner} {c : Char} {t w : List Char} {R : List (List (List Char))}
  {F : List (List Char)} {f : List Char}

/-! ### Runs -/

@[simp] lemma run_nil (s : Scanner) : s.run [] = .ok s := rfl

lemma run_cons (s : Scanner) (c : Char) (cs : List Char) :
    s.run (c :: cs) = s.step c >>= fun s' => s'.run cs := rfl

lemma run_cons_of_ok (h : s.step c = .ok s') (cs : List Char) :
    s.run (c :: cs) = s'.run cs := by
  rw [run_cons, h]
  rfl

lemma run_append (s : Scanner) (cs cs' : List Char) :
    s.run (cs ++ cs') = s.run cs >>= fun s' => s'.run cs' := foldlM_append

lemma run_append_of_ok {cs : List Char} (h : s.run cs = .ok s') (cs' : List Char) :
    s.run (cs ++ cs') = s'.run cs' := by
  rw [run_append, h]
  rfl

lemma run_singleton (s : Scanner) (c : Char) : s.run [c] = s.step c := by
  rw [run_cons]
  cases s.step c <;> rfl

lemma step_of_transition {T T' : Table} {state state' : State} {ops : List Op}
    (h : transition state (kind c) = (ops, state')) (hT : T.applyAll c ops = .ok T') :
    step ⟨T, state⟩ c = .ok ⟨T', state'⟩ := by
  simp only [step, h, hT]
  rfl

lemma applyAll_save (c : Char) :
    Table.applyAll c ⟨R, F, f⟩ [.save] = .ok ⟨R, F ++ [f], []⟩ := rfl

lemma applyAll_save_emit (c : Char) :
    Table.applyAll c ⟨R, F, f⟩ [.save, .emit] = .ok ⟨R ++ [F ++ [f]], [], []⟩ := rfl

lemma run_add_iff {state state' : State} (h : transition state (kind c) = ([.add], state')) :
    run ⟨⟨R, F, f⟩, state⟩ (c :: t) = .ok s' ↔
      f.length < fieldLimit ∧ run ⟨⟨R, F, f ++ [c]⟩, state'⟩ t = .ok s' := by
  by_cases hlength : fieldLimit ≤ f.length
  · have hstep : step ⟨⟨R, F, f⟩, state⟩ c = .error (.FieldLimit R) := by
      simp only [step, h, Table.applyAll, foldlM_cons, Table.apply, if_pos hlength]
      rfl
    rw [run_cons, hstep]
    exact ⟨fun hrun => (nomatch hrun), fun hlt => absurd hlt.1 (Nat.not_lt.mpr hlength)⟩
  · have hstep : step ⟨⟨R, F, f⟩, state⟩ c = .ok ⟨⟨R, F, f ++ [c]⟩, state'⟩ := by
      simp only [step, h, Table.applyAll, foldlM_cons, Table.apply, if_neg hlength]
      rfl
    rw [run_cons_of_ok hstep]
    exact (and_iff_right (Nat.not_le.mp hlength)).symm

lemma run_cons_congr {T : Table} {state state' : State}
    (h : transition state (kind c) = transition state' (kind c)) (cs : List Char) :
    run ⟨T, state⟩ (c :: cs) = run ⟨T, state'⟩ (c :: cs) := by
  simp only [run_cons, step, h]

/-! ### A field is read as its content -/

lemma length_add_iff {P : Prop} (f w : List Char) (c : Char) :
    f.length < fieldLimit ∧ (f ++ [c] ++ w).length ≤ fieldLimit ∧ P ↔
      (f ++ c :: w).length ≤ fieldLimit ∧ P := by
  simp only [length_append, length_cons, length_nil]
  constructor
  · rintro ⟨-, hlength, hP⟩
    exact ⟨by omega, hP⟩
  · rintro ⟨hlength, hP⟩
    exact ⟨by omega, by omega, hP⟩

lemma run_unquoted_iff (hf : f.length ≤ fieldLimit) (ht : unquoted t = some w) :
    run ⟨⟨R, F, f⟩, .InField⟩ t = .ok s' ↔
      (f ++ w).length ≤ fieldLimit ∧ s' = ⟨⟨R, F, f ++ w⟩, .InField⟩ := by
  induction t generalizing f w with
  | nil =>
    cases ht
    simp [hf, eq_comm]
  | cons c t ih =>
    obtain ⟨hc, w', hw', rfl⟩ := unquoted_cons ht
    have hadd : transition .InField (kind c) = ([.add], .InField) := by
      obtain hc | hc := hc <;> rw [hc] <;> rfl
    rw [run_add_iff hadd, ← length_add_iff, append_assoc, singleton_append]
    refine and_congr_right fun hlt => ?_
    simpa using ih (f := f ++ [c]) (by simpa using Nat.succ_le_of_lt hlt) hw'

def quotedState (closing : Bool) : State :=
  if closing then .QuoteInQuotedField else .InQuotedField

lemma run_quoted_iff {closing : Bool} (hf : f.length ≤ fieldLimit)
    (ht : quoted closing t = some w) :
    ∃ state, (state = .InField ∨ state = .QuoteInQuotedField) ∧
      ∀ s', run ⟨⟨R, F, f⟩, quotedState closing⟩ t = .ok s' ↔
        (f ++ w).length ≤ fieldLimit ∧ s' = ⟨⟨R, F, f ++ w⟩, state⟩ := by
  induction t generalizing f w closing with
  | nil =>
    cases closing with
    | false => simp [quoted] at ht
    | true =>
      obtain rfl : [] = w := by simpa [quoted] using ht
      exact ⟨.QuoteInQuotedField, .inr rfl, fun s' => by simp [quotedState, hf, eq_comm]⟩
  | cons c t ih =>
    -- a character that is added: in the quotes, or as the second of two quotes
    have hadd {w' : List Char}
        (htransition : transition (quotedState closing) (kind c) = ([.add], quotedState false))
        (hw' : quoted false t = some w') (hw : c :: w' = w) :
        ∃ state, (state = .InField ∨ state = .QuoteInQuotedField) ∧
          ∀ s', run ⟨⟨R, F, f⟩, quotedState closing⟩ (c :: t) = .ok s' ↔
            (f ++ w).length ≤ fieldLimit ∧ s' = ⟨⟨R, F, f ++ w⟩, state⟩ := by
      subst hw
      by_cases hlt : f.length < fieldLimit
      · obtain ⟨state, hstate, hrun⟩ := ih (f := f ++ [c])
          (by simpa using Nat.succ_le_of_lt hlt) hw'
        refine ⟨state, hstate, fun s' => ?_⟩
        rw [run_add_iff htransition, hrun, length_add_iff, append_assoc,
          singleton_append]
      · refine ⟨.InField, .inl rfl, fun s' => ?_⟩
        rw [run_add_iff htransition, ← length_add_iff]
        exact ⟨fun h => absurd h.1 hlt, fun h => absurd h.1 hlt⟩
    cases closing with
    | false =>
      cases hc : kind c with
      | quote =>
        have ht : quoted true t = some w := by simpa [quoted, hc] using ht
        have hstep : step ⟨⟨R, F, f⟩, quotedState false⟩ c =
            .ok ⟨⟨R, F, f⟩, quotedState true⟩ :=
          step_of_transition (by rw [hc]; rfl) rfl
        rw [run_cons_of_ok hstep]
        exact ih hf ht
      | _ =>
        obtain ⟨w', hw', hw⟩ : ∃ w', quoted false t = some w' ∧ c :: w' = w := by
          simpa [quoted, hc] using ht
        exact hadd (by rw [hc]; rfl) hw' hw
    | true =>
      cases hc : kind c with
      | quote =>
        obtain ⟨w', hw', hw⟩ : ∃ w', quoted false t = some w' ∧ c :: w' = w := by
          simpa [quoted, hc] using ht
        exact hadd (by rw [hc]; rfl) hw' hw
      | other =>
        have ht : unquoted (c :: t) = some w := by simpa [quoted, hc] using ht
        have hsame : transition (quotedState true) (kind c) =
            transition .InField (kind c) := by rw [hc]; rfl
        refine ⟨.InField, .inl rfl, fun s' => ?_⟩
        rw [run_cons_congr hsame]
        exact run_unquoted_iff hf ht
      | _ => simp [quoted, unquoted, hc] at ht

lemma step_comma {state : State} (hstate : state = .StartField ∨ state = .InField ∨
    state = .QuoteInQuotedField) :
    step ⟨⟨R, F, f⟩, state⟩ ',' = .ok ⟨⟨R, F ++ [f], []⟩, .StartField⟩ := by
  refine step_of_transition ?_ (applyAll_save ',')
  obtain rfl | rfl | rfl := hstate <;> rfl

lemma run_content_iff (ht : content t = some w) :
    ∃ state, (state = .StartField ∨ state = .InField ∨ state = .QuoteInQuotedField) ∧
      ∀ s', run ⟨⟨R, F, []⟩, .StartField⟩ t = .ok s' ↔
        w.length ≤ fieldLimit ∧ s' = ⟨⟨R, F, w⟩, state⟩ := by
  cases t with
  | nil =>
    cases ht
    exact ⟨.StartField, .inl rfl, fun s' => by simp [eq_comm]⟩
  | cons c t =>
    cases hc : kind c with
    | quote =>
      have ht : quoted false t = some w := by simpa [content, hc] using ht
      have hstep : step ⟨⟨R, F, []⟩, .StartField⟩ c = .ok ⟨⟨R, F, []⟩, quotedState false⟩ :=
        step_of_transition (by rw [hc]; rfl) rfl
      obtain ⟨state, hstate, hrun⟩ :=
        run_quoted_iff (R := R) (F := F) (f := []) (Nat.zero_le _) ht
      rw [run_cons_of_ok hstep]
      exact ⟨state, .inr hstate, hrun⟩
    | other =>
      have ht : unquoted (c :: t) = some w := by simpa [content, hc] using ht
      have hsame : transition .StartField (kind c) = transition .InField (kind c) := by
        rw [hc]
        rfl
      refine ⟨.InField, .inr (.inl rfl), fun s' => ?_⟩
      rw [run_cons_congr hsame]
      exact run_unquoted_iff (f := []) (Nat.zero_le _) ht
    | _ => simp [content, unquoted, hc] at ht

lemma run_oneField (ht : content t = some w) (hlength : w.length ≤ fieldLimit) :
    run ⟨⟨R, F, []⟩, .StartField⟩ (t ++ [',']) = .ok ⟨⟨R, F ++ [w], []⟩, .StartField⟩ := by
  obtain ⟨state, hstate, hrun⟩ := run_content_iff (R := R) (F := F) ht
  rw [run_append_of_ok ((hrun _).mpr ⟨hlength, rfl⟩), run_singleton]
  exact step_comma hstate

def Plain (w : List Char) : Prop := w ≠ [] ∧ (∀ c ∈ w, kind c = .other) ∧ w.length ≤ fieldLimit

lemma unquoted_of_plain (h : ∀ c ∈ w, kind c = .other) : unquoted w = some w := by
  induction w with
  | nil => rfl
  | cons c w ih =>
    obtain ⟨hc, hw⟩ := forall_mem_cons.mp h
    simp [unquoted, hc, ih hw]

lemma run_plain {state : State} (hstate : state = .StartRecord ∨ state = .StartField)
    (hw : Plain w) : run ⟨⟨R, F, []⟩, state⟩ w = .ok ⟨⟨R, F, w⟩, .InField⟩ := by
  obtain ⟨hne, hplain, hlength⟩ := hw
  have hunquoted := unquoted_of_plain hplain
  cases w with
  | nil => exact absurd rfl hne
  | cons c w =>
    have hsame : transition state (kind c) = transition .InField (kind c) := by
      rw [hplain c mem_cons_self]
      obtain rfl | rfl := hstate <;> rfl
    rw [run_cons_congr hsame]
    exact (run_unquoted_iff (f := []) (Nat.zero_le _) hunquoted).mpr ⟨hlength, rfl⟩

lemma run_plain_comma {state : State} (hstate : state = .StartRecord ∨ state = .StartField)
    (hw : Plain w) :
    run ⟨⟨R, F, []⟩, state⟩ (w ++ [',']) = .ok ⟨⟨R, F ++ [w], []⟩, .StartField⟩ := by
  rw [run_append_of_ok (run_plain hstate hw), run_singleton]
  exact step_comma (.inr (.inl rfl))

lemma run_plain_commas {ws : List (List Char)} (hws : ∀ w ∈ ws, Plain w) :
    run ⟨⟨R, F, []⟩, .StartField⟩ (ws.flatMap (· ++ [','])) =
      .ok ⟨⟨R, F ++ ws, []⟩, .StartField⟩ := by
  induction ws generalizing F with
  | nil => simp
  | cons w ws ih =>
    obtain ⟨hw, hws⟩ := forall_mem_cons.mp hws
    rw [flatMap_cons, run_append_of_ok (run_plain_comma (.inr rfl) hw), ih hws]
    simp

lemma run_plain_lf (hw : Plain w) :
    run ⟨⟨R, F, []⟩, .StartField⟩ (w ++ ['\n']) =
      .ok ⟨⟨R ++ [F ++ [w]], [], []⟩, .StartRecord⟩ := by
  rw [run_append_of_ok (run_plain (.inr rfl) hw), run_singleton]
  exact step_of_transition rfl (applyAll_save_emit '\n')

end Scanner

/-! ## Texts that are not a field -/

section Progress

variable {T T' : Table} {c : Char} {op : Op} {ops : List Op} {n m : ℕ}

def Table.Past (n m : ℕ) (T : Table) : Prop :=
  n < T.rows.length ∨ T.rows.length = n ∧ m < T.fields.length

def Table.Extends (T T' : Table) : Prop :=
  (T'.rows = T.rows ∧ ∃ more, T'.fields = T.fields ++ more) ∨
    ∃ more rest, T'.rows = T.rows ++ (T.fields ++ more) :: rest

lemma Table.Extends.refl (T : Table) : T.Extends T := .inl ⟨rfl, [], (append_nil _).symm⟩

lemma Table.Extends.trans {T'' : Table} (h : T.Extends T') (h' : T'.Extends T'') :
    T.Extends T'' := by
  obtain ⟨hrows, more, hfields⟩ | ⟨more, rest, hrows⟩ := h
  · obtain ⟨hrows', more', hfields'⟩ | ⟨more', rest', hrows'⟩ := h'
    · exact .inl ⟨hrows'.trans hrows, more ++ more', by rw [hfields', hfields, append_assoc]⟩
    · exact .inr ⟨more ++ more', rest', by rw [hrows', hrows, hfields, append_assoc]⟩
  · obtain ⟨hrows', -⟩ | ⟨more', rest', hrows'⟩ := h'
    · exact .inr ⟨more, rest, hrows'.trans hrows⟩
    · refine .inr ⟨more, rest ++ (T'.fields ++ more') :: rest', ?_⟩
      rw [hrows', hrows, append_assoc, cons_append]

lemma Table.extends_apply (h : T.apply c op = .ok T') : T.Extends T' := by
  cases op with
  | add =>
    simp only [Table.apply] at h
    split_ifs at h with hlength
    cases h
    exact .inl ⟨rfl, [], (append_nil _).symm⟩
  | save =>
    cases h
    exact .inl ⟨rfl, [T.field], rfl⟩
  | emit =>
    cases h
    exact .inr ⟨[], [], by rw [append_nil]⟩

@[simp] lemma Table.applyAll_nil : T.applyAll c [] = .ok T := rfl

lemma Table.applyAll_cons (T : Table) (c : Char) (op : Op) (ops : List Op) :
    T.applyAll c (op :: ops) = T.apply c op >>= fun T' => T'.applyAll c ops := rfl

lemma Table.applyAll_cons_eq_ok (h : T.applyAll c (op :: ops) = .ok T') :
    ∃ T₁, T.apply c op = .ok T₁ ∧ T₁.applyAll c ops = .ok T' := by
  rw [applyAll_cons] at h
  cases hop : T.apply c op with
  | error e =>
    rw [hop] at h
    cases h
  | ok T₁ =>
    rw [hop] at h
    exact ⟨T₁, rfl, h⟩

lemma Table.extends_applyAll (h : T.applyAll c ops = .ok T') : T.Extends T' := by
  induction ops generalizing T with
  | nil =>
    obtain rfl := Except.ok.inj h
    exact .refl T
  | cons op ops ih =>
    obtain ⟨T₁, hop, hops⟩ := applyAll_cons_eq_ok h
    exact (extends_apply hop).trans (ih hops)

lemma Table.Past.of_extends (h : T.Past n m) (hT : T.Extends T') : T'.Past n m := by
  unfold Table.Past at h ⊢
  obtain ⟨hrows, more, hfields⟩ | ⟨more, rest, hrows⟩ := hT
  · rw [hrows, hfields, length_append]
    omega
  · rw [hrows, length_append, length_cons]
    omega

end Progress

namespace Scanner

variable {s s' : Scanner} {c : Char} {t : List Char} {R : List (List (List Char))}
  {F : List (List Char)} {f : List Char} {n m : ℕ}

lemma step_eq_ok (h : s.step c = .ok s') :
    s.table.applyAll c (transition s.state (kind c)).1 = .ok s'.table ∧
      s'.state = (transition s.state (kind c)).2 := by
  cases hT : s.table.applyAll c (transition s.state (kind c)).1 with
  | error e => simp [step, hT] at h
  | ok T =>
    simp only [step, hT] at h
    cases h
    exact ⟨rfl, rfl⟩

lemma run_append_eq_ok {cs cs' : List Char} (h : s.run (cs ++ cs') = .ok s') :
    ∃ s₁, s.run cs = .ok s₁ ∧ s₁.run cs' = .ok s' := by
  rw [run_append] at h
  cases hrun : s.run cs with
  | error e =>
    rw [hrun] at h
    cases h
  | ok s₁ =>
    rw [hrun] at h
    exact ⟨s₁, rfl, h⟩

lemma run_cons_eq_ok (h : s.run (c :: t) = .ok s') :
    ∃ s₁, s.step c = .ok s₁ ∧ s₁.run t = .ok s' := by
  have h : s.run ([c] ++ t) = .ok s' := h
  obtain ⟨s₁, hstep, hrun⟩ := run_append_eq_ok h
  exact ⟨s₁, run_singleton s c ▸ hstep, hrun⟩

lemma extends_run (h : s.run t = .ok s') : s.table.Extends s'.table := by
  induction t generalizing s with
  | nil =>
    cases h
    exact .refl _
  | cons c t ih =>
    obtain ⟨s₁, hstep, hrun⟩ := run_cons_eq_ok h
    exact (Table.extends_applyAll (step_eq_ok hstep).1).trans (ih hrun)

lemma past_of_save {state : State} {ops : List Op} {state' : State}
    (htransition : transition state (kind c) = (.save :: ops, state'))
    (h : run ⟨⟨R, F, f⟩, state⟩ (c :: t) = .ok s') :
    s'.table.Past R.length F.length := by
  obtain ⟨s₁, hstep, hrun⟩ := run_cons_eq_ok h
  have hops := (step_eq_ok hstep).1
  rw [htransition] at hops
  obtain ⟨T₁, hsave, hops⟩ := Table.applyAll_cons_eq_ok hops
  cases hsave
  have hpast : Table.Past R.length F.length ⟨R, F ++ [f], []⟩ := .inr ⟨rfl, by simp⟩
  exact hpast.of_extends ((Table.extends_applyAll hops).trans (extends_run hrun))

lemma run_unquoted_none (ht : unquoted t = none)
    (h : run ⟨⟨R, F, f⟩, .InField⟩ t = .ok s') : s'.table.Past R.length F.length := by
  induction t generalizing f with
  | nil => simp [unquoted] at ht
  | cons c t ih =>
    -- what does not end the field is added to it
    have hadd (htransition : transition .InField (kind c) = ([.add], .InField))
        (ht : unquoted t = none) : s'.table.Past R.length F.length :=
      ih ht ((run_add_iff htransition).mp h).2
    cases hc : kind c with
    | quote | other => exact hadd (by rw [hc]; rfl) (by simpa [unquoted, hc] using ht)
    | lf | cr | comma => exact past_of_save (by rw [hc]; rfl) h

def Strayed (n m : ℕ) (s : Scanner) : Prop :=
  s.table.Past n m ∨ s.table.rows.length = n ∧ s.state = .InQuotedField

lemma run_quoted_none {closing : Bool} (ht : quoted closing t = none)
    (h : run ⟨⟨R, F, f⟩, quotedState closing⟩ t = .ok s') :
    s'.Strayed R.length F.length := by
  induction t generalizing f closing with
  | nil =>
    cases closing with
    | false =>
      cases h
      exact .inr ⟨rfl, rfl⟩
    | true => simp [quoted] at ht
  | cons c t ih =>
    have hadd (htransition : transition (quotedState closing) (kind c) =
        ([.add], quotedState false)) (ht : quoted false t = none) :
        s'.Strayed R.length F.length :=
      ih ht ((run_add_iff htransition).mp h).2
    cases closing with
    | false =>
      cases hc : kind c with
      | quote =>
        have hstep : step ⟨⟨R, F, f⟩, quotedState false⟩ c =
            .ok ⟨⟨R, F, f⟩, quotedState true⟩ :=
          step_of_transition (by rw [hc]; rfl) rfl
        rw [run_cons_of_ok hstep] at h
        exact ih (by simpa [quoted, hc] using ht) h
      | _ => exact hadd (by rw [hc]; rfl) (by simpa [quoted, hc] using ht)
    | true =>
      cases hc : kind c with
      | quote => exact hadd (by rw [hc]; rfl) (by simpa [quoted, hc] using ht)
      | _ =>
        have ht : unquoted (c :: t) = none := by simpa [quoted, hc] using ht
        have hsame : transition (quotedState true) (kind c) =
            transition .InField (kind c) := by
          rw [hc]
          rfl
        rw [run_cons_congr hsame] at h
        exact .inl (run_unquoted_none ht h)

theorem run_not_oneField (ht : ¬ OneField t)
    (h : run ⟨⟨R, F, []⟩, .StartField⟩ t = .ok s') : s'.Strayed R.length F.length := by
  cases hw : content t with
  | some w =>
    obtain ⟨state, -, hrun⟩ := run_content_iff (R := R) (F := F) hw
    exact absurd ⟨w, hw, ((hrun s').mp h).1⟩ ht
  | none =>
    cases t with
    | nil => simp [content] at hw
    | cons c t =>
      cases hc : kind c with
      | quote =>
        have hstep : step ⟨⟨R, F, []⟩, .StartField⟩ c =
            .ok ⟨⟨R, F, []⟩, quotedState false⟩ :=
          step_of_transition (by rw [hc]; rfl) rfl
        rw [run_cons_of_ok hstep] at h
        exact run_quoted_none (by simpa [content, hc] using hw) h
      | _ =>
        have hw : unquoted (c :: t) = none := by simpa [content, hc] using hw
        have hsame : transition .StartField (kind c) = transition .InField (kind c) := by
          rw [hc]
          rfl
        rw [run_cons_congr hsame] at h
        exact .inl (run_unquoted_none hw h)

def Astray (n m : ℕ) (s : Scanner) : Prop :=
  s.table.Past n m ∨
    s.table.rows.length = n ∧ s.state = .InQuotedField ∧ ',' ∈ s.table.field

lemma Astray.strayed (h : s.Astray n m) : s.Strayed n m :=
  h.imp_right fun h => ⟨h.1, h.2.1⟩

lemma step_inQuoted (hstate : s.state = .InQuotedField) (hc : kind c ≠ .quote)
    (hstep : s.step c = .ok s') :
    s' = ⟨{ s.table with field := s.table.field ++ [c] }, .InQuotedField⟩ := by
  obtain ⟨⟨R, F, f⟩, state⟩ := s
  obtain rfl : state = .InQuotedField := hstate
  have hadd : transition .InQuotedField (kind c) = ([.add], .InQuotedField) := by
    cases hk : kind c <;> first | rfl | exact absurd hk hc
  rw [← run_singleton, run_add_iff hadd] at hstep
  exact (Except.ok.inj hstep.2).symm

lemma Astray.step_other (h : s.Astray n m) (hc : kind c = .other) (hstep : s.step c = .ok s') :
    s'.Astray n m := by
  obtain hpast | ⟨hrows, hstate, hcomma⟩ := h
  · exact .inl (hpast.of_extends (Table.extends_applyAll (step_eq_ok hstep).1))
  · obtain rfl := step_inQuoted hstate (by rw [hc]; decide) hstep
    exact .inr ⟨hrows, rfl, mem_append_left _ hcomma⟩

lemma Astray.run_other (h : s.Astray n m) (ht : ∀ c ∈ t, kind c = .other)
    (hrun : s.run t = .ok s') : s'.Astray n m := by
  induction t generalizing s with
  | nil =>
    cases hrun
    exact h
  | cons c t ih =>
    obtain ⟨hc, ht⟩ := forall_mem_cons.mp ht
    obtain ⟨s₁, hstep, hrun⟩ := run_cons_eq_ok hrun
    exact ih (h.step_other hc hstep) ht hrun

lemma Strayed.step_comma (h : s.Strayed n m) (hstep : s.step ',' = .ok s') :
    s'.Astray n (m + 1) := by
  by_cases hquoted : s.state = .InQuotedField
  · obtain rfl := step_inQuoted hquoted (by decide) hstep
    obtain (hrows | ⟨hrows, -⟩) | ⟨hrows, -⟩ := h
    · exact .inl (.inl hrows)
    · exact .inr ⟨hrows, rfl, by simp⟩
    · exact .inr ⟨hrows, rfl, by simp⟩
  · have hpast : s.table.Past n m := h.resolve_right fun h => hquoted h.2
    have hops := (step_eq_ok hstep).1
    obtain ⟨⟨R, F, f⟩, state⟩ := s
    refine .inl ?_
    unfold Table.Past at hpast ⊢
    cases state with
    | InQuotedField => exact absurd rfl hquoted
    | _ =>
      rw [← Except.ok.inj hops]
      simp only [length_append, length_cons, length_nil] at hpast ⊢
      omega

lemma Strayed.run_comma (h : s.Strayed n m) (ht : ∀ c ∈ t, kind c = .other)
    (hrun : s.run (',' :: t) = .ok s') : s'.Astray n (m + 1) := by
  obtain ⟨s₁, hstep, hrun⟩ := run_cons_eq_ok hrun
  exact (h.step_comma hstep).run_other ht hrun

end Scanner

/-! ## What is in a field makes no difference -/

def Table.cell (T : Table) (n m : ℕ) : Option (List Char) := T.rows[n]? >>= (·[m]?)

inductive Hole
  | gone (T : Table)
  | inField (u : List Char)
  | inRow (u : List Char) (G : List (List Char)) (f : List Char)
  | inRows (u : List Char) (G : List (List Char)) (S : List (List (List Char)))
      (F' : List (List Char)) (f : List Char)

section Hole

variable (R : List (List (List Char))) (F : List (List Char)) {c : Char}

def Hole.plug (x : List Char) : Hole → Table
  | .gone T => T
  | .inField u => ⟨R, F, x ++ u⟩
  | .inRow u G f => ⟨R, F ++ (x ++ u) :: G, f⟩
  | .inRows u G S F' f => ⟨R ++ (F ++ (x ++ u) :: G) :: S, F', f⟩

lemma Hole.apply_plug (k : Hole) (c : Char) (op : Op) (length : ℕ) :
    ∃ r : Option Hole, ∀ x, x.length = length →
      ((k.plug R F x).apply c op).toOption = r.map (Hole.plug R F x) := by
  -- the field that is being read takes a character, unless it is too long
  have hadd {k : Hole} (k' : Hole) (j : ℕ)
      (hlength : ∀ x, x.length = length → (k.plug R F x).field.length = j)
      (hplug : ∀ x, k'.plug R F x =
        { k.plug R F x with field := (k.plug R F x).field ++ [c] }) :
      ∃ r : Option Hole, ∀ x, x.length = length →
        ((k.plug R F x).apply c .add).toOption = r.map (Hole.plug R F x) := by
    by_cases hj : fieldLimit ≤ j
    · refine ⟨none, fun x hx => ?_⟩
      simp only [Table.apply, hlength x hx, if_pos hj]
      rfl
    · refine ⟨some k', fun x hx => ?_⟩
      simp only [Table.apply, hlength x hx, if_neg hj, Except.toOption, Option.map, hplug]
  cases k with
  | gone T =>
    refine ⟨(T.apply c op).toOption.map .gone, fun x hx => ?_⟩
    show (T.apply c op).toOption = _
    cases T.apply c op <;> rfl
  | inField u =>
    cases op with
    | add =>
      exact hadd (.inField (u ++ [c])) (length + u.length)
        (fun x hx => by simp [plug, hx]) fun x => by simp [plug]
    | save => exact ⟨some (.inRow u [] []), fun x hx => rfl⟩
    | emit => exact ⟨some (.gone ⟨R ++ [F], [], []⟩), fun x hx => rfl⟩
  | inRow u G f =>
    cases op with
    | add =>
      exact hadd (.inRow u G (f ++ [c])) f.length
        (fun x hx => rfl) fun x => rfl
    | save =>
      refine ⟨some (.inRow u (G ++ [f]) []), fun x hx => ?_⟩
      simp [plug, Table.apply, Except.toOption]
    | emit => exact ⟨some (.inRows u G [] [] []), fun x hx => rfl⟩
  | inRows u G S F' f =>
    cases op with
    | add =>
      exact hadd (.inRows u G S F' (f ++ [c])) f.length
        (fun x hx => rfl) fun x => rfl
    | save => exact ⟨some (.inRows u G S (F' ++ [f]) []), fun x hx => rfl⟩
    | emit =>
      refine ⟨some (.inRows u G (S ++ [F']) [] []), fun x hx => ?_⟩
      simp [plug, Table.apply, Except.toOption]

lemma toOption_bind {ε α β : Type} (x : Except ε α) (f : α → Except ε β) :
    (x >>= f).toOption = x.toOption.bind fun a => (f a).toOption := by
  cases x <;> rfl

lemma Hole.applyAll_plug (k : Hole) (c : Char) (ops : List Op) (length : ℕ) :
    ∃ r : Option Hole, ∀ x, x.length = length →
      ((k.plug R F x).applyAll c ops).toOption = r.map (Hole.plug R F x) := by
  induction ops generalizing k with
  | nil => exact ⟨some k, fun x hx => rfl⟩
  | cons op ops ih =>
    obtain ⟨r, hr⟩ := k.apply_plug R F c op length
    cases r with
    | none =>
      refine ⟨none, fun x hx => ?_⟩
      rw [Table.applyAll_cons, toOption_bind, hr x hx]
      rfl
    | some k' =>
      obtain ⟨r', hr'⟩ := ih k'
      refine ⟨r', fun x hx => ?_⟩
      rw [Table.applyAll_cons, toOption_bind, hr x hx]
      exact hr' x hx

theorem Hole.run_plug (k : Hole) (state : State) (cs : List Char) (length : ℕ) :
    ∃ r : Option (Hole × State), ∀ x, x.length = length →
      (Scanner.run ⟨k.plug R F x, state⟩ cs).toOption =
        r.map fun p => ⟨p.1.plug R F x, p.2⟩ := by
  induction cs generalizing k state with
  | nil => exact ⟨some (k, state), fun x hx => rfl⟩
  | cons c cs ih =>
    obtain ⟨r, hr⟩ := k.applyAll_plug R F c (transition state (kind c)).1 length
    cases r with
    | none =>
      refine ⟨none, fun x hx => ?_⟩
      rw [Scanner.run_cons, toOption_bind, Scanner.step, toOption_bind, hr x hx]
      rfl
    | some k' =>
      obtain ⟨r', hr'⟩ := ih k' (transition state (kind c)).2
      refine ⟨r', fun x hx => ?_⟩
      rw [Scanner.run_cons, toOption_bind, Scanner.step, toOption_bind, hr x hx]
      exact hr' x hx

lemma Hole.complete_plug (k : Hole) (state : State) (cs : List Char) (length : ℕ) :
    ∃ r : Option Hole, ∀ x, x.length = length →
      (Scanner.complete ⟨k.plug R F x, state⟩ cs).toOption = r.map (Hole.plug R F x) := by
  obtain ⟨r, hr⟩ := k.run_plug R F state cs length
  cases r with
  | none =>
    refine ⟨none, fun x hx => ?_⟩
    rw [Scanner.complete, toOption_bind, hr x hx]
    rfl
  | some p =>
    obtain ⟨r', hr'⟩ := p.1.applyAll_plug R F '\n' (atEnd p.2) length
    refine ⟨r', fun x hx => ?_⟩
    rw [Scanner.complete, toOption_bind, hr x hx]
    exact hr' x hx

lemma Hole.cell_plug (k : Hole) (x y : List Char) (n m : ℕ) :
    (k.plug R F x).cell n m = (k.plug R F y).cell n m ∨
      R.length = n ∧ F.length = m ∧ ∃ u, (k.plug R F x).cell n m = some (x ++ u) := by
  cases k with
  | gone T | inField u | inRow u G f => exact .inl rfl
  | inRows u G S F' f =>
    obtain hn | rfl | hn := Nat.lt_trichotomy n R.length
    · left
      simp [plug, Table.cell, List.getElem?_append_left hn]
    · obtain hm | rfl | hm := Nat.lt_trichotomy m F.length
      · left
        simp [plug, Table.cell, List.getElem?_append_left hm]
      · exact .inr ⟨rfl, rfl, u, by simp [plug, Table.cell]⟩
      · left
        obtain ⟨j, rfl⟩ := Nat.exists_eq_add_of_lt hm
        simp [plug, Table.cell, List.getElem?_append_right, Nat.add_assoc]
    · left
      obtain ⟨j, rfl⟩ := Nat.exists_eq_add_of_lt hn
      simp [plug, Table.cell, List.getElem?_append_right, Nat.add_assoc]

end Hole

namespace Scanner

variable {s : Scanner} {n m : ℕ}

lemma Astray.step_plain (h : s.Astray n m) :
    ∃ (T : Table) (state : State), (T.rows.length = n → T.fields.length = m → ',' ∈ T.field) ∧
      ∀ c s', kind c = .other → s.step c = .ok s' →
        s' = ⟨{ T with field := T.field ++ [c] }, state⟩ := by
  obtain ⟨⟨R, F, f⟩, state⟩ := s
  have hfield : R.length = n → F.length = m → ',' ∈ f := by
    intro hn hm
    obtain (hrows | ⟨-, hfields⟩) | ⟨-, -, hcomma⟩ := h
    · exact absurd hrows (by simp [hn])
    · exact absurd hfields (by simp [hm])
    · exact hcomma
  -- everywhere but at the end of a row, the field is the one the machine is in
  have hadd (state' : State)
      (htransition : transition state .other = ([.add], state')) :
      ∃ (T : Table) (state'' : State), (T.rows.length = n → T.fields.length = m → ',' ∈ T.field) ∧
        ∀ c s', kind c = .other → step ⟨⟨R, F, f⟩, state⟩ c = .ok s' →
          s' = ⟨{ T with field := T.field ++ [c] }, state''⟩ := by
    refine ⟨⟨R, F, f⟩, state', hfield, fun c s' hc hstep => ?_⟩
    rw [← run_singleton, run_add_iff (by rw [hc, htransition])] at hstep
    exact (Except.ok.inj hstep.2).symm
  cases state with
  | EatCrnl =>
    refine ⟨⟨R ++ [F], [], []⟩, .InField, fun hn => ?_, fun c s' hc hstep => ?_⟩
    · simp only [length_append, length_cons, length_nil] at hn
      obtain (hrows | ⟨hrows, -⟩) | ⟨hrows, -⟩ := h
      all_goals
        simp only at hrows
        omega
    · have hcongr : step ⟨⟨R, F, f⟩, .EatCrnl⟩ c =
          step ⟨⟨R ++ [F], [], []⟩, .StartRecord⟩ c := by
        simp only [step, hc]
        rfl
      have hadd : transition .StartRecord (kind c) = ([.add], .InField) := by
        rw [hc]
        rfl
      rw [hcongr, ← run_singleton, run_add_iff hadd] at hstep
      exact (Except.ok.inj hstep.2).symm
  | StartRecord | StartField | InField | QuoteInQuotedField => exact hadd .InField rfl
  | InQuotedField => exact hadd .InQuotedField rfl

lemma complete_append_of_ok {s' : Scanner} {cs : List Char} (h : s.run cs = .ok s')
    (cs' : List Char) : s.complete (cs ++ cs') = s'.complete cs' := by
  rw [complete, run_append_of_ok h]
  rfl

lemma complete_append_eq_ok {cs cs' : List Char} {T : Table}
    (h : s.complete (cs ++ cs') = .ok T) :
    ∃ s', s.run cs = .ok s' ∧ s'.complete cs' = .ok T := by
  rw [complete, run_append] at h
  cases hrun : s.run cs with
  | error e =>
    rw [hrun] at h
    cases h
  | ok s' =>
    rw [hrun] at h
    exact ⟨s', rfl, h⟩

lemma extends_complete {cs : List Char} {T : Table} (h : s.complete cs = .ok T) :
    s.table.Extends T := by
  rw [← cs.append_nil] at h
  obtain ⟨s', hrun, hend⟩ := complete_append_eq_ok h
  exact (extends_run hrun).trans (Table.extends_applyAll hend)

theorem Astray.cell_eq (h : s.Astray n m) {a b : Char} (ha : kind a = .other)
    (hb : kind b = .other) (rest : List Char) {A B : Table}
    (hA : s.complete (a :: rest) = .ok A) (hB : s.complete (b :: rest) = .ok B) :
    A.cell n m = B.cell n m ∨ ∃ w, A.cell n m = some w ∧ ',' ∈ w := by
  obtain ⟨⟨R, F, f⟩, state, hcomma, hstep⟩ := h.step_plain
  obtain ⟨r, hr⟩ := (Hole.inField []).complete_plug R F state rest (f.length + 1)
  -- either text ends in the one table with the hole, filled in its own way
  have hplug {c : Char} (hc : kind c = .other) {T : Table} (hT : s.complete (c :: rest) = .ok T) :
      r.map (Hole.plug R F (f ++ [c])) = some T := by
    have hT : s.complete ([c] ++ rest) = .ok T := hT
    obtain ⟨s₁, hs₁, hT⟩ := complete_append_eq_ok hT
    rw [run_singleton] at hs₁
    obtain rfl := hstep c s₁ hc hs₁
    rw [← hr (f ++ [c]) (by simp)]
    simp [Hole.plug, hT, Except.toOption]
  have hA := hplug ha hA
  have hB := hplug hb hB
  cases r with
  | none => cases hA
  | some k =>
    cases hA
    cases hB
    obtain hcell | ⟨hn, hm, u, hcell⟩ := k.cell_plug R F (f ++ [a]) (f ++ [b]) n m
    · exact .inl hcell
    · exact .inr ⟨_, hcell, by simp [hcomma hn hm]⟩

end Scanner

end Csv
