import SttBench.Core.Binary64

/-!
# Python: numbers and JSON values

An operation returns or raises; how a rational becomes a float is the parameter `fl`.
-/

namespace SttBench

namespace Python

inductive Exception
  | OverflowError
  | ZeroDivisionError
  | ValueError
  | TypeError
  | KeyError
  | AttributeError
deriving DecidableEq, Repr

section

variable {ε : Type*} {α β : Type}

@[simp] lemma ok_bind (a : α) (f : α → Except ε β) : (Except.ok a >>= f) = f a := rfl

variable {f : α → Except ε β} {as : List α}

lemma bind_eq_ok {x : Except ε α} {b : β} (h : x >>= f = .ok b) :
    ∃ a, x = .ok a ∧ f a = .ok b := by
  cases x with
  | error e => cases h
  | ok a => exact ⟨a, rfl, h⟩

lemma bind_eq_error {x : Except ε α} {e : ε} (h : x >>= f = .error e) :
    x = .error e ∨ ∃ a, x = .ok a ∧ f a = .error e := by
  cases x with
  | error e' =>
    cases h
    exact .inl rfl
  | ok a => exact .inr ⟨a, rfl, h⟩

lemma findSomeM?_eq_ok_none {f : α → Except ε (Option β)} {xs : List α}
    (h : ∀ x ∈ xs, f x = .ok none) : xs.findSomeM? f = .ok none := by
  induction xs with
  | nil => rfl
  | cons x xs ih =>
    rw [List.findSomeM?, h x List.mem_cons_self]
    exact ih fun y hy => h y (List.mem_cons_of_mem x hy)

lemma mapM_eq_ok_iff {bs : List β} :
    as.mapM f = .ok bs ↔ List.Forall₂ (fun a b => f a = .ok b) as bs := by
  induction as generalizing bs with
  | nil => simp [pure, Except.pure, eq_comm]
  | cons a as ih =>
    rw [List.mapM_cons, List.forall₂_cons_left_iff]
    cases ha : f a with
    | error e => simp [bind, Except.bind]
    | ok b =>
      cases has : as.mapM f with
      | error e =>
        have hnone : ∀ bs', ¬ List.Forall₂ (fun a b => f a = .ok b) as bs' := by
          intro bs' h
          rw [← ih, has] at h
          cases h
        simp [hnone, bind, Except.bind]
      | ok bs' =>
        have hbs' : List.Forall₂ (fun a b => f a = .ok b) as bs' := ih.mp has
        constructor
        · intro h
          exact ⟨b, bs', rfl, hbs', (Except.ok.inj h).symm⟩
        · rintro ⟨_, bs'', hb, hbs'', rfl⟩
          cases hb
          obtain rfl := Except.ok.inj (has.symm.trans (ih.mpr hbs''))
          rfl

lemma mem_of_mapM_eq_ok {bs : List β}
    (h : as.mapM f = .ok bs) {b : β} : b ∈ bs ↔ ∃ a ∈ as, f a = .ok b := by
  have hall := mapM_eq_ok_iff.mp h
  clear h
  induction hall with
  | nil => simp
  | @cons a b' as bs hab _ ih =>
    simp only [List.mem_cons, ih, exists_eq_or_imp, hab, Except.ok.injEq, @eq_comm β b]

lemma exists_of_mapM_eq_ok {bs : List β}
    (h : as.mapM f = .ok bs) {a : α} (ha : a ∈ as) : ∃ b ∈ bs, f a = .ok b := by
  have hall := mapM_eq_ok_iff.mp h
  clear h
  induction hall with
  | nil => simp at ha
  | @cons a' b as bs hab _ ih =>
    obtain rfl | ha := List.mem_cons.mp ha
    · exact ⟨b, List.mem_cons_self, hab⟩
    · obtain ⟨b', hb', hab'⟩ := ih ha
      exact ⟨b', List.mem_cons_of_mem b hb', hab'⟩

lemma exists_of_mapM_eq_error {e : ε} (h : as.mapM f = .error e) : ∃ a ∈ as, f a = .error e := by
  induction as with
  | nil => cases h
  | cons a as ih =>
    rw [List.mapM_cons] at h
    cases ha : f a with
    | error e' =>
      rw [ha] at h
      cases h
      exact ⟨a, List.mem_cons_self, ha⟩
    | ok b =>
      cases has : as.mapM f with
      | error e' =>
        rw [ha, has] at h
        cases h
        obtain ⟨a', ha', h'⟩ := ih has
        exact ⟨a', List.mem_cons_of_mem a ha', h'⟩
      | ok bs =>
        rw [ha, has] at h
        cases h

end

inductive Number
  | int (n : ℤ)
  | float (x : Double)
deriving DecidableEq

namespace Number

def value : Number → Double
  | .int n => .finite n
  | .float x => x

def lt (x y : Number) : Bool := x.value.lt y.value

def eq (x y : Number) : Bool := x.value.eq y.value

@[simp] lemma lt_int_int (a b : ℤ) : lt (.int a) (.int b) = decide (a < b) := by
  simp [lt, value]

@[simp] lemma eq_int_int (a b : ℤ) : eq (.int a) (.int b) = decide (a = b) := by
  simp [eq, value]

@[simp] lemma lt_int_float (a : ℤ) (q : ℚ) :
    lt (.int a) (.float (.finite q)) = decide ((a : ℚ) < q) := rfl

@[simp] lemma lt_float_float (q r : ℚ) :
    lt (.float (.finite q)) (.float (.finite r)) = decide (q < r) := rfl

def max (x y : Number) : Number := if x.lt y then y else x

def round : Number → Except Exception ℤ
  | .int n => .ok n
  | .float (.finite q) => .ok (roundEven q)
  | .float (.inf _) => .error .OverflowError
  | .float .nan => .error .ValueError

variable (fl : ℚ → Double)

def toFloat : Number → Except Exception Double
  | .int n =>
    match fl n with
    | .finite q => .ok (.finite q)
    | _ => .error .OverflowError
  | .float x => .ok x

def add : Number → Number → Except Exception Number
  | .int a, .int b => .ok (.int (a + b))
  | x, y => do return .float ((← x.toFloat fl).add fl (← y.toFloat fl))

lemma add_float_left (x : Double) (y : Number) :
    add fl (.float x) y = (y.toFloat fl).map fun b => .float (x.add fl b) := by
  rw [add]
  · cases y.toFloat fl <;> rfl
  · simp

lemma add_float_right (x : Number) (y : Double) :
    add fl x (.float y) = (x.toFloat fl).map fun a => .float (a.add fl y) := by
  rw [add]
  · cases x.toFloat fl <;> rfl
  · simp

def mul : Number → Number → Except Exception Number
  | .int a, .int b => .ok (.int (a * b))
  | x, y => do return .float ((← x.toFloat fl).mul fl (← y.toFloat fl))

def truediv (x y : Number) : Except Exception Number :=
  if y.eq (.int 0) then .error .ZeroDivisionError
  else
    match x, y with
    | .int a, .int b =>
      match fl (a / b) with
      | .finite q => .ok (.float (.finite q))
      | _ => .error .OverflowError
    | x, y => do return .float ((← x.toFloat fl).div fl (← y.toFloat fl))

lemma truediv_exact (a : ℤ) {b : ℤ} (hb : b ≠ 0) :
    truediv .finite (.int a) (.int b) = .ok (.float (.finite (a / b))) := by
  simp [truediv, hb]

lemma truediv_float_left (x : Double) {y : Number} (hy : y.eq (.int 0) = false) :
    truediv fl (.float x) y = (y.toFloat fl).map fun b => .float (x.div fl b) := by
  rw [truediv, if_neg (by simp [hy])]
  · cases y.toFloat fl <;> rfl
  · simp

lemma truediv_float_right (x : Number) {y : Double} (hy : eq (.float y) (.int 0) = false) :
    truediv fl x (.float y) = (x.toFloat fl).map fun a => .float (a.div fl y) := by
  rw [truediv, if_neg (by simp [hy])]
  · cases x.toFloat fl <;> rfl
  · simp

def sum (xs : List Number) : Except Exception Number := xs.foldlM (add fl) (.int 0)

end Number

/-! ## JSON values -/

inductive Json
  | null
  | bool (b : Bool)
  | num (x : Number)
  | str (s : String)
  | arr (items : List Json)
  | obj (fields : List (String × Json))

abbrev Dict := List (String × Json)

namespace Dict

def get (d : Dict) (key : String) : Option Json := d.lookup key

def item (d : Dict) (key : String) : Except Exception Json :=
  match d.get key with
  | some v => .ok v
  | none => .error .KeyError

end Dict

namespace Json

def asNumber : Json → Except Exception Number
  | .num x => .ok x
  | .bool b => .ok (.int b.toInt)
  | _ => .error .TypeError

def asDict : Json → Except Exception Dict
  | .obj fields => .ok fields
  | _ => .error .AttributeError

def truthy : Json → Bool
  | .null => false
  | .bool b => b
  | .num x => !x.eq (.int 0)
  | .str s => s ≠ ""
  | .arr items => !items.isEmpty
  | .obj fields => !fields.isEmpty

end Json

namespace Dict

def number (d : Dict) (key : String) : Except Exception Number := d.item key >>= Json.asNumber

def dict (d : Dict) (key : String) : Except Exception Dict := do
  match ← d.item key with
  | .obj fields => return fields
  | _ => throw .TypeError

end Dict

/-! ## Texts -/

def isSpace (c : Char) : Bool :=
  let n := c.toNat
  9 ≤ n && n ≤ 13 || 28 ≤ n && n ≤ 32 || n = 0x85 || n = 0xa0 || n = 0x1680 ||
    0x2000 ≤ n && n ≤ 0x200a || n = 0x2028 || n = 0x2029 || n = 0x202f || n = 0x205f || n = 0x3000

def isLineEnd (c : Char) : Bool :=
  let n := c.toNat
  10 ≤ n && n ≤ 13 || 28 ≤ n && n ≤ 30 || n = 0x85 || n = 0x2028 || n = 0x2029

def strip (s : List Char) : List Char :=
  ((s.dropWhile isSpace).reverse.dropWhile isSpace).reverse

def splitlinesFrom : List Char → List Char → List (List Char)
  | [], [] => []
  | current, [] => [current.reverse]
  | current, '\r' :: '\n' :: rest => current.reverse :: splitlinesFrom [] rest
  | current, c :: rest =>
    if isLineEnd c then current.reverse :: splitlinesFrom [] rest
    else splitlinesFrom (c :: current) rest

def splitlines (s : List Char) : List (List Char) := splitlinesFrom [] s

/-! ## The interpreter -/

structure Interpreter where
  /-- The float of a rational. -/
  fl : ℚ → Double
  /-- `format(v, spec)`. -/
  format : String → Json → String
  repr : String → String
  /-- `json.loads`, or the text of its exception. -/
  loads : String → Except String Json
  isdigit : String → Bool
  /-- `int(s)`. -/
  int : String → Except Exception ℤ
  /-- `float(s)`. -/
  float : String → Except Exception Double

def Interpreter.str (py : Interpreter) (x : Number) (spec : String) : String :=
  py.format spec (.num x)

def Interpreter.reads (py : Interpreter) (text : String) (v : Json) : Interpreter :=
  { py with loads := fun s => if s = text then .ok v else py.loads s }

lemma Interpreter.loads_reads (py : Interpreter) (text : String) (v : Json) :
    (py.reads text v).loads text = .ok v := if_pos rfl

end Python

end SttBench
