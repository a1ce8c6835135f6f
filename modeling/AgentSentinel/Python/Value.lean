import Mathlib.Data.List.Nodup
import AgentSentinel.Python.Float

/-!
# AgentSentinel.Python.Value

The Python objects that reach the program through fields typed `Any`: tool
arguments and rule match values. Both come from JSON, from YAML or from Python
callers, so besides the JSON constructors there are the ones YAML adds (dates,
bytes, sets, keys that are not strings) and opaque objects.

Equality is Python's `==`, not identity of representations: `True == 1 == 1.0`, and
dictionaries and sets compare without regard to order. A NaN is not equal to itself, but
members of containers count as equal also when they are one object, so a list with a NaN
is equal to a list with the same NaN.
-/

namespace AgentSentinel

/-- A `datetime.datetime`: naive local time, or a UTC instant with its offset in
seconds; times are in microseconds. -/
inductive PyDatetime
  | naive (micros : ℤ)
  | aware (micros : ℤ) (offset : ℤ)
  deriving DecidableEq

namespace PyDatetime

/-- `a == b`. -/
def eq : PyDatetime → PyDatetime → Bool
  | naive s, naive t => s == t
  | aware s _, aware t _ => s == t
  | _, _ => false

theorem eq_trans {s t u : PyDatetime} (hst : s.eq t = true) (htu : t.eq u = true) :
    s.eq u = true := by
  cases s <;> cases t <;> cases u <;> simp_all [eq]

theorem eq_symm {s t : PyDatetime} (h : s.eq t = true) : t.eq s = true := by
  cases s <;> cases t <;> simp_all [eq]

theorem eq_self (t : PyDatetime) : t.eq t = true := by cases t <;> simp [eq]

/-- `a < b`; Python refuses to order a naive against an aware time. -/
def lt : PyDatetime → PyDatetime → Result Bool
  | naive s, naive t => .ok (decide (s < t))
  | aware s _, aware t _ => .ok (decide (s < t))
  | _, _ => .error ⟨.typeError, py "can't compare offset-naive and offset-aware datetimes"⟩

end PyDatetime

/-- A Python object. -/
inductive Value
  | none
  | bool (b : Bool)
  | int (n : ℤ)
  | float (x : PyFloat)
  | str (s : PyStr)
  | bytes (bs : List (Fin 256))
  | list (xs : List Value)
  | tuple (xs : List Value)
  | set (xs : List Value)
  /-- Entries in insertion order. -/
  | dict (entries : List (Value × Value))
  /-- A `datetime.date`, as its proleptic ordinal. -/
  | date (ordinal : ℤ)
  | datetime (t : PyDatetime)
  /-- Any other object; it equals itself only and is hashable. -/
  | object (id : ℕ)

namespace Value

instance : Inhabited Value := ⟨none⟩

/-- Induction over a value, with the hypothesis for every member of a container. -/
@[elab_as_elim, induction_eliminator]
theorem induction {motive : Value → Prop} (none : motive .none) (bool : ∀ b, motive (.bool b))
    (int : ∀ n, motive (.int n)) (float : ∀ x, motive (.float x)) (str : ∀ s, motive (.str s))
    (bytes : ∀ bs, motive (.bytes bs)) (list : ∀ xs, (∀ x ∈ xs, motive x) → motive (.list xs))
    (tuple : ∀ xs, (∀ x ∈ xs, motive x) → motive (.tuple xs))
    (set : ∀ xs, (∀ x ∈ xs, motive x) → motive (.set xs))
    (dict : ∀ es, (∀ e ∈ es, motive e.1 ∧ motive e.2) → motive (.dict es))
    (date : ∀ d, motive (.date d)) (datetime : ∀ t, motive (.datetime t))
    (object : ∀ i, motive (.object i)) : ∀ v, motive v
  | .none => none
  | .bool b => bool b
  | .int n => int n
  | .float x => float x
  | .str s => str s
  | .bytes bs => bytes bs
  | .list xs => list xs fun x hx =>
    have := List.sizeOf_lt_of_mem hx
    induction none bool int float str bytes list tuple set dict date datetime object x
  | .tuple xs => tuple xs fun x hx =>
    have := List.sizeOf_lt_of_mem hx
    induction none bool int float str bytes list tuple set dict date datetime object x
  | .set xs => set xs fun x hx =>
    have := List.sizeOf_lt_of_mem hx
    induction none bool int float str bytes list tuple set dict date datetime object x
  | .dict es => dict es fun e he => by
    have hlt := List.sizeOf_lt_of_mem he
    obtain ⟨k, v⟩ := e
    exact ⟨induction none bool int float str bytes list tuple set dict date datetime object k,
      induction none bool int float str bytes list tuple set dict date datetime object v⟩
  | .date d => date d
  | .datetime t => datetime t
  | .object i => object i
termination_by v => sizeOf v
decreasing_by all_goals simp_wf; simp at *; omega

/-- `v is None`. -/
def isNone : Value → Bool
  | none => true
  | _ => false

/-- The numeric value of a `bool`, `int` or `float`; the three compare by it. -/
def number? : Value → Option PyFloat
  | bool b => some (.finite (if b then 1 else 0))
  | int n => some (.finite n)
  | float x => some x
  | _ => .none

/-! ### Equality and hashing -/

/-- `v is w`, as far as `==` would not say so: only a NaN is unequal to itself. -/
def isSame : Value → Value → Bool
  | float (.nan i), float (.nan j) => i == j
  | _, _ => false

mutual

/-- `v == w`. -/
def pyEq : Value → Value → Bool
  | none, none => true
  | str s, str t => s == t
  | bytes s, bytes t => s == t
  | list xs, list ys => pyEqList xs ys
  | tuple xs, tuple ys => pyEqList xs ys
  | set xs, set ys => xs.length == ys.length && pyEqMembers xs ys
  | dict es, dict fs => es.length == fs.length && pyEqEntries es fs
  | date s, date t => s == t
  | datetime s, datetime t => s.eq t
  | object i, object j => i == j
  | v, w =>
    match v.number?, w.number? with
    | some x, some y => x.eq y
    | _, _ => false

/-- Elementwise, as members of a container. -/
def pyEqList : List Value → List Value → Bool
  | [], [] => true
  | v :: vs, w :: ws => (v.isSame w || v.pyEq w) && pyEqList vs ws
  | _, _ => false

/-- Every member of the first list equals some member of the second. -/
def pyEqMembers : List Value → List Value → Bool
  | [], _ => true
  | v :: vs, ws => ws.any (fun w => v.isSame w || v.pyEq w) && pyEqMembers vs ws

/-- Every entry of the first dictionary has an equal one in the second. -/
def pyEqEntries : List (Value × Value) → List (Value × Value) → Bool
  | [], _ => true
  | (k, v) :: es, fs =>
    fs.any (fun f => (k.isSame f.1 || k.pyEq f.1) && (v.isSame f.2 || v.pyEq f.2)) &&
      pyEqEntries es fs

end

/-- `v is w or v == w`, which is how containers compare their members. -/
def memberEq (v w : Value) : Bool := v.isSame w || v.pyEq w

theorem pyEqList_cons (v w : Value) (vs ws : List Value) :
    pyEqList (v :: vs) (w :: ws) = (v.memberEq w && pyEqList vs ws) := by
  rw [pyEqList, memberEq]

theorem pyEqEntries_cons (e : Value × Value) (es fs : List (Value × Value)) :
    pyEqEntries (e :: es) fs =
      (fs.any (fun f => e.1.memberEq f.1 && e.2.memberEq f.2) && pyEqEntries es fs) := by
  rw [pyEqEntries]
  rfl

theorem isSame_iff {v w : Value} : v.isSame w = true ↔ ∃ i, v = float (.nan i) ∧ w = v := by
  constructor
  · intro h
    unfold isSame at h
    split at h
    · next i j =>
        obtain rfl := beq_iff_eq.mp h
        exact ⟨i, rfl, rfl⟩
    · cases h
  · rintro ⟨i, rfl, rfl⟩
    exact beq_self_eq_true i

/-- Identity matters between NaNs only. -/
theorem memberEq_of_ne {v w : Value} (h : ∀ i, w ≠ float (.nan i)) : v.memberEq w = v.pyEq w := by
  have hsame : v.isSame w = false := by
    rw [Bool.eq_false_iff, Ne, isSame_iff]
    rintro ⟨i, rfl, hw⟩
    exact h i hw
  rw [memberEq, hsame, Bool.false_or]

theorem memberEq_str (s : PyStr) (w : Value) : (str s).memberEq w = (str s).pyEq w := rfl

theorem pyEq_str_right {s : PyStr} {v : Value} (h : v.pyEq (str s) = true) : v = str s := by
  cases v <;> simp_all [pyEq, number?]

/-- `None` equals only itself. -/
theorem pyEq_none_right {v : Value} : v.pyEq none = true ↔ v = none := by
  cases v <;> simp [pyEq, number?]

mutual

/-- Whether `hash(v)` is defined. -/
def hashable : Value → Bool
  | list _ => false
  | set _ => false
  | dict _ => false
  | tuple xs => hashableList xs
  | _ => true

/-- Whether every element has a hash. -/
def hashableList : List Value → Bool
  | [] => true
  | v :: vs => v.hashable && hashableList vs

end

/-! ### Dictionaries and paths -/

/-- `d[k]` for a string key; only a string key can equal it. -/
def lookupStr : List (Value × Value) → PyStr → Option Value
  | [], _ => .none
  | (str s, v) :: es, k => if s = k then some v else lookupStr es k
  | _ :: es, k => lookupStr es k

/-- Follow string keys through nested dictionaries. -/
def atPath : Value → List PyStr → Option Value
  | v, [] => some v
  | dict es, k :: ks => (lookupStr es k).bind fun v => v.atPath ks
  | _, _ :: _ => .none

/-! ### Conversions -/

/-- `float(v)`. -/
def toFloat : Value → Result PyFloat
  | bool b => .ok (.finite (if b then 1 else 0))
  | int n =>
    if floatOverflow ≤ |(n : ℚ)| then
      .error ⟨.overflowError, py "int too large to convert to float"⟩
    else .ok (.finite n)
  | float x => .ok x
  | str s => ofText floatSpace s
  | bytes bs => ofText asciiSpace (bs.map fun b => Fin.ofNat 0x110000 b.val)
  | _ => .error ⟨.typeError, py "float() argument must be a string or a real number"⟩
where
  ofText (space : CodePoint → Bool) (s : PyStr) : Result PyFloat :=
    match floatOfText space s with
    | some x => .ok x
    | .none => .error ⟨.valueError, py "could not convert string to float"⟩

end Value

/-- The texts Python has for values whose printing is not modelled: `repr` of a
finite float, which depends on the double it is stored as, and `str()` of
containers, dates and objects. -/
structure PyRuntime where
  floatRepr : ℚ → PyStr
  strOf : Value → PyStr
  deriving Inhabited

/-- `sys.get_int_max_str_digits()`: converting a longer integer raises. -/
def intMaxStrDigits : ℕ := 4300

/-- `str(n)`. -/
def intStr (n : ℤ) : Result PyStr :=
  if 10 ^ intMaxStrDigits ≤ n.natAbs then
    .error ⟨.valueError,
      py "Exceeds the limit (4300 digits) for integer string conversion"⟩
  else .ok (intText n)

/-- `repr(x)`. -/
def PyFloat.text (rt : PyRuntime) : PyFloat → PyStr
  | finite q => rt.floatRepr q
  | negZero => py "-0.0"
  | inf negative => if negative then py "-inf" else py "inf"
  | nan _ => py "nan"

mutual

/-- No integer in the value is too long to be printed. -/
def Value.printable : Value → Bool
  | .int n => decide (n.natAbs < 10 ^ intMaxStrDigits)
  | .list xs => printableList xs
  | .tuple xs => printableList xs
  | .set xs => printableList xs
  | .dict es => printableEntries es
  | _ => true

def Value.printableList : List Value → Bool
  | [] => true
  | v :: vs => printable v && printableList vs

def Value.printableEntries : List (Value × Value) → Bool
  | [] => true
  | (k, v) :: es => printable k && printable v && printableEntries es

end

theorem Value.printableList_iff {xs : List Value} :
    Value.printableList xs = true ↔ ∀ x ∈ xs, x.printable = true := by
  induction xs with
  | nil => simp [printableList]
  | cons x xs ih => rw [printableList, Bool.and_eq_true, ih, List.forall_mem_cons]

theorem Value.printableEntries_iff {es : List (Value × Value)} :
    Value.printableEntries es = true ↔ ∀ e ∈ es, e.1.printable = true ∧ e.2.printable = true := by
  induction es with
  | nil => simp [printableEntries]
  | cons e es ih =>
      rw [printableEntries, Bool.and_eq_true, Bool.and_eq_true, ih, List.forall_mem_cons]

/-- `str(v)`: the text of a container has the texts of its members in it. -/
def Value.toStr (rt : PyRuntime) : Value → Result PyStr
  | none => .ok (py "None")
  | bool b => .ok (if b then py "True" else py "False")
  | int n => intStr n
  | float x => .ok (x.text rt)
  | str s => .ok s
  | v =>
    if v.printable then .ok (rt.strOf v)
    else .error ⟨.valueError, py "Exceeds the limit (4300 digits) for integer string conversion"⟩

theorem intStr_returns_iff {n : ℤ} :
    (∃ s, intStr n = .ok s) ↔ n.natAbs < 10 ^ intMaxStrDigits := by
  unfold intStr
  split
  · next hlong => simp [Nat.not_lt.mpr hlong]
  · next hshort => simp [Nat.lt_of_not_le hshort]

/-- A value has a text unless an integer in it is too long to be printed. -/
theorem Value.toStr_returns_iff {rt : PyRuntime} {v : Value} :
    (∃ s, v.toStr rt = .ok s) ↔ v.printable = true := by
  have hcontainer : ∀ {b : Bool} {s : PyStr} {e : PyExc},
      (∃ t, (if b then .ok s else .error e : Result PyStr) = .ok t) ↔ b = true := by
    intro b s e
    cases b <;> simp
  cases v with
  | int n => rw [toStr, printable, intStr_returns_iff, decide_eq_true_eq]
  | none => exact iff_of_true ⟨_, rfl⟩ rfl
  | bool b => exact iff_of_true ⟨_, rfl⟩ rfl
  | float x => exact iff_of_true ⟨_, rfl⟩ rfl
  | str s => exact iff_of_true ⟨_, rfl⟩ rfl
  | _ =>
      simp only [toStr]
      exact hcontainer

theorem Value.toStr_set (rt : PyRuntime) (xs : List Value) : Value.toStr rt (.set xs) =
    if Value.printableList xs then .ok (rt.strOf (.set xs))
    else .error ⟨.valueError,
      py "Exceeds the limit (4300 digits) for integer string conversion"⟩ := rfl

/-! ### Dictionaries with string keys -/

/-- A `dict[str, α]`: entries in insertion order, one for each key. -/
structure PyDict (α : Type) where
  entries : List (PyStr × α)
  nodup : (entries.map Prod.fst).Nodup

namespace PyDict

variable {α : Type}

/-- `{}`. -/
def empty : PyDict α := ⟨[], List.nodup_nil⟩

/-- `d.get(k)`. -/
def get (d : PyDict α) (k : PyStr) : Option α := d.entries.lookup k

/-- `d.get(k)` finds `v` exactly when the entry is in the dictionary. -/
theorem get_eq_some_iff {d : PyDict α} {k : PyStr} {v : α} :
    d.get k = some v ↔ (k, v) ∈ d.entries := by
  obtain ⟨es, hnd⟩ := d
  simp only [get]
  induction es with
  | nil => simp
  | cons e es ih =>
      obtain ⟨k', v'⟩ := e
      simp only [List.map_cons, List.nodup_cons] at hnd
      by_cases hk : k = k'
      · subst hk
        have hno : (k, v) ∉ es := fun hmem => hnd.1 (List.mem_map_of_mem hmem)
        simp [hno, eq_comm]
      · have hbeq : (k == k') = false := by simpa using hk
        rw [List.lookup_cons, hbeq, ih hnd.2]
        simp [hk]

/-- The dictionary with every value replaced. -/
def map {β : Type} (f : α → β) (d : PyDict α) : PyDict β where
  entries := d.entries.map fun e => (e.1, f e.2)
  nodup := by
    rw [List.map_map]
    exact d.nodup

@[simp] theorem get_map {β : Type} (f : α → β) (d : PyDict α) (k : PyStr) :
    (d.map f).get k = (d.get k).map f := by
  obtain ⟨es, hnd⟩ := d
  simp only [get, map]
  clear hnd
  induction es with
  | nil => rfl
  | cons e es ih =>
      obtain ⟨k₁, v⟩ := e
      by_cases hk : k = k₁
      · simp [hk]
      · simp [List.lookup_cons, beq_false_of_ne hk, ih]

/-- The entries after `d[k] = v`: the value is replaced where the key is, and a new
key comes last. -/
def setEntries (k : PyStr) (v : α) : List (PyStr × α) → List (PyStr × α)
  | [] => [(k, v)]
  | e :: es => if e.1 = k then (k, v) :: es else e :: setEntries k v es

theorem setEntries_keys (k : PyStr) (v : α) (es : List (PyStr × α)) :
    (setEntries k v es).map Prod.fst =
      if k ∈ es.map Prod.fst then es.map Prod.fst else es.map Prod.fst ++ [k] := by
  induction es with
  | nil => rfl
  | cons e es ih =>
      unfold setEntries
      by_cases hk : e.1 = k
      · simp [hk]
      · simp only [if_neg hk, List.map_cons, ih, List.mem_cons, Ne.symm hk, false_or]
        split <;> rfl

/-- `d[k] = v`. -/
def set (d : PyDict α) (k : PyStr) (v : α) : PyDict α where
  entries := setEntries k v d.entries
  nodup := by
    rw [setEntries_keys]
    split
    · exact d.nodup
    · next h =>
        rw [← List.concat_eq_append]
        exact d.nodup.concat h

@[simp] theorem get_set (d : PyDict α) (k k' : PyStr) (v : α) :
    (d.set k v).get k' = if k' = k then some v else d.get k' := by
  obtain ⟨es, hnd⟩ := d
  simp only [get, set]
  clear hnd
  induction es with
  | nil =>
      by_cases h : k' = k
      · simp [setEntries, h]
      · simp [setEntries, h]
  | cons e es ih =>
      obtain ⟨k₁, v₁⟩ := e
      unfold setEntries
      by_cases hk : k₁ = k
      · subst hk
        by_cases h : k' = k₁
        · simp [h]
        · simp [h, List.lookup_cons, beq_false_of_ne h]
      · by_cases h : k' = k₁
        · subst h
          simp [hk]
        · simp [hk, List.lookup_cons, beq_false_of_ne h, ih]

/-- The entries whose keys satisfy `p`. -/
def filterKeys (d : PyDict α) (p : PyStr → Bool) : PyDict α where
  entries := d.entries.filter fun e => p e.1
  nodup := (List.filter_sublist.map Prod.fst).nodup d.nodup

theorem get_filterKeys (d : PyDict α) (p : PyStr → Bool) (k : PyStr) :
    (d.filterKeys p).get k = if p k = true then d.get k else none := by
  refine Option.ext fun v => ?_
  rw [get_eq_some_iff, filterKeys, List.mem_filter]
  split
  · next hk => rw [get_eq_some_iff, and_iff_left hk]
  · next hk => simp [hk]

/-- The dictionary as an object. -/
def toValue (d : PyDict Value) : Value :=
  .dict (d.entries.map fun e => (.str e.1, e.2))

theorem toValue_injective : Function.Injective toValue := by
  intro d e h
  cases d with
  | mk es hnodup =>
      cases e with
      | mk fs hnodup' =>
          have hpair : Function.Injective fun e : PyStr × Value => (Value.str e.1, e.2) := by
            intro p q hpq
            simpa [Prod.ext_iff] using hpq
          obtain rfl := List.map_injective_iff.mpr hpair (Value.dict.inj h)
          rfl

/-- `(v := d.get(k)) is not None`: the value, where there is one. -/
def getNonNull (d : PyDict Value) (k : PyStr) : Option Value :=
  (d.get k).filter fun v => !v.isNone

theorem getNonNull_eq_some_iff {d : PyDict Value} {k : PyStr} {v : Value} :
    d.getNonNull k = some v ↔ (k, v) ∈ d.entries ∧ v ≠ .none := by
  rw [getNonNull, Option.filter_eq_some_iff, get_eq_some_iff]
  cases v <;> simp [Value.isNone]

theorem getNonNull_eq_none_iff {d : PyDict Value} {k : PyStr} :
    d.getNonNull k = none ↔ ∀ v, (k, v) ∈ d.entries → v = .none := by
  rw [Option.eq_none_iff_forall_ne_some]
  constructor
  · intro h v hmem
    by_contra hne
    exact h v (getNonNull_eq_some_iff.mpr ⟨hmem, hne⟩)
  · intro h v hv
    obtain ⟨hmem, hne⟩ := getNonNull_eq_some_iff.mp hv
    exact hne (h v hmem)

end PyDict

end AgentSentinel
