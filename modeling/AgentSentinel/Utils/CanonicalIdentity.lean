import AgentSentinel.Python.JsonTree
import AgentSentinel.Utils.Canonical

/-!
# AgentSentinel.Utils.CanonicalIdentity

The canonical bytes of a JSON value identify it. The values are those built from the
JSON constructors, compared up to the insertion order of dictionaries.

Of the fast encoder it is assumed that it prints compact JSON with sorted keys in some
spelling of characters and floats, and that which values it refuses is a matter of
their shape; of the standard library's, that it prints finite floats as numbers of
their own. The bytes of one encoder identify a value because its text does. Between
the two there is no collision: equal bytes come from values of one shape, which both
go to the same encoder.
-/

namespace AgentSentinel

open Lib

/-! ### JSON values of Python values -/

/-- The entries of an object in the order of their keys. -/
def sortByKey {α : Type} (es : List (PyStr × α)) : List (PyStr × α) :=
  es.insertionSort fun a b => a.1.le b.1 = true

theorem sortByKey_sorted {α : Type} (es : List (PyStr × α)) :
    (sortByKey es).Pairwise fun a b => a.1.le b.1 = true := by
  let keyed : PyStr × α → PyStr × α → Prop := fun a b => a.1.le b.1 = true
  have htotal : Std.Total keyed := ⟨fun a b => PyStr.le_total a.1 b.1⟩
  have htrans : IsTrans _ keyed := ⟨fun _ _ _ => PyStr.le_trans⟩
  exact List.pairwise_insertionSort keyed es

theorem sortByKey_perm {α : Type} (es : List (PyStr × α)) : (sortByKey es).Perm es :=
  List.perm_insertionSort _ es

/-- Entries with distinct keys are sorted the same whatever order they come in. -/
theorem sortByKey_eq_iff {α : Type} {es fs : List (PyStr × α)} (hes : (es.map Prod.fst).Nodup) :
    sortByKey es = sortByKey fs ↔ es.Perm fs := by
  have hperm : ∀ gs : List (PyStr × α), (sortByKey gs).Perm gs := sortByKey_perm
  constructor
  · intro heq
    exact (hperm es).symm.trans (heq ▸ hperm fs)
  · intro hes'
    refine List.Perm.eq_of_pairwise (fun a b ha hb hab hba => ?_) (sortByKey_sorted es)
      (sortByKey_sorted fs) ((hperm es).trans (hes'.trans (hperm fs).symm))
    have hkey : a.1 = b.1 := PyStr.le_antisymm hab hba
    exact List.inj_on_of_nodup_map hes ((hperm es).mem_iff.mp ha)
      (hes'.mem_iff.mpr ((hperm fs).mem_iff.mp hb)) hkey

namespace Value

mutual

/-- The JSON value a Python value stands for: one built from `None`, booleans, integers,
finite floats, strings, lists and dictionaries with string keys. -/
def toJson : Value → Option JsonValue
  | .none => some (.scalar .null)
  | .bool b => some (.scalar (.bool b))
  | .int n => some (.scalar (.int n))
  | .float x => if h : x.isFinite = true then some (.scalar (.float ⟨x, h⟩)) else .none
  | .str s => some (.str s)
  | .list xs => (toJsonList xs).map .arr
  | .dict es => do
    let es ← toJsonEntries es
    if (es.map Prod.fst).Nodup then some (.obj (sortByKey es)) else .none
  | _ => .none

def toJsonList : List Value → Option (List JsonValue)
  | [] => some []
  | v :: vs => do
    let t ← toJson v
    let ts ← toJsonList vs
    return t :: ts

def toJsonEntries : List (Value × Value) → Option (List (PyStr × JsonValue))
  | [] => some []
  | (.str k, v) :: es => do
    let t ← toJson v
    let ts ← toJsonEntries es
    return (k, t) :: ts
  | _ => .none

end

theorem toJsonList_eq_some {xs : List Value} {ts : List JsonValue} :
    toJsonList xs = some ts ↔ List.Forall₂ (fun x t => x.toJson = some t) xs ts :=
  traverse_eq_some (by rw [toJsonList]) fun _ _ => by
    rw [toJsonList]
    rfl

/-- A dictionary entry and the entry of the object it stands for. -/
def EntryOf (e : Value × Value) (f : PyStr × JsonValue) : Prop :=
  e.1 = .str f.1 ∧ e.2.toJson = some f.2

theorem toJsonEntries_eq_some {es : List (Value × Value)} {ts : List (PyStr × JsonValue)} :
    toJsonEntries es = some ts ↔ List.Forall₂ EntryOf es ts := by
  induction es generalizing ts with
  | nil => simp [toJsonEntries, eq_comm]
  | cons e es ih =>
      obtain ⟨k, v⟩ := e
      rw [List.forall₂_cons_left_iff]
      cases k with
      | str k =>
          simp only [toJsonEntries, Option.bind_eq_bind, Option.bind_eq_some_iff,
            Option.pure_def, Option.some.injEq, ih]
          constructor
          · intro h
            obtain ⟨t, ht, ts', hts, rfl⟩ := h
            exact ⟨(k, t), ts', ⟨rfl, ht⟩, hts, rfl⟩
          · intro h
            obtain ⟨⟨k', t⟩, ts', ⟨hkey, ht⟩, hts, rfl⟩ := h
            obtain rfl := Value.str.inj hkey
            exact ⟨t, ht, ts', hts, rfl⟩
      | _ => simp [toJsonEntries, EntryOf]

theorem toJson_float_eq_some {x : PyFloat} {t : JsonValue} :
    (float x).toJson = some t ↔ ∃ h, .scalar (.float ⟨x, h⟩) = t := by
  simp only [toJson, Option.dite_none_right_eq_some, Option.some.injEq]

theorem toJson_list_eq_some {xs : List Value} {t : JsonValue} : (list xs).toJson = some t ↔
    ∃ ts, List.Forall₂ (fun x t => x.toJson = some t) xs ts ∧ .arr ts = t := by
  simp only [toJson, Option.map_eq_some_iff, toJsonList_eq_some]

theorem toJson_dict_eq_some {es : List (Value × Value)} {t : JsonValue} :
    (dict es).toJson = some t ↔
      ∃ ts, List.Forall₂ EntryOf es ts ∧ (ts.map Prod.fst).Nodup ∧ .obj (sortByKey ts) = t := by
  simp only [toJson, Option.bind_eq_bind, Option.bind_eq_some_iff, Option.ite_none_right_eq_some,
    Option.some.injEq, toJsonEntries_eq_some]

/-- Two dictionaries that stand for one JSON value have the same entries, in whatever
order. -/
theorem exists_perm_of_toJson {es fs : List (Value × Value)} {t : JsonValue}
    (hes : (dict es).toJson = some t) (hfs : (dict fs).toJson = some t) :
    ∃ ts us, List.Forall₂ EntryOf es ts ∧ List.Forall₂ EntryOf fs us ∧ ts.Perm us := by
  obtain ⟨ts, hts, hnodup, rfl⟩ := toJson_dict_eq_some.mp hes
  obtain ⟨us, hus, -, heq⟩ := toJson_dict_eq_some.mp hfs
  exact ⟨ts, us, hts, hus, (sortByKey_eq_iff hnodup).mp (JsonTree.obj.inj heq).symm⟩

end Value

/-! ### The standard library's text -/

section Dumps

variable {rt : PyRuntime} {floats : FloatPrinter}

/-- The text of the standard library's encoder with the settings of the fallback. -/
abbrev fallbackText (floats : FloatPrinter) (t : JsonValue) : PyStr :=
  t.text (Json.escapeChar false) floats

/-- The integers short enough to be converted to a string. -/
def isShort : JsonScalar → Bool
  | .int n => decide (n.natAbs < 10 ^ intMaxStrDigits)
  | _ => true

/-- The encoder's result for a part of a value: the text, if all integers are short. -/
def Prints (r : Result PyStr) (short : Bool) (text : PyStr) : Prop :=
  ∀ u, r = .ok u ↔ short = true ∧ u = text

theorem prints_ok (text : PyStr) : Prints (.ok text) true text := by
  intro u
  rw [Except.ok.injEq]
  exact ⟨fun h => ⟨rfl, h.symm⟩, fun h => h.2.symm⟩

/-- An entry as the encoder prints it, with the entry of the tree. -/
def PrintsEntry (floats : FloatPrinter) (r : Value × Result PyStr) (e : PyStr × JsonValue) : Prop :=
  r.1 = .str e.1 ∧
    Prints r.2 (e.2.all isShort) (JsonValue.entryText (Json.escapeChar false) floats e)

theorem dumpsList_prints {xs : List Value} {ts : List JsonValue}
    (h : List.Forall₂ (fun x t => Prints (Json.dumps rt canonicalOptions x) (t.all isShort)
      (fallbackText floats t)) xs ts) (us : List PyStr) :
    Json.dumpsList rt canonicalOptions xs = .ok us ↔
      JsonTree.allList isShort ts = true ∧ us = ts.map (fallbackText floats) := by
  induction h generalizing us with
  | nil =>
      rw [Json.dumpsList, Except.ok.injEq]
      exact ⟨fun h => ⟨rfl, h.symm⟩, fun h => h.2.symm⟩
  | cons hhead _ ih =>
      simp only [Json.dumpsList, bind_eq_ok, hhead _, ih, JsonTree.allList, Bool.and_eq_true,
        List.map_cons]
      constructor
      · intro h
        obtain ⟨u, ⟨hshort, rfl⟩, us', ⟨hshorts, rfl⟩, heq⟩ := h
        exact ⟨⟨hshort, hshorts⟩, (Except.ok.inj heq).symm⟩
      · intro h
        obtain ⟨⟨hshort, hshorts⟩, rfl⟩ := h
        exact ⟨_, ⟨hshort, rfl⟩, _, ⟨hshorts, rfl⟩, rfl⟩

theorem dumpsEntries_prints {es : List (Value × Value)} {ts : List (PyStr × JsonValue)}
    (h : List.Forall₂ (fun e f => e.1 = .str f.1 ∧
      Prints (Json.dumps rt canonicalOptions e.2) (f.2.all isShort) (fallbackText floats f.2))
      es ts) :
    List.Forall₂ (PrintsEntry floats) (Json.dumpsEntries rt canonicalOptions es) ts := by
  induction h with
  | nil => exact .nil
  | @cons e f es ts hhead _ ih =>
      obtain ⟨k, v⟩ := e
      obtain ⟨rfl, hvalue⟩ := hhead
      refine .cons ⟨rfl, fun u => ?_⟩ ih
      simp only [Json.keyText, bind_eq_ok, hvalue _]
      constructor
      · intro h
        obtain ⟨key, hkey, text, ⟨hshort, rfl⟩, heq⟩ := h
        obtain rfl := Except.ok.inj hkey
        exact ⟨hshort, (Except.ok.inj heq).symm⟩
      · intro h
        obtain ⟨hshort, rfl⟩ := h
        exact ⟨f.1, rfl, _, ⟨hshort, rfl⟩, rfl⟩

theorem mapM_prints {rs : List (Value × Result PyStr)} {ts : List (PyStr × JsonValue)}
    (hrs : List.Forall₂ (PrintsEntry floats) rs ts) (us : List PyStr) :
    rs.mapM Prod.snd = .ok us ↔ JsonTree.allEntries isShort ts = true ∧
      us = ts.map (JsonValue.entryText (Json.escapeChar false) floats) := by
  induction hrs generalizing us with
  | nil =>
      rw [List.mapM_nil]
      exact ⟨fun h => ⟨rfl, (Except.ok.inj h).symm⟩, fun h => congrArg Except.ok h.2.symm⟩
  | cons hhead _ ih =>
      simp only [List.mapM_cons, bind_eq_ok, hhead.2 _, ih, JsonTree.allEntries,
        Bool.and_eq_true, List.map_cons]
      constructor
      · intro h
        obtain ⟨u, ⟨hshort, rfl⟩, us', ⟨hshorts, rfl⟩, heq⟩ := h
        exact ⟨⟨hshort, hshorts⟩, (Except.ok.inj heq).symm⟩
      · intro h
        obtain ⟨⟨hshort, hshorts⟩, rfl⟩ := h
        exact ⟨_, ⟨hshort, rfl⟩, _, ⟨hshorts, rfl⟩, rfl⟩

/-- String keys have an order. -/
theorem keysOrdered_of_entries {es : List (Value × Value)} {ts : List (PyStr × JsonValue)}
    (hes : List.Forall₂ Value.EntryOf es ts) : Json.keysOrdered (es.map Prod.fst) = true := by
  have hkeys : ∀ k ∈ es.map Prod.fst, ∃ s, k = Value.str s := by
    induction hes with
    | nil => simp
    | @cons e f es ts hhead _ ih =>
        rw [List.map_cons, List.forall_mem_cons]
        exact ⟨⟨f.1, hhead.1⟩, ih⟩
  rw [Json.keysOrdered, Bool.or_eq_true, Bool.or_eq_true]
  refine Or.inl (Or.inr (List.all_eq_true.mpr fun k hk => ?_))
  obtain ⟨s, rfl⟩ := hkeys k hk
  rfl

/-- On a JSON value the standard library's encoder prints compact JSON, unless it meets an
integer too long to print. -/
theorem dumps_prints (hrepr : ∀ x : FiniteFloat, x.val.text rt = floats.print x) {v : Value}
    {t : JsonValue} (hv : v.toJson = some t) :
    Prints (Json.dumps rt canonicalOptions v) (t.all isShort) (fallbackText floats t) := by
  induction v generalizing t with
  | none =>
      cases hv
      exact prints_ok _
  | bool b =>
      cases hv
      exact prints_ok _
  | int n =>
      cases hv
      intro u
      simp only [Json.dumps, intStr, JsonTree.all, isShort]
      by_cases hlong : 10 ^ intMaxStrDigits ≤ n.natAbs
      · rw [if_pos hlong, decide_eq_false (by omega)]
        simp
      · rw [if_neg hlong, decide_eq_true (by omega)]
        exact prints_ok _ u
  | float x =>
      obtain ⟨hx, rfl⟩ := Value.toJson_float_eq_some.mp hv
      -- Infinities and NaN stand for no JSON value, so the printer is asked for a finite float.
      have htext : Json.encodeFloat rt x = floats.print ⟨x, hx⟩ := by
        cases x with
        | finite q => exact hrepr ⟨.finite q, hx⟩
        | negZero => exact hrepr ⟨.negZero, hx⟩
        | inf negative => cases hx
        | nan => cases hx
      rw [Json.dumps, htext]
      exact prints_ok _
  | str s =>
      cases hv
      exact prints_ok _
  | list xs ih =>
      obtain ⟨ts, hts, rfl⟩ := Value.toJson_list_eq_some.mp hv
      have hlist := dumpsList_prints (forall₂_imp_mem hts fun x hx t _ ht => ih x hx ht)
      intro u
      rw [Json.dumps, map_eq_ok, fallbackText, JsonValue.text_arr]
      simp only [hlist, JsonTree.all]
      constructor
      · intro h
        obtain ⟨us, ⟨hshort, rfl⟩, rfl⟩ := h
        exact ⟨hshort, rfl⟩
      · intro h
        obtain ⟨hshort, rfl⟩ := h
        exact ⟨_, ⟨hshort, rfl⟩, rfl⟩
  | dict es ih =>
      obtain ⟨ts, hts, -, rfl⟩ := Value.toJson_dict_eq_some.mp hv
      have hentries : List.Forall₂ (PrintsEntry floats)
          (Json.dumpsEntries rt canonicalOptions es) ts :=
        dumpsEntries_prints (forall₂_imp_mem hts fun e he f _ hf => ⟨hf.1, (ih e he).2 hf.2⟩)
      -- Both sides sort by the same keys, so the entries still correspond.
      have hsorted : List.Forall₂ (PrintsEntry floats)
          (Json.sortEntries (Json.dumpsEntries rt canonicalOptions es)) (sortByKey ts) := by
        refine forall₂_insertionSort (fun h h' => ?_) hentries
        rw [h.1, h'.1, Json.keyLe]
      intro u
      rw [Json.dumps, if_pos (keysOrdered_of_entries hts), map_eq_ok, fallbackText,
        JsonValue.text_obj]
      simp only [mapM_prints hsorted, JsonTree.all]
      constructor
      · intro h
        obtain ⟨us, ⟨hshort, rfl⟩, rfl⟩ := h
        exact ⟨hshort, rfl⟩
      · intro h
        obtain ⟨hshort, rfl⟩ := h
        exact ⟨_, ⟨hshort, rfl⟩, rfl⟩
  | _ => cases hv

end Dumps

/-! ### UTF-8 -/

/-- How many bytes follow this one in its character, and what it adds to their value. -/
def utf8Lead (a : Fin 256) : ℕ × ℕ :=
  if a.val < 0x80 then (0, a.val)
  else if a.val < 0xE0 then (1, a.val - 0xC0)
  else if a.val < 0xF0 then (2, a.val - 0xE0)
  else (3, a.val - 0xF0)

/-- One character off the front of UTF-8 bytes. -/
def readUtf8 : PyBytes → Option (CodePoint × PyBytes)
  | [] => none
  | a :: s =>
    let (count, lead) := utf8Lead a
    let value := (s.take count).foldl (fun acc b => 64 * acc + (b.val - 0x80)) lead
    some (Fin.ofNat 0x110000 value, s.drop count)

theorem utf8Lead_ofNat {n : ℕ} (hn : n < 256) : utf8Lead (Fin.ofNat 256 n) =
    if n < 0x80 then (0, n) else if n < 0xE0 then (1, n - 0xC0)
    else if n < 0xF0 then (2, n - 0xE0) else (3, n - 0xF0) := by
  simp [utf8Lead, Nat.mod_eq_of_lt hn]

theorem val_tail (n : ℕ) : (Fin.ofNat 256 (0x80 + n % 64)).val - 0x80 = n % 64 := by
  rw [Fin.val_ofNat, Nat.mod_eq_of_lt (by omega)]
  omega

theorem reads_utf8Char : Reads readUtf8 utf8Char := by
  intro c rest
  have hc := c.isLt
  have hself : Fin.ofNat 0x110000 c.val = c := by simp
  unfold utf8Char
  dsimp only
  split_ifs with h1 h2 h3
  · simp only [List.cons_append, List.nil_append, readUtf8]
    rw [utf8Lead_ofNat (by omega), if_pos h1]
    exact congrArg (fun d => some (d, rest)) hself
  · simp only [List.cons_append, List.nil_append, readUtf8]
    rw [utf8Lead_ofNat (by omega), if_neg (by omega), if_pos (by omega)]
    simp only [List.take_succ_cons, List.take_zero, List.foldl_cons, List.foldl_nil, val_tail,
      List.drop_succ_cons, List.drop_zero]
    rw [show 64 * (0xC0 + c.val / 64 - 0xC0) + c.val / 1 % 64 = c.val by omega, hself]
  · simp only [List.cons_append, List.nil_append, readUtf8]
    rw [utf8Lead_ofNat (by omega), if_neg (by omega), if_neg (by omega), if_pos (by omega)]
    simp only [List.take_succ_cons, List.take_zero, List.foldl_cons, List.foldl_nil, val_tail,
      List.drop_succ_cons, List.drop_zero]
    rw [show 64 * (64 * (0xE0 + c.val / 4096 - 0xE0) + c.val / 64 % 64) + c.val / 1 % 64 = c.val
      by omega, hself]
  · simp only [List.cons_append, List.nil_append, readUtf8]
    rw [utf8Lead_ofNat (by omega), if_neg (by omega), if_neg (by omega), if_neg (by omega)]
    simp only [List.take_succ_cons, List.take_zero, List.foldl_cons, List.foldl_nil, val_tail,
      List.drop_succ_cons, List.drop_zero]
    rw [show 64 * (64 * (64 * (0xF0 + c.val / 262144 - 0xF0) + c.val / 4096 % 64) +
      c.val / 64 % 64) + c.val / 1 % 64 = c.val by omega, hself]

/-- The UTF-8 of a string; where the codec refuses a surrogate, the three bytes it would
have. -/
def utf8 (s : PyStr) : PyBytes := s.flatMap utf8Char

theorem utf8_injective : Function.Injective utf8 := by
  intro s t heq
  exact (reads_utf8Char.flatMap_append_inj reads_utf8Char rfl rfl (congrArg (· ++ []) heq)).1

theorem encodeUtf8_eq_ok {s : PyStr} {bytes : PyBytes} (h : encodeUtf8 s = .ok bytes) :
    bytes = utf8 s := by
  unfold encodeUtf8 at h
  split at h
  · cases h
  · exact (Except.ok.inj h).symm

/-! ### The canonical bytes -/

/-- The integers `_has_oversized_int` does not look for. -/
def isInt64 : JsonScalar → Bool
  | .int n => decide (int64Min ≤ n ∧ n ≤ int64Max)
  | _ => true

theorem hasOversizedIntList_eq {xs : List Value} {ts : List JsonValue}
    (h : List.Forall₂ (fun x t => hasOversizedInt x = !t.all isInt64) xs ts) :
    hasOversizedIntList xs = !JsonTree.allList isInt64 ts := by
  induction h with
  | nil => rfl
  | cons hhead _ ih => rw [hasOversizedIntList, hhead, ih, JsonTree.allList, Bool.not_and]

theorem hasOversizedIntEntries_eq {es : List (Value × Value)} {ts : List (PyStr × JsonValue)}
    (h : List.Forall₂ (fun e f => e.1 = .str f.1 ∧ hasOversizedInt e.2 = !f.2.all isInt64) es ts) :
    hasOversizedIntEntries es = !JsonTree.allEntries isInt64 ts := by
  induction h with
  | nil => rfl
  | @cons e f es ts hhead _ ih =>
      obtain ⟨k, v⟩ := e
      obtain ⟨rfl, hvalue⟩ := hhead
      rw [hasOversizedIntEntries, hvalue, ih, JsonTree.allEntries, Bool.not_and]
      rfl

/-- Whether a value holds an oversized integer is a matter of its JSON value. -/
theorem hasOversizedInt_eq {v : Value} {t : JsonValue} (hv : v.toJson = some t) :
    hasOversizedInt v = !t.all isInt64 := by
  induction v generalizing t with
  | none =>
      cases hv
      rfl
  | bool b =>
      cases hv
      rfl
  | int n =>
      cases hv
      rw [hasOversizedInt, JsonTree.all, isInt64, ← decide_not, decide_eq_decide]
      omega
  | float x =>
      obtain ⟨hx, rfl⟩ := Value.toJson_float_eq_some.mp hv
      rfl
  | str s =>
      cases hv
      rfl
  | list xs ih =>
      obtain ⟨ts, hts, rfl⟩ := Value.toJson_list_eq_some.mp hv
      exact hasOversizedIntList_eq (forall₂_imp_mem hts fun x hx t _ ht => ih x hx ht)
  | dict es ih =>
      obtain ⟨ts, hts, -, rfl⟩ := Value.toJson_dict_eq_some.mp hv
      have hperm : (sortByKey ts).Perm ts := List.perm_insertionSort _ ts
      have hes := forall₂_imp_mem (S := fun e f => e.1 = .str f.1 ∧
        hasOversizedInt e.2 = !f.2.all isInt64) hts fun e he f _ hf => ⟨hf.1, (ih e he).2 hf.2⟩
      rw [hasOversizedInt, hasOversizedIntEntries_eq hes, JsonTree.all, JsonTree.allEntries_eq,
        JsonTree.allEntries_eq, hperm.all_eq]
  | _ => cases hv

/-- What is assumed of the fast encoder on JSON values: the text it prints, and that
its refusals depend on the shape of a value only. -/
structure OrjsonPrints (lib : HashLibrary) where
  spell : CodePoint → PyStr
  reads : Reads readChar spell
  floats : FloatPrinter
  prints : ∀ {v t bytes}, v.toJson = some t → lib.orjsonDumps v = .ok bytes →
    bytes = utf8 (t.text spell floats)
  refuses : ∀ {v w s t e}, v.toJson = some s → w.toJson = some t → s.shape = t.shape →
    lib.orjsonDumps v = .error e → ∃ e', lib.orjsonDumps w = .error e' ∧ e'.kind = e.kind

section Identity

/-- The two encoders on JSON values, as they are relied on. -/
structure EncoderSpec (lib : HashLibrary) (rt : PyRuntime) where
  orjson : OrjsonPrints lib
  floats : FloatPrinter
  repr : ∀ x : FiniteFloat, x.val.text rt = floats.print x

variable {lib : HashLibrary} {rt : PyRuntime} {floats : FloatPrinter} {v w : Value}
  {s t : JsonValue} {bytes bytes' : PyBytes}

/-- The bytes are those of the fast encoder, or it refused and they are those of the
fallback. -/
theorem canonicalBytes_eq_ok (orjson : OrjsonPrints lib)
    (hrepr : ∀ x : FiniteFloat, x.val.text rt = floats.print x) (hs : v.toJson = some s)
    (hv : canonicalBytes lib rt v = .ok bytes) :
    (lib.orjsonDumps v = .ok bytes ∧ bytes = utf8 (s.text orjson.spell orjson.floats)) ∨
      ∃ e, lib.orjsonDumps v = .error e ∧ bytes = utf8 (fallbackText floats s) := by
  unfold canonicalBytes at hv
  split at hv
  · next h =>
      obtain rfl := Except.ok.inj hv
      exact Or.inl ⟨h, orjson.prints hs h⟩
  · next e h =>
      split at hv
      · obtain ⟨text, htext, hbytes⟩ := bind_eq_ok.mp hv
        rw [((dumps_prints hrepr hs text).mp htext).2] at hbytes
        exact Or.inr ⟨e, h, encodeUtf8_eq_ok hbytes⟩
      · cases hv

/-- The fast encoder serves values of one shape alike. -/
theorem not_refused_of_shape (orjson : OrjsonPrints lib) (hs : v.toJson = some s)
    (ht : w.toJson = some t) (hshape : s.shape = t.shape) {e : PyExc}
    (hv : lib.orjsonDumps v = .error e) (hw : lib.orjsonDumps w = .ok bytes) : False := by
  obtain ⟨e', hrefused, -⟩ := orjson.refuses hs ht hshape hv
  rw [hw] at hrefused
  cases hrefused

/-- The bytes tell the JSON value. -/
theorem toJson_eq_of_canonicalBytes (orjson : OrjsonPrints lib)
    (hrepr : ∀ x : FiniteFloat, x.val.text rt = floats.print x) (hs : v.toJson = some s)
    (ht : w.toJson = some t) (hv : canonicalBytes lib rt v = .ok bytes)
    (hw : canonicalBytes lib rt w = .ok bytes) : s = t := by
  rcases canonicalBytes_eq_ok orjson hrepr hs hv with ⟨hv, hbytes⟩ | ⟨e, hv, hbytes⟩
  · rcases canonicalBytes_eq_ok orjson hrepr ht hw with ⟨-, hbytes'⟩ | ⟨e', hw, hbytes'⟩
    · exact JsonValue.text_injective orjson.reads orjson.floats
        (utf8_injective (hbytes.symm.trans hbytes'))
    -- Only the second went to the fallback, although the two have one shape.
    · have hshape := JsonValue.shape_eq_of_text orjson.reads reads_escapeChar
        (utf8_injective (hbytes.symm.trans hbytes'))
      exact (not_refused_of_shape orjson ht hs hshape.symm hw hv).elim
  · rcases canonicalBytes_eq_ok orjson hrepr ht hw with ⟨hw, hbytes'⟩ | ⟨e', -, hbytes'⟩
    · have hshape := JsonValue.shape_eq_of_text reads_escapeChar orjson.reads
        (utf8_injective (hbytes.symm.trans hbytes'))
      exact (not_refused_of_shape orjson hs ht hshape hv hw).elim
    · exact JsonValue.text_injective reads_escapeChar floats
        (utf8_injective (hbytes.symm.trans hbytes'))

/-- The JSON value determines the bytes, and whether there are any. -/
theorem canonicalBytes_congr (orjson : OrjsonPrints lib)
    (hrepr : ∀ x : FiniteFloat, x.val.text rt = floats.print x) (hs : v.toJson = some s)
    (ht : w.toJson = some s) (hv : canonicalBytes lib rt v = .ok bytes) :
    canonicalBytes lib rt w = .ok bytes := by
  unfold canonicalBytes at hv ⊢
  cases hfast : lib.orjsonDumps v with
  | ok bytes₀ =>
      rw [hfast] at hv
      obtain rfl := Except.ok.inj hv
      cases hfast' : lib.orjsonDumps w with
      | ok bytes₁ => rw [orjson.prints hs hfast, orjson.prints ht hfast']
      | error e => exact (not_refused_of_shape orjson ht hs rfl hfast' hfast).elim
  | error e =>
      obtain ⟨e', hfast', hkind⟩ := orjson.refuses hs ht rfl hfast
      rw [hfast] at hv
      rw [hfast']
      simp only [hkind, hasOversizedInt_eq hs, hasOversizedInt_eq ht] at hv ⊢
      split at hv
      · next hfallback =>
          rw [if_pos hfallback]
          obtain ⟨text, htext, hbytes⟩ := bind_eq_ok.mp hv
          refine bind_eq_ok.mpr ⟨text, ?_, hbytes⟩
          exact (dumps_prints hrepr ht text).mpr ((dumps_prints hrepr hs text).mp htext)
      · cases hv

/-- **The canonical bytes are the identity of a JSON value.** Whichever encoder serves
the two values, their bytes are the same exactly when they are one JSON value up to the
insertion order of dictionaries. -/
theorem canonicalBytes_eq_iff (orjson : OrjsonPrints lib)
    (hrepr : ∀ x : FiniteFloat, x.val.text rt = floats.print x) (hs : v.toJson = some s)
    (ht : w.toJson = some t) (hv : canonicalBytes lib rt v = .ok bytes)
    (hw : canonicalBytes lib rt w = .ok bytes') : bytes = bytes' ↔ s = t := by
  constructor
  · intro heq
    subst heq
    exact toJson_eq_of_canonicalBytes orjson hrepr hs ht hv hw
  · intro heq
    subst heq
    exact Except.ok.inj ((canonicalBytes_congr orjson hrepr hs ht hv).symm.trans hw)

end Identity

/-! ### Records -/

/-- A value that is some JSON value. -/
def Value.IsJson (v : Value) : Prop := ∃ t, v.toJson = some t

theorem Value.memberEq_of_isJson {w : Value} (h : w.IsJson) (v : Value) :
    v.memberEq w = v.pyEq w := by
  refine memberEq_of_ne fun i hw => ?_
  subst hw
  obtain ⟨t, ht⟩ := h
  obtain ⟨hfinite, -⟩ := toJson_float_eq_some.mp ht
  cases hfinite

/-- Two documents have the same bytes when they are dumped to one JSON value, and only then. -/
theorem bytes_of_dump_iff {lib : HashLibrary} {rt : PyRuntime} {floats : FloatPrinter}
    (orjson : OrjsonPrints lib) (hrepr : ∀ x : FiniteFloat, x.val.text rt = floats.print x)
    {α : Type} (value : α → Value) {dump dump' : Result α}
    (hjson : ∀ a, dump = .ok a → (value a).IsJson)
    (hjson' : ∀ a, dump' = .ok a → (value a).IsJson) {bytes : PyBytes}
    (h : (dump >>= fun a => canonicalBytes lib rt (value a)) = .ok bytes) :
    (dump' >>= fun a => canonicalBytes lib rt (value a)) = .ok bytes ↔
      ∃ a b, dump = .ok a ∧ dump' = .ok b ∧ (value a).toJson = (value b).toJson := by
  obtain ⟨a, ha, hbytes⟩ := bind_eq_ok.mp h
  obtain ⟨s, hs⟩ := hjson a ha
  constructor
  · intro hother
    obtain ⟨b, hb, hbytes'⟩ := bind_eq_ok.mp hother
    obtain ⟨t, ht⟩ := hjson' b hb
    refine ⟨a, b, ha, hb, ?_⟩
    rw [hs, ht, toJson_eq_of_canonicalBytes orjson hrepr hs ht hbytes hbytes']
  · intro hsame
    obtain ⟨a', b, ha', hb, hequal⟩ := hsame
    obtain rfl := Except.ok.inj (ha.symm.trans ha')
    exact bind_eq_ok.mpr ⟨b, hb,
      canonicalBytes_congr orjson hrepr hs (hequal.symm.trans hs) hbytes⟩

theorem toJsonEntries_keys (ks : List PyStr) {es : List (Value × Value)}
    (hkeys : es.map Prod.fst = ks.map .str) (h : ∀ e ∈ es, e.2.IsJson) :
    ∃ ts, Value.toJsonEntries es = some ts ∧ ts.map Prod.fst = ks ∧
      ts.map (fun f => some f.2) = es.map fun e => e.2.toJson := by
  induction ks generalizing es with
  | nil =>
      obtain rfl := List.map_eq_nil_iff.mp hkeys
      exact ⟨[], rfl, rfl, rfl⟩
  | cons k ks ih =>
      obtain ⟨e, es', rfl, hkey, hrest⟩ := List.map_eq_cons_iff.mp hkeys
      obtain ⟨_, v⟩ := e
      obtain rfl : _ = Value.str k := hkey
      obtain ⟨t, ht⟩ := h _ List.mem_cons_self
      obtain ⟨ts, hts, hks, hvalues⟩ := ih hrest fun e he => h e (List.mem_cons_of_mem _ he)
      refine ⟨(k, t) :: ts, ?_, by rw [List.map_cons, hks], ?_⟩
      · simp [Value.toJsonEntries, ht, hts]
      · rw [List.map_cons, List.map_cons, hvalues, ht]

/-- A dictionary with distinct string keys is a JSON value when its values are. -/
theorem isJson_dict (ks : List PyStr) {es : List (Value × Value)}
    (hkeys : es.map Prod.fst = ks.map .str) (hnodup : ks.Nodup) (h : ∀ e ∈ es, e.2.IsJson) :
    (Value.dict es).IsJson := by
  obtain ⟨ts, hts, hks, -⟩ := toJsonEntries_keys ks hkeys h
  refine ⟨.obj (sortByKey ts), ?_⟩
  simp only [Value.toJson, hts, Option.bind_eq_bind, Option.bind_some]
  exact if_pos (hks ▸ hnodup)

/-- A reordering that keeps the order of distinct keys moves nothing. -/
theorem eq_of_perm_of_keys {α : Type} {es fs : List (PyStr × α)}
    (hkeys : es.map Prod.fst = fs.map Prod.fst) (hnodup : (es.map Prod.fst).Nodup)
    (h : es.Perm fs) : es = fs := by
  induction es generalizing fs with
  | nil => exact h.nil_eq
  | cons e es ih =>
      cases fs with
      | nil => cases hkeys
      | cons f fs =>
          rw [List.map_cons, List.map_cons, List.cons.injEq] at hkeys
          have hef : e = f := by
            have hf : f ∈ e :: es := h.mem_iff.mpr List.mem_cons_self
            exact List.inj_on_of_nodup_map hnodup List.mem_cons_self hf hkeys.1
          subst hef
          rw [ih hkeys.2 (List.nodup_cons.mp hnodup).2 (List.perm_cons e |>.mp h)]

/-- Two records of the same fields are one JSON value when their fields are. -/
theorem toJson_dict_inj (ks : List PyStr) {es fs : List (Value × Value)}
    (hes : es.map Prod.fst = ks.map .str) (hfs : fs.map Prod.fst = ks.map .str)
    (hnodup : ks.Nodup) (he : ∀ e ∈ es, e.2.IsJson) (hf : ∀ f ∈ fs, f.2.IsJson) :
    (Value.dict es).toJson = (Value.dict fs).toJson ↔
      (es.map fun e => e.2.toJson) = fs.map fun f => f.2.toJson := by
  obtain ⟨ts, hts, htks, htvalues⟩ := toJsonEntries_keys ks hes he
  obtain ⟨us, hus, huks, huvalues⟩ := toJsonEntries_keys ks hfs hf
  have htnodup : (ts.map Prod.fst).Nodup := htks ▸ hnodup
  simp only [Value.toJson, hts, hus, Option.bind_eq_bind, Option.bind_some, htks, huks,
    if_pos hnodup, Option.some.injEq, JsonTree.obj.injEq, sortByKey_eq_iff htnodup]
  rw [← htvalues, ← huvalues]
  constructor
  · intro hperm
    rw [eq_of_perm_of_keys (htks.trans huks.symm) htnodup hperm]
  · intro hvalues
    have hsnd : ts.map Prod.snd = us.map Prod.snd :=
      map_eq_map_of_forall (fun _ _ _ _ => Option.some.inj) hvalues
    exact List.Perm.of_eq ((List.zip_of_prod (htks.trans huks.symm) hsnd).trans
      (List.zip_of_prod rfl rfl).symm)

/-- The bytes of a record tell its fields. -/
theorem fields_eq_of_canonicalBytes {lib : HashLibrary} {rt : PyRuntime} {floats : FloatPrinter}
    (orjson : OrjsonPrints lib) (hrepr : ∀ x : FiniteFloat, x.val.text rt = floats.print x)
    (ks : List PyStr) {es fs : List (Value × Value)} {bytes : PyBytes}
    (hes : es.map Prod.fst = ks.map .str) (hfs : fs.map Prod.fst = ks.map .str)
    (hnodup : ks.Nodup) (he : ∀ e ∈ es, e.2.IsJson) (hf : ∀ f ∈ fs, f.2.IsJson)
    (hv : canonicalBytes lib rt (.dict es) = .ok bytes)
    (hw : canonicalBytes lib rt (.dict fs) = .ok bytes) :
    (es.map fun e => e.2.toJson) = fs.map fun f => f.2.toJson := by
  obtain ⟨s, hs⟩ := isJson_dict ks hes hnodup he
  obtain ⟨t, ht⟩ := isJson_dict ks hfs hnodup hf
  refine (toJson_dict_inj ks hes hfs hnodup he hf).mp ?_
  rw [hs, ht, toJson_eq_of_canonicalBytes orjson hrepr hs ht hv hw]

theorem isJson_str (s : PyStr) : (Value.str s).IsJson := ⟨.str s, rfl⟩

theorem isJson_dumpOption {α : Type} {dump : α → Value} (h : ∀ a, (dump a).IsJson)
    (o : Option α) : (dumpOption dump o).IsJson := by
  cases o with
  | none => exact ⟨.scalar .null, rfl⟩
  | some a => exact h a

theorem isJson_context (context : ActionContext) : context.dump.IsJson := by
  have huuid : ∀ o, (dumpOption (.str ∘ uuidText) o).IsJson :=
    isJson_dumpOption fun u => isJson_str (uuidText u)
  have hstr := isJson_dumpOption isJson_str
  have hint := isJson_dumpOption fun n : ℤ => (⟨.scalar (.int n), rfl⟩ : (Value.int n).IsJson)
  have htags : (Value.dict (context.tags.entries.map fun e => (.str e.1, .str e.2))).IsJson := by
    refine isJson_dict (context.tags.entries.map Prod.fst) ?_ context.tags.nodup fun e he => ?_
    · rw [List.map_map, List.map_map]
      rfl
    · obtain ⟨e', -, rfl⟩ := List.mem_map.mp he
      exact isJson_str e'.2
  refine isJson_dict [py "session_id", py "parent_action_id", py "correlation_id",
    py "tenant_id", py "environment", py "invoked_by", py "plan_id", py "step_index", py "tags"]
    rfl (by decide) ?_
  simp only [List.forall_mem_cons, isJson_str, huuid, hstr, hint, htags, List.not_mem_nil,
    false_imp_iff, implies_true, and_self]

/-! ### Libraries as they are on small values -/

/-- Integral floats as `repr` prints the short ones; what stands behind the point tells
the denominator. -/
def printRatio (x : FiniteFloat) : PyStr :=
  match x.val with
  | .finite q => intText q.num ++ py "." ++ natText (q.den - 1)
  | _ => py "-0.0"

/-- No integer is printed as a zero with a sign. -/
theorem intText_ne_negZero (n : ℤ) : intText n ≠ py "-0" := by
  intro heq
  have hsplit : py "-0" = py "-" ++ natText 0 := by decide
  unfold intText at heq
  split at heq
  · next hneg =>
      rw [hsplit] at heq
      have habs := natText_injective (List.append_cancel_left heq)
      omega
  · have hminus : (0x2D : CodePoint) ∈ natText n.natAbs := by
      rw [heq]
      decide
    exact absurd (natText_digits hminus).1 (by decide)

/-- The part before the first point, and the part behind it. -/
theorem point_append_inj {a b u v : PyStr} (ha : (0x2E : CodePoint) ∉ a)
    (hb : (0x2E : CodePoint) ∉ b) (heq : a ++ py "." ++ u = b ++ py "." ++ v) :
    a = b ∧ u = v := by
  have hpoint : py "." = [0x2E] := by decide
  have hletters : ∀ {w : PyStr}, (0x2E : CodePoint) ∉ w → ∀ c ∈ w, (c != 0x2E) = true := by
    intro w hw c hc
    rw [bne_iff_ne]
    intro hdot
    exact hw (hdot ▸ hc)
  rw [hpoint, List.append_assoc, List.append_assoc] at heq
  obtain ⟨hab, hrest⟩ := word_append_inj (hletters ha) (hletters hb) (stops_cons (by decide))
    (stops_cons (by decide)) heq
  exact ⟨hab, (List.cons.inj hrest).2⟩

theorem printRatio_injective : Function.Injective printRatio := by
  have hint : ∀ n : ℤ, (0x2E : CodePoint) ∉ intText n :=
    fun n hmem => (intText_letters hmem).2.1 rfl
  have hzero : ∀ q : ℚ, intText q.num ++ py "." ++ natText (q.den - 1) ≠ py "-0.0" := by
    intro q heq
    have hsplit : py "-0.0" = py "-0" ++ py "." ++ py "0" := by decide
    rw [hsplit] at heq
    exact intText_ne_negZero _ (point_append_inj (hint q.num) (by decide) heq).1
  intro x y heq
  obtain ⟨x, hx⟩ := x
  obtain ⟨y, hy⟩ := y
  cases x with
  | finite p =>
      cases y with
      | finite q =>
          obtain ⟨hnum, hden⟩ := point_append_inj (hint p.num) (hint q.num) heq
          have hden' := natText_injective hden
          have hp := p.den_pos
          have hq := q.den_pos
          have hpq : p = q := Rat.ext (intText_injective hnum) (by omega)
          subst hpq
          rfl
      | negZero => exact absurd heq (hzero p)
      | inf negative => cases hy
      | nan => cases hy
  | negZero =>
      cases y with
      | finite q => exact absurd heq.symm (hzero q)
      | negZero => rfl
      | inf negative => cases hy
      | nan => cases hy
  | inf negative => cases hx
  | nan => cases hx

/-- The floats of a library that prints them by `printRatio`. -/
def ratioFloats : FloatPrinter where
  print := printRatio
  injective := printRatio_injective
  number := by
    have hzero : (py "-0.0").all isNumberChar = true := by decide
    intro x c hc
    unfold printRatio at hc
    split at hc
    · next q _ =>
        simp only [List.mem_append] at hc
        rcases hc with (hnum | hpoint) | hden
        · exact (intText_letters hnum).1
        · exact List.all_eq_true.mp (by decide : (py ".").all isNumberChar = true) c hpoint
        · simp [isNumberChar, natText_digits hden]
    · exact List.all_eq_true.mp hzero c hc
  marked := by
    have hpoint : (0x2E : CodePoint) ∈ py "." := by decide
    intro x
    unfold printRatio
    split
    · exact Or.inl (List.mem_append_left _ (List.mem_append_right _ hpoint))
    · exact Or.inl (by decide)

/-- The integers of 64 bits, with a sign or without. -/
def fitsWord : JsonScalar → Bool
  | .int n => decide (int64Min ≤ n ∧ n < 2 ^ 64)
  | _ => true

/-- A library that prints floats by `printRatio`, refuses integers beyond 64 bits, leaves
arguments as they are and hashes by writing the bytes as characters. -/
def ratioLibrary : HashLibrary where
  orjsonDumps v :=
    match v.toJson with
    | some t =>
      if t.shape.all fitsWord then .ok (utf8 (t.text (Json.escapeChar false) ratioFloats))
      else .error ⟨.typeError, py "Integer exceeds 64-bit range"⟩
    | none => .error ⟨.typeError, py "Type is not JSON serializable"⟩
  dumpArguments arguments := .ok arguments.toValue
  sha256Hex bytes := bytes.map fun b => Fin.ofNat 0x110000 b.val

/-- The standard library of Python, where it prints floats by `printRatio`. -/
def ratioRuntime : PyRuntime := ⟨fun q => printRatio ⟨.finite q, rfl⟩, fun _ => []⟩

theorem ratioRuntime_repr (x : FiniteFloat) : x.val.text ratioRuntime = ratioFloats.print x := by
  obtain ⟨x, hx⟩ := x
  cases x with
  | finite q => rfl
  | negZero => rfl
  | inf negative => cases hx
  | nan => cases hx

def ratioPrints : OrjsonPrints ratioLibrary where
  spell := Json.escapeChar false
  reads := reads_escapeChar
  floats := ratioFloats
  prints := by
    intro v t bytes hv hdumps
    simp only [ratioLibrary, hv] at hdumps
    split at hdumps
    · exact (Except.ok.inj hdumps).symm
    · cases hdumps
  refuses := by
    intro v w s t e hs ht hshape hdumps
    simp only [ratioLibrary, hs] at hdumps
    simp only [ratioLibrary, ht, ← hshape]
    split at hdumps
    · cases hdumps
    · next hno =>
        obtain rfl := Except.error.inj hdumps
        exact ⟨_, if_neg hno, rfl⟩

theorem ratioLibrary_sha256Hex_injective : Function.Injective ratioLibrary.sha256Hex := by
  refine List.map_injective_iff.mpr fun b c hbc => Fin.ext ?_
  have hval := congrArg Fin.val hbc
  simp only [Fin.val_ofNat] at hval
  omega

/-- Two insertion orders of one dictionary, one integer of which is too long for the fast
encoder. -/
theorem canonicalBytes_insertionOrder :
    canonicalBytes ratioLibrary ratioRuntime
      (.dict [(.str (py "n"), .int (2 ^ 64)), (.str (py "a"), .float (.finite 2))]) =
    canonicalBytes ratioLibrary ratioRuntime
      (.dict [(.str (py "a"), .float (.finite 2)), (.str (py "n"), .int (2 ^ 64))]) := by
  have hv : canonicalBytes ratioLibrary ratioRuntime
      (.dict [(.str (py "n"), .int (2 ^ 64)), (.str (py "a"), .float (.finite 2))]) =
      .ok (utf8 (py "\x7b\"a\":2.0,\"n\":18446744073709551616\x7d")) := by decide +kernel
  have hw : canonicalBytes ratioLibrary ratioRuntime
      (.dict [(.str (py "a"), .float (.finite 2)), (.str (py "n"), .int (2 ^ 64))]) =
      .ok (utf8 (py "\x7b\"a\":2.0,\"n\":18446744073709551616\x7d")) := by decide +kernel
  have hbytes := (canonicalBytes_eq_iff ratioPrints ratioRuntime_repr rfl rfl hv hw).mpr rfl
  exact hv.trans ((congrArg Except.ok hbytes).trans hw.symm)

end AgentSentinel
