import AgentSentinel.Utils.JsonEquality

/-!
# AgentSentinel.Utils.Differences

How two values differ, place by place. Equality and the JSON form both go through lists,
tuples and dictionaries with string keys, so what they say of two values is settled at the
places where the values part: where one has an element or a key that the other has not, where
a list stands against a tuple, and at the leaves. Each such difference is seen by both, by
equality alone, or by the JSON form alone.
-/

namespace AgentSentinel

open Lib

/-! ### Differences -/

/-- Who sees a difference. -/
inductive Difference
  /-- Equality alone: a list and a tuple, a date and its text. -/
  | hidden
  /-- The JSON form alone: `1`, `1.0` and `True`. -/
  | spelled
  /-- Both. -/
  | real
  deriving DecidableEq

theorem Difference.forall_ne_spelled {P : Difference → Prop} :
    (∀ d, d ≠ .spelled → P d) ↔ P .hidden ∧ P .real := by
  constructor
  · intro h
    exact ⟨h _ (by decide), h _ (by decide)⟩
  · rintro ⟨hhidden, hreal⟩ (_ | _ | _) hne
    · exact hhidden
    · exact absurd rfl hne
    · exact hreal

theorem Difference.forall_ne_hidden {P : Difference → Prop} :
    (∀ d, d ≠ .hidden → P d) ↔ P .spelled ∧ P .real := by
  constructor
  · intro h
    exact ⟨h _ (by decide), h _ (by decide)⟩
  · rintro ⟨hspelled, hreal⟩ (_ | _ | _) hne
    · exact absurd rfl hne
    · exact hspelled
    · exact hreal

/-- The elements of a list or a tuple. -/
def Value.elements : Value → Option (List Value)
  | list xs => some xs
  | tuple xs => some xs
  | _ => .none

def Value.isTuple : Value → Bool
  | tuple _ => true
  | _ => false

variable (mode : JsonMode)

/-- What sets two leaves apart, compared as members of a container. -/
def LeafDiffers : Difference → Value → Value → Prop
  | .hidden, v, w => v.memberEq w = false ∧ mode.Alike v w
  | .spelled, v, w => v.memberEq w = true ∧ ¬ mode.Alike v w
  | .real, v, w => v.memberEq w = false ∧ ¬ mode.Alike v w

/-- The comparison does not go into the two values, which are neither sequences nor
dictionaries with string keys. -/
def Leaves (v w : Value) : Prop :=
  (v.elements = .none ∨ w.elements = .none) ∧
    ¬ ∃ m n : PyDict Value, v = m.toValue ∧ w = n.toValue

/-- The two values differ in this way at some place. -/
inductive Differs : Difference → Value → Value → Prop
  | kind {v w : Value} {xs ys : List Value} (hv : v.elements = some xs)
      (hw : w.elements = some ys) (h : v.isTuple ≠ w.isTuple) : Differs .hidden v w
  | length {v w : Value} {xs ys : List Value} (hv : v.elements = some xs)
      (hw : w.elements = some ys) (h : xs.length ≠ ys.length) : Differs .real v w
  | element {d : Difference} {v w x y : Value} {xs ys : List Value} {i : ℕ}
      (hv : v.elements = some xs) (hw : w.elements = some ys) (hx : xs[i]? = some x)
      (hy : ys[i]? = some y) (h : Differs d x y) : Differs d v w
  | key {v w : Value} {m n : PyDict Value} {k : PyStr} (hv : v = m.toValue) (hw : w = n.toValue)
      (h : (m.get k).isSome ≠ (n.get k).isSome) : Differs .real v w
  | entry {d : Difference} {v w x y : Value} {m n : PyDict Value} {k : PyStr}
      (hv : v = m.toValue) (hw : w = n.toValue) (hx : m.get k = some x) (hy : n.get k = some y)
      (h : Differs d x y) : Differs d v w
  | leaf {d : Difference} {v w : Value} (hleaf : Leaves v w) (h : LeafDiffers mode d v w) :
      Differs d v w

/-! ### Comparisons that go place by place -/

/-- The comparison sees these differences, and goes through containers. -/
structure Placewise (sees : Difference → Prop) (R : Value → Value → Prop) : Prop where
  real : sees .real
  sequence : ∀ {v w : Value} {xs ys : List Value}, v.elements = some xs → w.elements = some ys →
    (R v w ↔ (v.isTuple ≠ w.isTuple → ¬ sees .hidden) ∧ List.Forall₂ R xs ys)
  dictionary : ∀ m n : PyDict Value,
    R m.toValue n.toValue ↔ ∀ k, Option.Rel R (m.get k) (n.get k)
  leaf : ∀ {v w : Value}, Leaves v w → (R v w ↔ ∀ d, sees d → ¬ LeafDiffers mode d v w)

namespace Placewise

variable {mode} {sees : Difference → Prop} {R : Value → Value → Prop} {v w : Value}

theorem elements_toValue (m : PyDict Value) : m.toValue.elements = .none := rfl

theorem sequence_iff (h : Placewise mode sees R) {xs ys : List Value} (hv : v.elements = some xs)
    (hw : w.elements = some ys)
    (ih : ∀ x ∈ xs, ∀ y, R x y ↔ ∀ d, sees d → ¬ Differs mode d x y) :
    R v w ↔ ∀ d, sees d → ¬ Differs mode d v w := by
  rw [h.sequence hv hw, forall₂_iff_getElem?]
  constructor
  · intro hsame d hd hdiffers
    obtain ⟨hkind, hlength, hplaces⟩ := hsame
    cases hdiffers with
    | kind _ _ hne => exact hkind hne hd
    | length hv' hw' hne =>
        obtain rfl := Option.some.inj (hv.symm.trans hv')
        obtain rfl := Option.some.inj (hw.symm.trans hw')
        exact hne hlength
    | @element _ _ _ x y _ _ i hv' hw' hx hy hxy =>
        obtain rfl := Option.some.inj (hv.symm.trans hv')
        obtain rfl := Option.some.inj (hw.symm.trans hw')
        exact (ih x (List.mem_of_getElem? hx) y).mp (hplaces i x y hx hy) d hd hxy
    | key hm => simp [hm, elements_toValue] at hv
    | entry hm => simp [hm, elements_toValue] at hv
    | leaf hleaf => simp [hv, hw, Leaves] at hleaf
  · intro hnone
    refine ⟨fun hne hd => hnone _ hd (.kind hv hw hne), ?_, fun i x y hx hy => ?_⟩
    · by_contra hne
      exact hnone _ h.real (.length hv hw hne)
    · rw [ih x (List.mem_of_getElem? hx) y]
      exact fun d hd hxy => hnone d hd (.element hv hw hx hy hxy)

theorem dictionary_iff (h : Placewise mode sees R) {m n : PyDict Value}
    (ih : ∀ e ∈ m.entries, ∀ y, R e.2 y ↔ ∀ d, sees d → ¬ Differs mode d e.2 y) :
    R m.toValue n.toValue ↔ ∀ d, sees d → ¬ Differs mode d m.toValue n.toValue := by
  rw [h.dictionary]
  constructor
  · intro hsame d hd hdiffers
    cases hdiffers with
    | kind hv => cases hv
    | length hv => cases hv
    | element hv => cases hv
    | @key _ _ _ _ k hm hn hne =>
        obtain rfl := PyDict.toValue_injective hm
        obtain rfl := PyDict.toValue_injective hn
        exact hne (isSome_eq_of_rel (hsame k))
    | @entry _ _ _ x y _ _ k hm hn hx hy hxy =>
        obtain rfl := PyDict.toValue_injective hm
        obtain rfl := PyDict.toValue_injective hn
        have hrel := hsame k
        rw [hx, hy, Option.rel_some_some] at hrel
        exact (ih _ (PyDict.get_eq_some_iff.mp hx) y).mp hrel d hd hxy
    | leaf hleaf => exact hleaf.2 ⟨m, n, rfl, rfl⟩
  · intro hnone k
    have hkeys : (m.get k).isSome = (n.get k).isSome := by
      by_contra hne
      exact hnone _ h.real (.key rfl rfl hne)
    cases hx : m.get k with
    | none =>
        rw [hx, Option.isSome_none, eq_comm, Option.isSome_eq_false_iff, Option.isNone_iff_eq_none]
          at hkeys
        rw [hkeys]
        exact .none
    | some x =>
        rw [hx, Option.isSome_some, eq_comm, Option.isSome_iff_exists] at hkeys
        obtain ⟨y, hy⟩ := hkeys
        rw [hy]
        refine .some ((ih _ (PyDict.get_eq_some_iff.mp hx) y).mpr fun d hd hxy => ?_)
        exact hnone d hd (.entry rfl rfl hx hy hxy)

theorem leaf_iff (h : Placewise mode sees R) (hleaf : Leaves v w) :
    R v w ↔ ∀ d, sees d → ¬ Differs mode d v w := by
  rw [h.leaf hleaf]
  refine forall₂_congr fun d _ => not_congr ⟨.leaf hleaf, fun hdiffers => ?_⟩
  cases hdiffers with
  | kind hv hw => simp [Leaves, hv, hw] at hleaf
  | length hv hw => simp [Leaves, hv, hw] at hleaf
  | element hv hw => simp [Leaves, hv, hw] at hleaf
  | key hm hn => exact absurd ⟨_, _, hm, hn⟩ hleaf.2
  | entry hm hn => exact absurd ⟨_, _, hm, hn⟩ hleaf.2
  | leaf _ hd => exact hd

/-- **What a comparison that goes place by place says of two values** is whether they differ
somewhere in a way it sees. -/
theorem iff_not_differs (h : Placewise mode sees R) (v w : Value) :
    R v w ↔ ∀ d, sees d → ¬ Differs mode d v w := by
  induction v generalizing w with
  | list xs ih =>
      cases hw : w.elements with
      | none => exact h.leaf_iff ⟨.inr hw, fun ⟨_, _, hm, _⟩ => Value.noConfusion hm⟩
      | some ys => exact h.sequence_iff rfl hw ih
  | tuple xs ih =>
      cases hw : w.elements with
      | none => exact h.leaf_iff ⟨.inr hw, fun ⟨_, _, hm, _⟩ => Value.noConfusion hm⟩
      | some ys => exact h.sequence_iff rfl hw ih
  | dict es ih =>
      by_cases hdicts : ∃ m n : PyDict Value, .dict es = m.toValue ∧ w = n.toValue
      · obtain ⟨m, n, hm, rfl⟩ := hdicts
        obtain rfl := Value.dict.inj hm
        exact h.dictionary_iff fun e he y => (ih _ (List.mem_map.mpr ⟨e, he, rfl⟩)).2 y
      · exact h.leaf_iff ⟨.inl rfl, hdicts⟩
  | _ => exact h.leaf_iff ⟨.inl rfl, fun ⟨_, _, hm, _⟩ => Value.noConfusion hm⟩

end Placewise

/-! ### Dictionaries with the same keys -/

namespace PyDict

variable {α : Type} {m n : PyDict α}

theorem mem_keys_iff {k : PyStr} :
    k ∈ m.entries.map Prod.fst ↔ ∃ v, m.get k = some v := by
  simp [get_eq_some_iff]

/-- Dictionaries of one size are related key by key when every entry of one is related to an
entry of the other. -/
theorem rel_get_iff {R : α → α → Prop} : (∀ k, Option.Rel R (m.get k) (n.get k)) ↔
    m.entries.length = n.entries.length ∧
      ∀ k x, m.get k = some x → ∃ y, n.get k = some y ∧ R x y := by
  constructor
  · intro h
    have hkeys : ∀ k, k ∈ m.entries.map Prod.fst ↔ k ∈ n.entries.map Prod.fst := by
      intro k
      rw [mem_keys_iff, mem_keys_iff, ← Option.isSome_iff_exists, ← Option.isSome_iff_exists,
        isSome_eq_of_rel (h k)]
    have hperm := (List.perm_ext_iff_of_nodup m.nodup n.nodup).mpr hkeys
    refine ⟨by simpa using hperm.length_eq, fun k x hx => ?_⟩
    have hk := h k
    rw [hx] at hk
    exact rel_some_left.mp hk
  · rintro ⟨hlength, h⟩ k
    have hsub : m.entries.map Prod.fst ⊆ n.entries.map Prod.fst := by
      intro k hk
      obtain ⟨x, hx⟩ := mem_keys_iff.mp hk
      obtain ⟨y, hy, -⟩ := h k x hx
      exact mem_keys_iff.mpr ⟨y, hy⟩
    -- A further key of the second would make it the longer one.
    have hperm := (m.nodup.subperm hsub).perm_of_length_le (by simp [hlength])
    cases hx : m.get k with
    | some x =>
        obtain ⟨y, hy, hxy⟩ := h k x hx
        rw [hy]
        exact .some hxy
    | none =>
        cases hy : n.get k with
        | none => exact .none
        | some y =>
            obtain ⟨x, hx'⟩ := mem_keys_iff.mp (hperm.mem_iff.mpr (mem_keys_iff.mpr ⟨y, hy⟩))
            rw [hx] at hx'
            cases hx'

end PyDict

/-! ### Equality -/

namespace Value

variable {v w : Value}

theorem elements_eq_some {xs : List Value} (h : v.elements = some xs) :
    v = list xs ∨ v = tuple xs := by
  cases v <;> simp_all [elements]

theorem pyEqList_iff_forall₂ {xs ys : List Value} :
    pyEqList xs ys = true ↔ List.Forall₂ (fun x y => x.memberEq y = true) xs ys := by
  induction xs generalizing ys with
  | nil => cases ys <;> simp [pyEqList]
  | cons x xs ih =>
      cases ys with
      | nil => simp [pyEqList]
      | cons y ys => rw [pyEqList_cons, Bool.and_eq_true, ih, List.forall₂_cons]

theorem pyEqEntries_iff_exists {es fs : List (Value × Value)} : pyEqEntries es fs = true ↔
    ∀ e ∈ es, ∃ f ∈ fs, e.1.memberEq f.1 = true ∧ e.2.memberEq f.2 = true := by
  refine ⟨exists_of_pyEqEntries, fun h => ?_⟩
  induction es with
  | nil => rw [pyEqEntries]
  | cons e es ih =>
      rw [List.forall_mem_cons] at h
      rw [pyEqEntries_cons, ih h.2, Bool.and_true, List.any_eq_true]
      exact h.1.imp fun f hf => ⟨hf.1, (Bool.and_eq_true _ _).mpr hf.2⟩

/-- An entry with a string key equals one of a dictionary when that has an equal value under
the key. -/
theorem exists_entry_iff {n : PyDict Value} {k : PyStr} {x : Value} :
    (∃ f ∈ n.entries.map fun e => (Value.str e.1, e.2),
      (str k).memberEq f.1 = true ∧ x.memberEq f.2 = true) ↔
    ∃ y, n.get k = some y ∧ x.memberEq y = true := by
  constructor
  · rintro ⟨_, hf, hkey, hvalue⟩
    obtain ⟨e, he, rfl⟩ := List.mem_map.mp hf
    rw [memberEq_str, pyEq, beq_iff_eq] at hkey
    exact ⟨e.2, PyDict.get_eq_some_iff.mpr (hkey ▸ he), hvalue⟩
  · rintro ⟨y, hy, hvalue⟩
    refine ⟨(str k, y), List.mem_map.mpr ⟨_, PyDict.get_eq_some_iff.mp hy, rfl⟩, ?_, hvalue⟩
    rw [memberEq_str, pyEq, beq_iff_eq]

theorem memberEq_toValue (m : PyDict Value) (w : Value) :
    m.toValue.memberEq w = m.toValue.pyEq w := rfl

/-- Dictionaries with string keys are equal when they have equal values under the same
keys. -/
theorem pyEq_toValue_iff {m n : PyDict Value} : m.toValue.pyEq n.toValue = true ↔
    ∀ k, Option.Rel (fun x y => x.memberEq y = true) (m.get k) (n.get k) := by
  have hentries : pyEqEntries (m.entries.map fun e => (Value.str e.1, e.2))
      (n.entries.map fun e => (Value.str e.1, e.2)) = true ↔
      ∀ k x, m.get k = some x → ∃ y, n.get k = some y ∧ x.memberEq y = true := by
    rw [pyEqEntries_iff_exists, List.forall_mem_map]
    simp only [exists_entry_iff, PyDict.get_eq_some_iff, Prod.forall]
  rw [PyDict.toValue, PyDict.toValue, pyEq, Bool.and_eq_true, hentries, beq_iff_eq,
    List.length_map, List.length_map, PyDict.rel_get_iff]

/-- **Equality goes place by place.** -/
theorem placewise_memberEq (mode : JsonMode) :
    Placewise mode (· ≠ .spelled) fun v w => v.memberEq w = true where
  real := by decide
  sequence {v w xs ys} hv hw := by
    rcases elements_eq_some hv with rfl | rfl <;> rcases elements_eq_some hw with rfl | rfl <;>
      simp [memberEq_of_ne, pyEq, number?, pyEqList_iff_forall₂, isTuple]
  dictionary m n := by rw [memberEq_toValue, pyEq_toValue_iff]
  leaf {v w} _ := by
    rw [Difference.forall_ne_spelled, LeafDiffers, LeafDiffers, ← Bool.not_eq_true]
    tauto

/-- Two members of a container are equal when no place sets them apart for equality. -/
theorem memberEq_iff_not_differs (mode : JsonMode) (v w : Value) : v.memberEq w = true ↔
    ¬ Differs mode .hidden v w ∧ ¬ Differs mode .real v w := by
  rw [(placewise_memberEq mode).iff_not_differs v w, Difference.forall_ne_spelled]

end Value

/-! ### The JSON form -/

namespace JsonMode

variable {mode}

/-- The JSON value that the dump of a value stands for. -/
def Form (mode : JsonMode) (v : Value) (t : JsonValue) : Prop :=
  ∃ d, mode.dump v = .ok d ∧ d.toJson = some t

theorem alike_iff_form {v w : Value} : mode.Alike v w ↔ ∃ t, mode.Form v t ∧ mode.Form w t := by
  constructor
  · rintro ⟨d, e, hd, he, hequal⟩
    obtain ⟨t, ht⟩ := isJson_dump hd
    exact ⟨t, ⟨d, hd, ht⟩, e, he, hequal ▸ ht⟩
  · rintro ⟨t, ⟨d, hd, ht⟩, e, he, ht'⟩
    exact ⟨d, e, hd, he, ht.trans ht'.symm⟩

theorem dumpList_eq_ok {xs ds : List Value} :
    mode.dumpList xs = .ok ds ↔ List.Forall₂ (fun x d => mode.dump x = .ok d) xs ds := by
  induction xs generalizing ds with
  | nil => simp [dumpList, eq_comm]
  | cons x xs ih =>
      simp only [dumpList, bind_eq_ok, ih, List.forall₂_cons_left_iff]
      constructor
      · rintro ⟨d, hd, ds, hds, heq⟩
        exact ⟨d, ds, hd, hds, (Except.ok.inj heq).symm⟩
      · rintro ⟨d, ds, hd, hds, rfl⟩
        exact ⟨d, hd, ds, hds, rfl⟩

theorem form_elements {v : Value} {xs : List Value} {t : JsonValue} (hv : v.elements = some xs) :
    mode.Form v t ↔ ∃ ts, List.Forall₂ mode.Form xs ts ∧ .arr ts = t := by
  have hdump : mode.dump v = (mode.dumpList xs).map .list := by
    rcases Value.elements_eq_some hv with rfl | rfl <;> rw [dump]
  simp only [Form, hdump, map_eq_ok, dumpList_eq_ok]
  constructor
  · rintro ⟨_, ⟨ds, hds, rfl⟩, ht⟩
    obtain ⟨ts, hts, rfl⟩ := Value.toJson_list_eq_some.mp ht
    exact ⟨ts, forall₂_comp hds hts, rfl⟩
  · rintro ⟨ts, hts, rfl⟩
    obtain ⟨ds, hds, hform⟩ := exists_between hts
    exact ⟨_, ⟨ds, hds, rfl⟩, Value.toJson_list_eq_some.mpr ⟨ts, hform, rfl⟩⟩

/-- Sequences have one JSON form when their elements have, one by one. -/
theorem alike_elements_iff {v w : Value} {xs ys : List Value} (hv : v.elements = some xs)
    (hw : w.elements = some ys) : mode.Alike v w ↔ List.Forall₂ mode.Alike xs ys := by
  simp only [alike_iff_form, form_elements hv, form_elements hw]
  constructor
  · rintro ⟨_, ⟨ts, hts, rfl⟩, us, hus, heq⟩
    obtain rfl := JsonTree.arr.inj heq
    exact (forall₂_comp hts hus.flip).imp fun _ _ h => alike_iff_form.mpr h
  · intro h
    obtain ⟨ts, hts, hus⟩ := exists_between (h.imp fun _ _ h => alike_iff_form.mp h)
    exact ⟨.arr ts, ⟨ts, hts, rfl⟩, ts, hus.flip, rfl⟩

/-- The dump of each value goes under its key. -/
theorem dumpEntries_of_dumps {es ds : List (PyStr × Value)} (acc : PyDict Value)
    (hnodup : (acc.entries.map Prod.fst ++ es.map Prod.fst).Nodup)
    (h : List.Forall₂ (fun e f => f.1 = e.1 ∧ mode.dump e.2 = .ok f.2) es ds) :
    ∃ d, mode.dumpEntries acc (es.map fun e => (.str e.1, e.2)) = .ok d ∧
      d.entries = acc.entries ++ ds := by
  induction h generalizing acc with
  | nil => exact ⟨acc, rfl, (List.append_nil _).symm⟩
  | @cons e f es ds hhead _ ih =>
      obtain ⟨key, d⟩ := f
      obtain ⟨rfl, hd⟩ := hhead
      have hset := entries_set_of_nodup hnodup d
      obtain ⟨d', hd', hentries⟩ := ih (acc.set e.1 d) (by simpa [hset] using hnodup)
      refine ⟨d', ?_, by simpa [hset] using hentries⟩
      rw [List.map_cons, dumpEntries, mode.key_str, hd]
      exact hd'

/-- A key with the JSON form of its value. -/
def EntryForm (mode : JsonMode) (e : PyStr × Value) (t : PyStr × JsonValue) : Prop :=
  t.1 = e.1 ∧ mode.Form e.2 t.2

theorem keys_of_entryForms {es : List (PyStr × Value)} {ts : List (PyStr × JsonValue)}
    (h : List.Forall₂ mode.EntryForm es ts) : ts.map Prod.fst = es.map Prod.fst := by
  induction h with
  | nil => rfl
  | cons hhead _ ih => rw [List.map_cons, List.map_cons, hhead.1, ih]

/-- The forms of the values of a dictionary make its form. -/
theorem form_toValue {m : PyDict Value} {ts : List (PyStr × JsonValue)}
    (h : List.Forall₂ mode.EntryForm m.entries ts) :
    mode.Form m.toValue (.obj (sortByKey ts)) := by
  obtain ⟨ds, hds, hts⟩ : ∃ ds : List (PyStr × Value),
      List.Forall₂ (fun e f => f.1 = e.1 ∧ mode.dump e.2 = .ok f.2) m.entries ds ∧
        List.Forall₂ (fun f t => t.1 = f.1 ∧ f.2.toJson = some t.2) ds ts := by
    refine exists_between (h.imp fun e t hform => ?_)
    obtain ⟨hkey, d, hd, ht⟩ := hform
    exact ⟨(e.1, d), ⟨rfl, hd⟩, hkey, ht⟩
  obtain ⟨d, hd, hentries⟩ :=
    dumpEntries_of_dumps .empty (by simpa [PyDict.empty] using m.nodup) hds
  refine ⟨d.toValue, map_eq_ok.mpr ⟨d, hd, rfl⟩, Value.toJson_dict_eq_some.mpr ⟨ts, ?_, ?_, rfl⟩⟩
  · rw [hentries, List.forall₂_map_left_iff]
    exact hts.imp fun f t ht => ⟨by rw [ht.1], ht.2⟩
  · exact keys_of_entryForms h ▸ m.nodup

theorem Form.unique {v : Value} {t u : JsonValue} (h : mode.Form v t) (h' : mode.Form v u) :
    t = u := by
  obtain ⟨d, hd, ht⟩ := h
  obtain ⟨d', hd', hu⟩ := h'
  obtain rfl := Except.ok.inj (hd.symm.trans hd')
  exact Option.some.inj (ht.symm.trans hu)

/-- Dictionaries with one JSON form under every key have one. -/
theorem alike_of_get {m n : PyDict Value}
    (h : ∀ k, Option.Rel mode.Alike (m.get k) (n.get k)) : mode.Alike m.toValue n.toValue := by
  obtain ⟨hlength, hentries⟩ := PyDict.rel_get_iff.mp h
  obtain ⟨us, hus⟩ : ∃ us, List.Forall₂ mode.EntryForm n.entries us := by
    refine exists_related_iff.mpr fun f hf => ?_
    have hk := h f.1
    rw [PyDict.get_eq_some_iff.mpr hf] at hk
    generalize m.get f.1 = found at hk
    cases hk with
    | some halike =>
        obtain ⟨t, -, ht⟩ := alike_iff_form.mp halike
        exact ⟨(f.1, t), rfl, ht⟩
  obtain ⟨ts, hts, hsub⟩ : ∃ ts, List.Forall₂ mode.EntryForm m.entries ts ∧ ∀ t ∈ ts, t ∈ us := by
    refine exists_forall₂_iff.mpr fun e he => ?_
    obtain ⟨y, hy, halike⟩ := hentries e.1 e.2 (PyDict.get_eq_some_iff.mpr he)
    obtain ⟨u, ⟨hkey, hu⟩, hmem⟩ := exists_mem_of_forall₂ hus (PyDict.get_eq_some_iff.mp hy)
    obtain ⟨t, ht, ht'⟩ := alike_iff_form.mp halike
    obtain rfl := ht'.unique hu
    exact ⟨u, ⟨hkey, ht⟩, hmem⟩
  have hnodup : (ts.map Prod.fst).Nodup := keys_of_entryForms hts ▸ m.nodup
  have hperm : ts.Perm us := ((hnodup.of_map _).subperm hsub).perm_of_length_le
    (by rw [← hts.length_eq, ← hus.length_eq, hlength])
  refine alike_iff_form.mpr ⟨_, form_toValue hts, ?_⟩
  rw [(sortByKey_eq_iff hnodup).mpr hperm]
  exact form_toValue hus

/-- **The JSON form goes place by place.** -/
theorem placewise_alike (mode : JsonMode) : Placewise mode (· ≠ .hidden) mode.Alike where
  real := by decide
  sequence hv hw := by
    rw [alike_elements_iff hv hw]
    exact (and_iff_right fun _ h => h rfl).symm
  dictionary m n := ⟨Alike.get, alike_of_get⟩
  leaf {v w} _ := by
    rw [Difference.forall_ne_hidden, LeafDiffers, LeafDiffers, ← Bool.not_eq_true]
    tauto

/-- Two values have one JSON form when no place sets them apart for it. -/
theorem alike_iff_not_differs (mode : JsonMode) (v w : Value) :
    mode.Alike v w ↔ ¬ Differs mode .spelled v w ∧ ¬ Differs mode .real v w := by
  rw [(placewise_alike mode).iff_not_differs v w, Difference.forall_ne_hidden]

end JsonMode

end AgentSentinel
