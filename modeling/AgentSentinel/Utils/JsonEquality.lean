import AgentSentinel.Utils.CanonicalAgreement
import AgentSentinel.Utils.JsonMode

/-!
# AgentSentinel.Utils.JsonEquality

Python's equality on values that stand for JSON. Two of them that stand for one JSON
value are equal, and nothing that is compared with them tells them apart. A value that
equals one of them stands for JSON itself, unless it is no Python value because some
dictionary in it has equal keys.
-/

namespace AgentSentinel

open Lib

/-- The only value that stands for the scalar. -/
def JsonScalar.toValue : JsonScalar → Value
  | null => .none
  | bool b => .bool b
  | int n => .int n
  | float x => .float x.val

namespace Value

/-! ### The value of a JSON value -/

section Shape

variable {v : Value}

theorem eq_of_toJson_scalar {s : JsonScalar} (h : v.toJson = some (.scalar s)) :
    v = s.toValue := by
  cases v with
  | float x =>
      obtain ⟨hx, heq⟩ := toJson_float_eq_some.mp h
      obtain rfl := JsonTree.scalar.inj heq
      rfl
  | list xs =>
      obtain ⟨ts, -, heq⟩ := toJson_list_eq_some.mp h
      cases heq
  | dict es =>
      obtain ⟨ts, -, -, heq⟩ := toJson_dict_eq_some.mp h
      cases heq
  | none =>
      cases h
      rfl
  | bool b =>
      cases h
      rfl
  | int n =>
      cases h
      rfl
  | _ => cases h

theorem eq_str_of_toJson {s : PyStr} (h : v.toJson = some (.str s)) : v = str s := by
  cases v with
  | str s' =>
      cases h
      rfl
  | float x => simp [toJson] at h
  | list xs =>
      obtain ⟨ts, -, heq⟩ := toJson_list_eq_some.mp h
      cases heq
  | dict es =>
      obtain ⟨ts, -, -, heq⟩ := toJson_dict_eq_some.mp h
      cases heq
  | _ => cases h

theorem eq_list_of_toJson {ts : List JsonValue} (h : v.toJson = some (.arr ts)) :
    ∃ xs, v = list xs ∧ List.Forall₂ (fun x t => x.toJson = some t) xs ts := by
  cases v with
  | list xs =>
      obtain ⟨ts', hxs, heq⟩ := toJson_list_eq_some.mp h
      obtain rfl := JsonTree.arr.inj heq
      exact ⟨xs, rfl, hxs⟩
  | float x => simp [toJson] at h
  | dict es =>
      obtain ⟨ts, -, -, heq⟩ := toJson_dict_eq_some.mp h
      cases heq
  | _ => cases h

theorem eq_dict_of_toJson {fs : List (PyStr × JsonValue)} (h : v.toJson = some (.obj fs)) :
    ∃ es, v = dict es := by
  cases v with
  | dict es => exact ⟨es, rfl⟩
  | float x => simp [toJson] at h
  | list xs =>
      obtain ⟨ts, -, heq⟩ := toJson_list_eq_some.mp h
      cases heq
  | _ => cases h

/-- What stands for the same as a dictionary is one. -/
theorem eq_dict_of_toJson_eq {es : List (Value × Value)} (hes : (dict es).IsJson)
    (h : v.toJson = (dict es).toJson) : ∃ fs, v = dict fs := by
  obtain ⟨t, ht⟩ := hes
  obtain ⟨ts, -, -, rfl⟩ := toJson_dict_eq_some.mp ht
  exact eq_dict_of_toJson (h.trans ht)

/-- What a list stands for is a matter of what its elements stand for. -/
theorem toJsonList_congr {xs ys : List Value} (h : xs.map toJson = ys.map toJson) :
    toJsonList xs = toJsonList ys := by
  induction xs generalizing ys with
  | nil =>
      obtain rfl := List.map_eq_nil_iff.mp h.symm
      rfl
  | cons x xs ih =>
      obtain ⟨y, ys', rfl, hy, hys⟩ := List.map_eq_cons_iff.mp h.symm
      rw [toJsonList, toJsonList, ih hys.symm, hy]

end Shape

/-! ### Dictionaries that stand for one object -/

section Dictionaries

variable {es fs : List (Value × Value)} {t : JsonValue}

theorem length_eq_of_toJson (hes : (dict es).toJson = some t) (hfs : (dict fs).toJson = some t) :
    es.length = fs.length := by
  obtain ⟨ts, us, hts, hus, hperm⟩ := exists_perm_of_toJson hes hfs
  rw [hts.length_eq, hus.length_eq, hperm.length_eq]

/-- Every entry of one has its like in the other. -/
theorem exists_entry (hes : (dict es).toJson = some t) (hfs : (dict fs).toJson = some t)
    {e : Value × Value} (he : e ∈ es) :
    ∃ f ∈ fs, f.1 = e.1 ∧ ∃ u, e.2.toJson = some u ∧ f.2.toJson = some u := by
  obtain ⟨ts, us, hts, hus, hperm⟩ := exists_perm_of_toJson hes hfs
  obtain ⟨s, ⟨hkey, hvalue⟩, hs⟩ := exists_mem_of_forall₂ hts he
  obtain ⟨f, ⟨hkey', hvalue'⟩, hf⟩ := exists_mem_of_forall₂ hus.flip (hperm.mem_iff.mp hs)
  exact ⟨f, hf, hkey'.trans hkey.symm, s.2, hvalue, hvalue'⟩

/-- The keys of a dictionary that stands for an object are distinct strings. -/
theorem lookupStr_eq_some_iff (hes : (dict es).toJson = some t) {k : PyStr} {v : Value} :
    lookupStr es k = some v ↔ (str k, v) ∈ es := by
  obtain ⟨ts, hts, hnodup, -⟩ := toJson_dict_eq_some.mp hes
  clear hes
  induction hts with
  | nil => simp [lookupStr]
  | @cons e s es ts hhead htail ih =>
      obtain ⟨_, w⟩ := e
      obtain ⟨rfl, -⟩ := hhead
      rw [List.map_cons, List.nodup_cons] at hnodup
      rw [lookupStr]
      by_cases hk : s.1 = k
      · subst hk
        have hno : (str s.1, v) ∉ es := by
          intro hmem
          obtain ⟨u, ⟨hkey, -⟩, hu⟩ := exists_mem_of_forall₂ htail hmem
          refine hnodup.1 (List.mem_map.mpr ⟨u, hu, ?_⟩)
          exact (Value.str.inj hkey).symm
        simp [hno, eq_comm]
      · rw [if_neg hk, ih hnodup.2]
        simp [Ne.symm hk]

/-- What one has under a key, the other has, too. -/
theorem lookupStr_toJson (hes : (dict es).toJson = some t) (hfs : (dict fs).toJson = some t)
    {k : PyStr} {v : Value} (hv : lookupStr es k = some v) :
    ∃ w u, lookupStr fs k = some w ∧ v.toJson = some u ∧ w.toJson = some u := by
  obtain ⟨⟨_, w⟩, hf, rfl, u, hvu, hwu⟩ :=
    exists_entry hes hfs ((lookupStr_eq_some_iff hes).mp hv)
  exact ⟨w, u, (lookupStr_eq_some_iff hfs).mpr hf, hvu, hwu⟩

end Dictionaries

/-- Two dictionaries with the same string keys are one JSON value when their values are. -/
theorem toValue_toJson_inj {c d : PyDict Value}
    (hkeys : c.entries.map Prod.fst = d.entries.map Prod.fst) (hc : ∀ e ∈ c.entries, e.2.IsJson)
    (hd : ∀ e ∈ d.entries, e.2.IsJson) :
    c.toValue.toJson = d.toValue.toJson ↔
      (c.entries.map fun e => e.2.toJson) = d.entries.map fun e => e.2.toJson := by
  have hmem {d : PyDict Value} (h : ∀ e ∈ d.entries, e.2.IsJson) :
      ∀ e ∈ d.entries.map fun e => (str e.1, e.2), e.2.IsJson := by
    rw [List.forall_mem_map]
    exact h
  rw [PyDict.toValue, PyDict.toValue, toJson_dict_inj (c.entries.map Prod.fst)
    (by rw [List.map_map, List.map_map]; rfl) (by rw [hkeys, List.map_map, List.map_map]; rfl)
    c.nodup (hmem hc) (hmem hd), List.map_map, List.map_map]
  rfl

/-! ### Values that no other stands for -/

/-- No other value stands for the same JSON value, and this one stands for some. -/
def Rigid (v : Value) : Prop := v.IsJson ∧ ∀ w, w.toJson = v.toJson → w = v

theorem rigid_str (s : PyStr) : (str s).Rigid := ⟨⟨_, rfl⟩, fun _ hw => eq_str_of_toJson hw⟩

theorem rigid_scalar {s : JsonScalar} (h : s.toValue.toJson = some (.scalar s)) :
    s.toValue.Rigid :=
  ⟨⟨_, h⟩, fun _ hw => eq_of_toJson_scalar (hw.trans h)⟩

theorem rigid_dumpOption (o : Option PyStr) : (dumpOption str o).Rigid := by
  cases o with
  | none => exact rigid_scalar (s := .null) rfl
  | some s => exact rigid_str s

theorem toJson_dumpOption_inj {o p : Option PyStr} :
    (dumpOption str o).toJson = (dumpOption str p).toJson ↔ o = p := by
  refine ⟨fun h => ?_, fun h => by rw [h]⟩
  have heq := (rigid_dumpOption p).2 _ h
  cases o <;> cases p <;> simp_all [dumpOption]

theorem rigid_list {xs : List Value} (h : ∀ x ∈ xs, x.Rigid) : (list xs).Rigid := by
  have hjson : (list xs).IsJson := JsonMode.isJson_list fun x hx => (h x hx).1
  refine ⟨hjson, fun w hw => ?_⟩
  obtain ⟨t, ht⟩ := hjson
  rw [ht] at hw
  obtain ⟨ts, hts, rfl⟩ := toJson_list_eq_some.mp ht
  obtain ⟨ys, rfl, hys⟩ := eq_list_of_toJson hw
  congr 1
  clear ht hw
  induction hts generalizing ys with
  | nil =>
      cases hys
      rfl
  | cons hx _ ih =>
      cases hys with
      | cons hy hys =>
          rw [List.forall_mem_cons] at h
          rw [h.1.2 _ (hy.trans hx.symm), ih h.2 _ hys]

/-- A field that only one value stands for is the same in every dictionary that stands
for the object. -/
theorem lookupStr_of_rigid {es fs : List (Value × Value)} {t : JsonValue}
    (hes : (dict es).toJson = some t) (hfs : (dict fs).toJson = some t) {k : PyStr} {v : Value}
    (hv : v.Rigid) (h : lookupStr es k = some v) : lookupStr fs k = some v := by
  obtain ⟨w, u, hw, hvu, hwu⟩ := lookupStr_toJson hes hfs h
  rw [hw, hv.2 w (hwu.trans hvu.symm)]

/-! ### Equality -/

section Equality

variable {u v w : Value} {t : JsonValue}

/-- Two values that stand for one JSON value are one, or two lists or dictionaries. -/
theorem same_cases (hv : v.toJson = some t) (hw : w.toJson = some t) :
    v = w ∨
    (∃ xs ys ts, v = list xs ∧ w = list ys ∧
      List.Forall₂ (fun x t => x.toJson = some t) xs ts ∧
      List.Forall₂ (fun y t => y.toJson = some t) ys ts) ∨
    ∃ es fs, v = dict es ∧ w = dict fs := by
  cases t with
  | scalar s => exact Or.inl ((eq_of_toJson_scalar hv).trans (eq_of_toJson_scalar hw).symm)
  | str s => exact Or.inl ((eq_str_of_toJson hv).trans (eq_str_of_toJson hw).symm)
  | arr ts =>
      obtain ⟨xs, rfl, hxs⟩ := eq_list_of_toJson hv
      obtain ⟨ys, rfl, hys⟩ := eq_list_of_toJson hw
      exact Or.inr (Or.inl ⟨xs, ys, ts, rfl, rfl, hxs, hys⟩)
  | obj es =>
      obtain ⟨es, rfl⟩ := eq_dict_of_toJson hv
      obtain ⟨fs, rfl⟩ := eq_dict_of_toJson hw
      exact Or.inr (Or.inr ⟨es, fs, rfl, rfl⟩)

/-- Equality with `u` does not tell values apart that stand for one JSON value. -/
def Blind (u : Value) : Prop :=
  ∀ v w t, v.toJson = some t → w.toJson = some t → u.pyEq v = u.pyEq w

theorem pyEqList_congr {us xs ys : List Value} {ts : List JsonValue}
    (hblind : ∀ u ∈ us, u.Blind)
    (hxs : List.Forall₂ (fun x t => x.toJson = some t) xs ts)
    (hys : List.Forall₂ (fun y t => y.toJson = some t) ys ts) :
    pyEqList us xs = pyEqList us ys := by
  induction us generalizing xs ys ts with
  | nil =>
      cases hxs with
      | nil =>
          cases hys
          rfl
      | cons =>
          cases hys
          simp [pyEqList]
  | cons u us ih =>
      cases hxs with
      | nil =>
          cases hys
          rfl
      | cons hx hxs =>
          cases hys with
          | cons hy hys =>
              rw [List.forall_mem_cons] at hblind
              rw [pyEqList_cons, pyEqList_cons, memberEq_of_isJson ⟨_, hx⟩,
                memberEq_of_isJson ⟨_, hy⟩, hblind.1 _ _ _ hx hy, ih hblind.2 hxs hys]

/-- An entry that equals one of a dictionary equals one of every other that stands for
the same object. -/
theorem any_entry_imp {es fs : List (Value × Value)} {k : Value}
    (hblind : u.Blind) (hes : (dict es).toJson = some t) (hfs : (dict fs).toJson = some t)
    (h : es.any (fun e => k.memberEq e.1 && u.memberEq e.2) = true) :
    fs.any (fun f => k.memberEq f.1 && u.memberEq f.2) = true := by
  obtain ⟨e, he, heq⟩ := List.any_eq_true.mp h
  obtain ⟨f, hf, hkey, s, hes, hfs⟩ := exists_entry hes hfs he
  rw [memberEq_of_isJson ⟨_, hes⟩ u] at heq
  refine List.any_eq_true.mpr ⟨f, hf, ?_⟩
  rwa [memberEq_of_isJson ⟨_, hfs⟩ u, hkey, ← hblind _ _ _ hes hfs]

theorem pyEqEntries_congr {ds es fs : List (Value × Value)}
    (hblind : ∀ d ∈ ds, d.2.Blind)
    (hes : (dict es).toJson = some t) (hfs : (dict fs).toJson = some t) :
    pyEqEntries ds es = pyEqEntries ds fs := by
  induction ds with
  | nil => rw [pyEqEntries, pyEqEntries]
  | cons d ds ih =>
      rw [List.forall_mem_cons] at hblind
      rw [pyEqEntries_cons, pyEqEntries_cons, ih hblind.2]
      congr 1
      rw [Bool.eq_iff_iff]
      exact ⟨any_entry_imp hblind.1 hes hfs, any_entry_imp hblind.1 hfs hes⟩

/-- **No comparison tells values apart** that stand for one JSON value. -/
theorem blind (u : Value) : u.Blind := by
  induction u with
  | list us ih =>
      intro v w t hv hw
      rcases same_cases hv hw with rfl | ⟨xs, ys, ts, rfl, rfl, hxs, hys⟩ | ⟨es, fs, rfl, rfl⟩
      · rfl
      · rw [pyEq, pyEq, pyEqList_congr ih hxs hys]
      · simp [pyEq, number?]
  | dict ds ih =>
      intro v w t hv hw
      rcases same_cases hv hw with rfl | ⟨xs, ys, ts, rfl, rfl, -, -⟩ | ⟨es, fs, rfl, rfl⟩
      · rfl
      · simp [pyEq, number?]
      · rw [pyEq, pyEq, length_eq_of_toJson hv hw,
          pyEqEntries_congr (fun d hd => (ih d hd).2) hv hw]
  | _ =>
      intro v w t hv hw
      rcases same_cases hv hw with rfl | ⟨xs, ys, ts, rfl, rfl, -, -⟩ | ⟨es, fs, rfl, rfl⟩
      · rfl
      · simp [pyEq, number?]
      · simp [pyEq, number?]

theorem pyEq_congr (hv : v.toJson = some t) (hw : w.toJson = some t) : u.pyEq v = u.pyEq w :=
  u.blind v w t hv hw

theorem pyEqList_self {xs : List Value} (h : ∀ x ∈ xs, x.pyEq x = true) :
    pyEqList xs xs = true := by
  induction xs with
  | nil => rw [pyEqList]
  | cons x xs ih =>
      rw [List.forall_mem_cons] at h
      rw [pyEqList_cons, memberEq, h.1, ih h.2, Bool.or_true]
      rfl

theorem pyEqEntries_of_subset {es fs : List (Value × Value)} (hsub : es ⊆ fs)
    (h : ∀ e ∈ es, e.1.pyEq e.1 = true ∧ e.2.pyEq e.2 = true) : pyEqEntries es fs = true := by
  induction es with
  | nil => rw [pyEqEntries]
  | cons e es ih =>
      rw [List.forall_mem_cons] at h
      rw [List.cons_subset] at hsub
      rw [pyEqEntries_cons, ih hsub.2 h.2, Bool.and_true]
      exact List.any_eq_true.mpr ⟨e, hsub.1, by simp [memberEq, h.1.1, h.1.2]⟩

/-- What stands for JSON equals itself. -/
theorem pyEq_self (h : v.toJson = some t) : v.pyEq v = true := by
  induction v generalizing t with
  | float x =>
      obtain ⟨hx, -⟩ := toJson_float_eq_some.mp h
      cases x with
      | finite q => simp [pyEq, number?]
      | negZero => simp [pyEq, number?, PyFloat.eq]
      | inf negative => cases hx
      | nan => cases hx
  | list xs ih =>
      obtain ⟨ts, hts, -⟩ := toJson_list_eq_some.mp h
      rw [pyEq]
      refine pyEqList_self fun x hx => ?_
      obtain ⟨u, hu, -⟩ := exists_mem_of_forall₂ hts hx
      exact ih x hx hu
  | dict es ih =>
      obtain ⟨ts, hts, -⟩ := toJson_dict_eq_some.mp h
      rw [pyEq, beq_self_eq_true, Bool.true_and]
      refine pyEqEntries_of_subset (List.Subset.refl es) fun e he => ?_
      obtain ⟨u, ⟨hkey, hu⟩, -⟩ := exists_mem_of_forall₂ hts he
      exact ⟨by simp [hkey, pyEq], (ih e he).2 hu⟩
  | none => rw [pyEq]
  | bool b => simp [pyEq, number?]
  | int n => simp [pyEq, number?]
  | str s => simp [pyEq]
  | _ => cases h

/-- Values that stand for one JSON value are equal. -/
theorem pyEq_of_toJson (hv : v.toJson = some t) (hw : w.toJson = some t) : v.pyEq w = true :=
  (pyEq_congr hw hv).trans (pyEq_self hv)

/-- Only finite numbers equal what stands for JSON. -/
theorem isFinite_of_pyEq {x : PyFloat} (hw : w.IsJson) (h : (float x).pyEq w = true) :
    x.isFinite = true := by
  obtain ⟨t, ht⟩ := hw
  cases w with
  | float y =>
      simp only [toJson, Option.dite_none_right_eq_some] at ht
      cases x <;> cases y <;> simp_all [pyEq, number?, PyFloat.eq, PyFloat.isFinite]
  | bool b => cases x <;> simp_all [pyEq, number?, PyFloat.eq, PyFloat.isFinite]
  | int n => cases x <;> simp_all [pyEq, number?, PyFloat.eq, PyFloat.isFinite]
  | _ => simp [pyEq, number?] at h

theorem isJson_of_pyEqList {xs ys : List Value}
    (ih : ∀ x ∈ xs, ∀ {y}, y.IsJson → x.pyEq y = true → x.IsJson)
    (hys : ∀ y ∈ ys, y.IsJson) (h : pyEqList xs ys = true) : ∀ x ∈ xs, x.IsJson := by
  induction xs generalizing ys with
  | nil => simp
  | cons x xs ih' =>
      cases ys with
      | nil => simp [pyEqList] at h
      | cons y ys =>
          rw [List.forall_mem_cons] at hys ⊢
          rw [pyEqList_cons, memberEq_of_isJson hys.1, Bool.and_eq_true] at h
          exact ⟨ih x List.mem_cons_self hys.1 h.1,
            ih' (fun x hx => ih x (List.mem_cons_of_mem _ hx)) hys.2 h.2⟩

theorem exists_of_pyEqEntries {es fs : List (Value × Value)} (h : pyEqEntries es fs = true) :
    ∀ e ∈ es, ∃ f ∈ fs, e.1.memberEq f.1 = true ∧ e.2.memberEq f.2 = true := by
  induction es with
  | nil => simp
  | cons e es ih =>
      rw [pyEqEntries_cons, Bool.and_eq_true, List.any_eq_true] at h
      rw [List.forall_mem_cons]
      obtain ⟨⟨f, hf, heq⟩, hrest⟩ := h
      exact ⟨⟨f, hf, (Bool.and_eq_true _ _).mp heq⟩, ih hrest⟩

/-- Entries with distinct keys that stand for members stand for an object. -/
theorem isJson_of_entries {es : List (Value × Value)}
    (hdistinct : es.Pairwise fun e f => e.1.pyEq f.1 = false)
    (h : ∀ e ∈ es, ∃ s, EntryOf e s) : (dict es).IsJson := by
  obtain ⟨ts, hts, -⟩ := exists_forall₂_iff.mpr fun e he => (h e he).imp fun _ hs => ⟨hs, trivial⟩
  have hkeys : ts.Pairwise fun s u => s.1 ≠ u.1 := by
    refine pairwise_of_forall₂ hts.flip (fun hse huf hfresh heq => ?_) hdistinct
    rw [hse.1, huf.1, heq] at hfresh
    simp [pyEq] at hfresh
  exact ⟨_, toJson_dict_eq_some.mpr ⟨ts, hts, List.pairwise_map.mpr hkeys, rfl⟩⟩

/-- **What equals a value that stands for JSON stands for JSON.** -/
theorem isJson_of_pyEq (hdistinct : v.KeysDistinct) (hw : w.IsJson) (h : v.pyEq w = true) :
    v.IsJson := by
  induction v generalizing w with
  | none => exact ⟨_, rfl⟩
  | bool b => exact ⟨_, rfl⟩
  | int n => exact ⟨_, rfl⟩
  | float x => exact ⟨_, dif_pos (isFinite_of_pyEq hw h)⟩
  | str s => exact ⟨_, rfl⟩
  | list xs ih =>
      rw [KeysDistinct, keysDistinctList_iff] at hdistinct
      cases w with
      | list ys =>
          obtain ⟨t, ht⟩ := hw
          obtain ⟨ts, hts, -⟩ := toJson_list_eq_some.mp ht
          rw [pyEq] at h
          have hys : ∀ y ∈ ys, y.IsJson := fun y hy =>
            (exists_mem_of_forall₂ hts hy).imp fun _ hu => hu.1
          exact JsonMode.isJson_list
            (isJson_of_pyEqList (fun x hx {y} => ih x hx (hdistinct x hx)) hys h)
      | _ => simp [pyEq, number?] at h
  | dict es ih =>
      rw [KeysDistinct, keysDistinctEntries_iff] at hdistinct
      cases w with
      | dict fs =>
          obtain ⟨t, ht⟩ := hw
          obtain ⟨ts, hts, -⟩ := toJson_dict_eq_some.mp ht
          rw [pyEq, Bool.and_eq_true] at h
          refine isJson_of_entries hdistinct.1 fun e he => ?_
          obtain ⟨f, hf, hkey, hvalue⟩ := exists_of_pyEqEntries h.2 e he
          obtain ⟨s, ⟨hfkey, hfvalue⟩, -⟩ :=
            exists_mem_of_forall₂ hts hf
          rw [hfkey, memberEq_of_isJson (isJson_str s.1)] at hkey
          rw [memberEq_of_isJson ⟨_, hfvalue⟩] at hvalue
          obtain ⟨u, hu⟩ := (ih e he).2 (hdistinct.2 e he) ⟨s.2, hfvalue⟩ hvalue
          exact ⟨(s.1, u), pyEq_str_right hkey, hu⟩
      | _ => simp [pyEq, number?] at h
  | _ =>
      obtain ⟨t, ht⟩ := hw
      cases w <;> simp_all [pyEq, number?, toJson]

end Equality

end Value

/-! ### Values that stand for one JSON value -/

/-- The two are one value, or they stand for one JSON value. -/
def Value.OneJson (v w : Value) : Prop := v = w ∨ ∃ t, v.toJson = some t ∧ w.toJson = some t

namespace Value.OneJson

variable {v w : Value} {xs ys : List Value}

theorem symm (h : v.OneJson w) : w.OneJson v :=
  Or.imp Eq.symm (fun ⟨t, hv, hw⟩ => ⟨t, hw, hv⟩) h

theorem pyEq (h : v.OneJson w) (u : Value) : u.pyEq v = u.pyEq w := by
  rcases h with rfl | ⟨t, hv, hw⟩
  · rfl
  · exact pyEq_congr hv hw

/-- What the two can be. -/
theorem cases (h : v.OneJson w) :
    v = w ∨ (∃ xs ys, v = .list xs ∧ w = .list ys ∧ List.Forall₂ OneJson xs ys) ∨
      ∃ es fs, v = .dict es ∧ w = .dict fs := by
  rcases h with rfl | ⟨t, hv, hw⟩
  · exact Or.inl rfl
  rcases same_cases hv hw with rfl | ⟨xs, ys, ts, rfl, rfl, hxs, hys⟩ | hdicts
  · exact Or.inl rfl
  · refine Or.inr (Or.inl ⟨xs, ys, rfl, rfl, ?_⟩)
    clear hv hw
    induction hxs generalizing ys with
    | nil =>
        cases hys
        exact .nil
    | cons hx _ ih =>
        cases hys with
        | cons hy hys => exact .cons (Or.inr ⟨_, hx, hy⟩) (ih _ hys)
  · exact Or.inr (Or.inr hdicts)

theorem pyEq_str (h : v.OneJson w) (s : PyStr) : v.pyEq (.str s) = w.pyEq (.str s) := by
  rcases h.cases with rfl | ⟨xs, ys, rfl, rfl, -⟩ | ⟨es, fs, rfl, rfl⟩
  · rfl
  · simp [Value.pyEq, number?]
  · simp [Value.pyEq, number?]

theorem none_iff (h : v.OneJson w) : v = .none ↔ w = .none := by
  rcases h.cases with rfl | ⟨xs, ys, rfl, rfl, -⟩ | ⟨es, fs, rfl, rfl⟩
  · rfl
  · simp
  · simp

theorem hashable (h : v.OneJson w) : v.hashable = w.hashable := by
  rcases h.cases with rfl | ⟨xs, ys, rfl, rfl, -⟩ | ⟨es, fs, rfl, rfl⟩
  · rfl
  · rfl
  · rfl

/-- What a test says of the elements, one by one. -/
theorem map_eq {α : Type} {f : Value → α} (h : List.Forall₂ OneJson xs ys)
    (hf : ∀ {v w}, OneJson v w → f v = f w) : xs.map f = ys.map f := by
  induction h with
  | nil => rfl
  | cons hhead _ ih => rw [List.map_cons, List.map_cons, hf hhead, ih]

theorem any_eq {p : Value → Bool} (h : List.Forall₂ OneJson xs ys)
    (hp : ∀ {v w}, OneJson v w → p v = p w) : xs.any p = ys.any p := by
  have hmap := congrArg (List.any · id) (map_eq h hp)
  simpa only [List.any_map, Function.id_comp] using hmap

theorem all_eq {p : Value → Bool} (h : List.Forall₂ OneJson xs ys)
    (hp : ∀ {v w}, OneJson v w → p v = p w) : xs.all p = ys.all p := by
  have hmap := congrArg (List.all · id) (map_eq h hp)
  simpa only [List.all_map, Function.id_comp] using hmap

end Value.OneJson

/-! ### Dumps of dictionaries -/

namespace JsonMode

variable {mode : JsonMode}

/-- What one of two dictionaries that are dumped alike has under a key, the other has, too. -/
theorem Alike.exists_get {m n : PyDict Value} (h : mode.Alike m.toValue n.toValue) {key : PyStr}
    {v : Value} (hv : m.get key = some v) : ∃ w, n.get key = some w ∧ mode.Alike v w := by
  obtain ⟨d, e, hd, he, hequal⟩ := h
  obtain ⟨t, ht⟩ := isJson_dump hd
  obtain ⟨ds, rfl, hds⟩ := dump_toValue hd
  obtain ⟨es, rfl, hes⟩ := dump_toValue he
  obtain ⟨f, ⟨hkey, hf⟩, hmem⟩ := exists_mem_of_forall₂ hds (PyDict.get_eq_some_iff.mp hv)
  obtain ⟨_, hg, hkey', u, hu, hu'⟩ := Value.exists_entry ht (hequal ▸ ht)
    (List.mem_map.mpr ⟨f, hmem, rfl⟩)
  obtain ⟨g, hges, rfl⟩ := List.mem_map.mp hg
  obtain ⟨e, ⟨hkey'', he⟩, hmem'⟩ := exists_mem_of_forall₂ hes.flip hges
  have heq : e.1 = key := by
    rw [← hkey'', Value.str.inj hkey', hkey]
  exact ⟨e.2, PyDict.get_eq_some_iff.mpr (heq ▸ hmem'), f.2, g.2, hf, he, hu.trans hu'.symm⟩

theorem Alike.symm {v w : Value} (h : mode.Alike v w) : mode.Alike w v :=
  let ⟨d, e, hd, he, hequal⟩ := h
  ⟨e, d, he, hd, hequal.symm⟩

/-- Dictionaries that are dumped alike have the same keys, with values that are. -/
theorem Alike.get {m n : PyDict Value} (h : mode.Alike m.toValue n.toValue) (key : PyStr) :
    Option.Rel mode.Alike (m.get key) (n.get key) := by
  cases hv : m.get key with
  | some v =>
      obtain ⟨w, hw, hvw⟩ := h.exists_get hv
      rw [hw]
      exact .some hvw
  | none =>
      cases hw : n.get key with
      | none => exact .none
      | some w =>
          obtain ⟨v, hv', -⟩ := h.symm.exists_get hw
          rw [hv] at hv'
          cases hv'

/-- Plain values that are dumped alike stand for one JSON value. -/
theorem Alike.oneJson {v w : Value} (h : mode.Alike v w) (hv : v.IsJson) (hw : w.IsJson) :
    v.OneJson w := by
  obtain ⟨s, hs⟩ := hv
  obtain ⟨t, ht⟩ := hw
  obtain rfl := (alike_iff_of_toJson hs ht).mp h
  exact Or.inr ⟨s, hs, ht⟩

end JsonMode

end AgentSentinel
