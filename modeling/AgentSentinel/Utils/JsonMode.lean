import AgentSentinel.Utils.CanonicalIdentity

/-!
# AgentSentinel.Utils.JsonMode

`model_dump(mode="json")` on a field typed `Any`: what the model library makes of a
value it knows only by its class. It leaves JSON values alone and flattens the rest into
them, containers of every kind into lists, keys of every kind into strings, and floats
that are no numbers into `None`.
-/

namespace AgentSentinel

open Lib

/-- The texts the model library has for values that JSON has no form for, and for keys;
a class it does not know makes it raise. -/
structure JsonMode where
  key : Value → Result PyStr
  key_str : ∀ s, key (.str s) = .ok s
  bytes : PyBytes → Result PyStr
  date : ℤ → PyStr
  datetime : PyDatetime → PyStr
  object : ℕ → Result Value
  object_isJson : ∀ {i v}, object i = .ok v → v.IsJson

namespace JsonMode

variable (mode : JsonMode)

mutual

/-- The dump of a value. -/
def dump : Value → Result Value
  | .none => .ok .none
  | .bool b => .ok (.bool b)
  | .int n => .ok (.int n)
  | .float x => .ok (if x.isFinite then .float x else .none)
  | .str s => .ok (.str s)
  | .bytes bs => (mode.bytes bs).map .str
  | .list xs => (dumpList xs).map .list
  | .tuple xs => (dumpList xs).map .list
  | .set xs => (dumpList xs).map .list
  | .dict es => (dumpEntries .empty es).map PyDict.toValue
  | .date d => .ok (.str (mode.date d))
  | .datetime t => .ok (.str (mode.datetime t))
  | .object i => mode.object i

def dumpList : List Value → Result (List Value)
  | [] => .ok []
  | x :: xs => do
    let d ← dump x
    let ds ← dumpList xs
    return d :: ds

/-- The entries go into a new dictionary, where a later one replaces an earlier one whose
key has the same text. -/
def dumpEntries (acc : PyDict Value) : List (Value × Value) → Result (PyDict Value)
  | [] => .ok acc
  | (k, v) :: es => do
    let key ← mode.key k
    let d ← dump v
    dumpEntries (acc.set key d) es

end

/-- The two values are dumped to one JSON value. -/
def Alike (v w : Value) : Prop :=
  ∃ d e, mode.dump v = .ok d ∧ mode.dump w = .ok e ∧ d.toJson = e.toJson

variable {mode}

/-! ### Dumps are JSON values -/

theorem isJson_list {xs : List Value} (h : ∀ x ∈ xs, x.IsJson) : (Value.list xs).IsJson := by
  obtain ⟨ts, hts, -⟩ := exists_forall₂_iff.mpr fun x hx =>
    (h x hx).imp fun _ ht => ⟨ht, trivial⟩
  exact ⟨.arr ts, Value.toJson_list_eq_some.mpr ⟨ts, hts, rfl⟩⟩

theorem isJson_toValue {d : PyDict Value} (h : ∀ e ∈ d.entries, e.2.IsJson) : d.toValue.IsJson := by
  refine isJson_dict (d.entries.map Prod.fst) ?_ d.nodup fun e he => ?_
  · rw [List.map_map, List.map_map]
    rfl
  · obtain ⟨e', he', rfl⟩ := List.mem_map.mp he
    exact h e' he'

theorem mem_setEntries {α : Type} {k : PyStr} {v : α} {es : List (PyStr × α)} {e : PyStr × α}
    (h : e ∈ PyDict.setEntries k v es) : e = (k, v) ∨ e ∈ es := by
  induction es with
  | nil => exact Or.inl (List.mem_singleton.mp h)
  | cons e' es ih =>
      unfold PyDict.setEntries at h
      split at h
      · rcases List.mem_cons.mp h with rfl | hmem
        · exact Or.inl rfl
        · exact Or.inr (List.mem_cons_of_mem _ hmem)
      · rcases List.mem_cons.mp h with rfl | hmem
        · exact Or.inr List.mem_cons_self
        · exact (ih hmem).imp_right (List.mem_cons_of_mem _)

theorem dumpList_isJson {xs ds : List Value} (ih : ∀ x ∈ xs, ∀ d, mode.dump x = .ok d → d.IsJson)
    (h : mode.dumpList xs = .ok ds) : ∀ d ∈ ds, d.IsJson := by
  induction xs generalizing ds with
  | nil =>
      obtain rfl := Except.ok.inj h
      simp
  | cons x xs ih' =>
      obtain ⟨d, hd, h⟩ := bind_eq_ok.mp h
      obtain ⟨ds', hds, heq⟩ := bind_eq_ok.mp h
      obtain rfl := Except.ok.inj heq
      rw [List.forall_mem_cons]
      exact ⟨ih x List.mem_cons_self d hd, ih' (fun x hx => ih x (List.mem_cons_of_mem _ hx)) hds⟩

theorem dumpEntries_isJson {es : List (Value × Value)} {acc d : PyDict Value}
    (ih : ∀ e ∈ es, ∀ d, mode.dump e.2 = .ok d → d.IsJson) (hacc : ∀ e ∈ acc.entries, e.2.IsJson)
    (h : mode.dumpEntries acc es = .ok d) : ∀ e ∈ d.entries, e.2.IsJson := by
  induction es generalizing acc with
  | nil =>
      obtain rfl := Except.ok.inj h
      exact hacc
  | cons e es ih' =>
      obtain ⟨k, v⟩ := e
      obtain ⟨key, hkey, h⟩ := bind_eq_ok.mp h
      obtain ⟨x, hx, h⟩ := bind_eq_ok.mp h
      refine ih' (fun e he => ih e (List.mem_cons_of_mem _ he)) (fun e he => ?_) h
      rcases mem_setEntries he with rfl | hmem
      · exact ih _ List.mem_cons_self x hx
      · exact hacc e hmem

/-- Whatever is dumped comes out as a JSON value. -/
theorem isJson_dump {v d : Value} (h : mode.dump v = .ok d) : d.IsJson := by
  induction v generalizing d with
  | none =>
      obtain rfl := Except.ok.inj h
      exact ⟨_, rfl⟩
  | bool b =>
      obtain rfl := Except.ok.inj h
      exact ⟨_, rfl⟩
  | int n =>
      obtain rfl := Except.ok.inj h
      exact ⟨_, rfl⟩
  | float x =>
      obtain rfl := Except.ok.inj h
      split
      · next hx => exact ⟨_, dif_pos hx⟩
      · exact ⟨_, rfl⟩
  | str s =>
      obtain rfl := Except.ok.inj h
      exact isJson_str s
  | bytes bs =>
      obtain ⟨s, -, rfl⟩ := map_eq_ok.mp h
      exact isJson_str s
  | list xs ih =>
      obtain ⟨ds, hds, rfl⟩ := map_eq_ok.mp h
      exact isJson_list (dumpList_isJson (fun x hx d => ih x hx) hds)
  | tuple xs ih =>
      obtain ⟨ds, hds, rfl⟩ := map_eq_ok.mp h
      exact isJson_list (dumpList_isJson (fun x hx d => ih x hx) hds)
  | set xs ih =>
      obtain ⟨ds, hds, rfl⟩ := map_eq_ok.mp h
      exact isJson_list (dumpList_isJson (fun x hx d => ih x hx) hds)
  | dict es ih =>
      obtain ⟨d', hd, rfl⟩ := map_eq_ok.mp h
      exact isJson_toValue (dumpEntries_isJson (fun e he d => (ih e he).2)
        (fun e he => absurd he List.not_mem_nil) hd)
  | date d =>
      obtain rfl := Except.ok.inj h
      exact isJson_str _
  | datetime t =>
      obtain rfl := Except.ok.inj h
      exact isJson_str _
  | object i => exact mode.object_isJson h

/-! ### JSON values are dumped as they are -/

theorem setEntries_of_notMem {α : Type} {k : PyStr} {es : List (PyStr × α)}
    (h : k ∉ es.map Prod.fst) (v : α) : PyDict.setEntries k v es = es ++ [(k, v)] := by
  induction es with
  | nil => rfl
  | cons e es ih =>
      rw [List.map_cons, List.mem_cons, not_or] at h
      rw [PyDict.setEntries, if_neg (Ne.symm h.1), ih h.2, List.cons_append]

/-- A new key comes last. -/
theorem entries_set_of_nodup {α : Type} {d : PyDict α} {k : PyStr} {ks : List PyStr}
    (h : (d.entries.map Prod.fst ++ k :: ks).Nodup) (v : α) :
    (d.set k v).entries = d.entries ++ [(k, v)] :=
  setEntries_of_notMem (fun hmem => List.disjoint_of_nodup_append h hmem List.mem_cons_self) v

theorem dumpList_self {xs : List Value} {ts : List JsonValue}
    (h : List.Forall₂ (fun x _ => mode.dump x = .ok x) xs ts) : mode.dumpList xs = .ok xs := by
  induction h with
  | nil => rfl
  | cons hhead _ ih =>
      rw [dumpList, hhead, ih]
      rfl

theorem dumpEntries_self (acc : PyDict Value) {es : List (Value × Value)}
    {ts : List (PyStr × JsonValue)}
    (h : List.Forall₂ (fun e f => e.1 = .str f.1 ∧ mode.dump e.2 = .ok e.2) es ts)
    (hnodup : (acc.entries.map Prod.fst ++ ts.map Prod.fst).Nodup) :
    (mode.dumpEntries acc es).map PyDict.toValue =
      .ok (.dict (acc.entries.map (fun e => (.str e.1, e.2)) ++ es)) := by
  induction h generalizing acc with
  | nil =>
      rw [List.append_nil]
      rfl
  | @cons e f es ts hhead _ ih =>
      obtain ⟨k, v⟩ := e
      obtain ⟨rfl, hdump⟩ := hhead
      have hset := entries_set_of_nodup hnodup v
      have hrest := ih (acc.set f.1 v) (by simpa [hset] using hnodup)
      rw [dumpEntries, mode.key_str, hdump]
      show (mode.dumpEntries (acc.set f.1 v) es).map PyDict.toValue = _
      simpa [hset] using hrest

/-- The dumps of the values go under the same keys. -/
theorem dumpEntries_strings {es : List (PyStr × Value)} {acc d : PyDict Value}
    (hnodup : (acc.entries.map Prod.fst ++ es.map Prod.fst).Nodup)
    (h : mode.dumpEntries acc (es.map fun e => (.str e.1, e.2)) = .ok d) :
    ∃ ds, List.Forall₂ (fun e f => f.1 = e.1 ∧ mode.dump e.2 = .ok f.2) es ds ∧
      d.entries = acc.entries ++ ds := by
  induction es generalizing acc with
  | nil =>
      obtain rfl := Except.ok.inj h
      exact ⟨[], .nil, (List.append_nil _).symm⟩
  | cons e es ih =>
      rw [List.map_cons, dumpEntries, mode.key_str] at h
      obtain ⟨_, hkey, h⟩ := bind_eq_ok.mp h
      obtain rfl := Except.ok.inj hkey
      obtain ⟨x, hx, h⟩ := bind_eq_ok.mp h
      have hset := entries_set_of_nodup hnodup x
      obtain ⟨ds, hds, hentries⟩ := ih (by simpa [hset] using hnodup) h
      exact ⟨(e.1, x) :: ds, .cons ⟨rfl, hx⟩ hds, by simpa [hset] using hentries⟩

/-- A dictionary is dumped value by value. -/
theorem dump_toValue {m : PyDict Value} {v : Value} (h : mode.dump m.toValue = .ok v) :
    ∃ ds : List (PyStr × Value), v = .dict (ds.map fun e => (.str e.1, e.2)) ∧
      List.Forall₂ (fun e f => f.1 = e.1 ∧ mode.dump e.2 = .ok f.2) m.entries ds := by
  obtain ⟨d, hd, rfl⟩ := map_eq_ok.mp h
  obtain ⟨ds, hds, hentries⟩ := dumpEntries_strings (by simpa [PyDict.empty] using m.nodup) hd
  exact ⟨ds, by rw [PyDict.toValue, hentries]; rfl, hds⟩

theorem dump_of_isJson {v : Value} (h : v.IsJson) : mode.dump v = .ok v := by
  induction v with
  | none => rfl
  | bool b => rfl
  | int n => rfl
  | float x =>
      obtain ⟨t, ht⟩ := h
      obtain ⟨hx, -⟩ := Value.toJson_float_eq_some.mp ht
      rw [dump, if_pos hx]
  | str s => rfl
  | list xs ih =>
      obtain ⟨t, ht⟩ := h
      obtain ⟨ts, hts, -⟩ := Value.toJson_list_eq_some.mp ht
      rw [dump, dumpList_self (forall₂_imp_mem hts fun x hx t _ ht => ih x hx ⟨t, ht⟩)]
      rfl
  | dict es ih =>
      obtain ⟨t, ht⟩ := h
      obtain ⟨ts, hts, hnodup, -⟩ := Value.toJson_dict_eq_some.mp ht
      exact dumpEntries_self .empty (forall₂_imp_mem hts
        fun e he f _ hf => ⟨hf.1, (ih e he).2 ⟨f.2, hf.2⟩⟩) hnodup
  | _ =>
      obtain ⟨t, ht⟩ := h
      cases ht

/-- JSON values are dumped alike when they are one. -/
theorem alike_iff_of_toJson {v w : Value} {s t : JsonValue} (hv : v.toJson = some s)
    (hw : w.toJson = some t) : mode.Alike v w ↔ s = t := by
  simp only [Alike, dump_of_isJson ⟨s, hv⟩, dump_of_isJson ⟨t, hw⟩, Except.ok.injEq]
  constructor
  · intro h
    obtain ⟨d, e, rfl, rfl, hequal⟩ := h
    rw [hv, hw] at hequal
    exact Option.some.inj hequal
  · intro h
    exact ⟨v, w, rfl, rfl, by rw [hv, hw, h]⟩

end JsonMode

/-! ### Equality of JSON values -/

/-- The scalars on which Python's equality is identity: not booleans and floats, which equal
integers. -/
def isExact : JsonScalar → Bool
  | .null => true
  | .int _ => true
  | _ => false

/-- The value is a JSON value without booleans and floats. -/
def Value.Exact (v : Value) (t : JsonValue) : Prop := v.toJson = some t ∧ t.all isExact = true

/-- Lists of exact values are equal when their elements are. -/
theorem pyEqList_iff {xs ys : List Value} {ts us : List JsonValue}
    (hxs : List.Forall₂
      (fun x t => x.Exact t ∧ ∀ {y u}, y.Exact u → (x.pyEq y = true ↔ t = u)) xs ts)
    (hys : List.Forall₂ Value.Exact ys us) : Value.pyEqList xs ys = true ↔ ts = us := by
  induction hxs generalizing ys us with
  | nil => cases hys <;> simp [Value.pyEqList]
  | cons hhead _ ih =>
      cases hys with
      | nil => simp [Value.pyEqList]
      | cons hhead' htail' =>
          rw [Value.pyEqList_cons, Value.memberEq_of_isJson ⟨_, hhead'.1⟩, Bool.and_eq_true,
            hhead.2 hhead', ih htail', List.cons.injEq]

/-- Every entry of one dictionary has an equal one in the other. -/
theorem pyEqEntries_iff {es fs : List (Value × Value)} {ts us : List (PyStr × JsonValue)}
    (hes : List.Forall₂ (fun e t => e.1 = .str t.1 ∧ e.2.Exact t.2 ∧
      ∀ {y u}, y.Exact u → (e.2.pyEq y = true ↔ t.2 = u)) es ts)
    (hfs : List.Forall₂ (fun f u => f.1 = .str u.1 ∧ f.2.Exact u.2) fs us) :
    Value.pyEqEntries es fs = true ↔ ts ⊆ us := by
  have hany : ∀ {k : PyStr} {v : Value} {t : JsonValue},
      (∀ {y u}, y.Exact u → (v.pyEq y = true ↔ t = u)) →
      (fs.any (fun f => (Value.str k).memberEq f.1 && v.memberEq f.2) = true ↔ (k, t) ∈ us) := by
    intro k v t hv
    clear hes
    induction hfs with
    | nil => simp
    | @cons f u fs us hhead _ ih =>
        obtain ⟨_, w⟩ := f
        obtain ⟨k', u⟩ := u
        obtain ⟨rfl, hw⟩ := hhead
        rw [List.any_cons, Bool.or_eq_true, ih, List.mem_cons, Bool.and_eq_true,
          Value.memberEq_of_isJson ⟨_, hw.1⟩, hv hw, Prod.mk.injEq, Value.memberEq_str, Value.pyEq,
          beq_iff_eq]
  induction hes with
  | nil => simp [Value.pyEqEntries]
  | @cons e t es ts hhead _ ih =>
      obtain ⟨_, v⟩ := e
      obtain ⟨k, t⟩ := t
      obtain ⟨rfl, -, hv⟩ := hhead
      have hrest : Value.pyEqEntries es fs = true ↔ ts ⊆ us := ih
      rw [Value.pyEqEntries_cons, Bool.and_eq_true, hany hv, hrest, List.cons_subset]

/-- What an exact value can be. -/
inductive ExactCase : Value → JsonValue → Prop
  | none : ExactCase .none (.scalar .null)
  | int (n : ℤ) : ExactCase (.int n) (.scalar (.int n))
  | str (s : PyStr) : ExactCase (.str s) (.str s)
  | list {xs : List Value} {ts : List JsonValue} (h : List.Forall₂ Value.Exact xs ts) :
      ExactCase (.list xs) (.arr ts)
  | dict {es : List (Value × Value)} {ts : List (PyStr × JsonValue)}
      (h : List.Forall₂ (fun e t => e.1 = .str t.1 ∧ e.2.Exact t.2) es ts)
      (hnodup : (ts.map Prod.fst).Nodup) : ExactCase (.dict es) (.obj (sortByKey ts))

theorem Value.Exact.cases {v : Value} {t : JsonValue} (h : v.Exact t) : ExactCase v t := by
  obtain ⟨hv, hall⟩ := h
  cases v with
  | none =>
      cases hv
      exact .none
  | int n =>
      cases hv
      exact .int n
  | str s =>
      cases hv
      exact .str s
  | bool b =>
      cases hv
      cases hall
  | float x =>
      obtain ⟨hx, rfl⟩ := Value.toJson_float_eq_some.mp hv
      cases hall
  | list xs =>
      obtain ⟨ts, hts, rfl⟩ := Value.toJson_list_eq_some.mp hv
      rw [JsonTree.all, JsonTree.allList_eq, List.all_eq_true] at hall
      exact .list (forall₂_imp_mem hts fun x _ t ht h => ⟨h, hall t ht⟩)
  | dict es =>
      obtain ⟨ts, hts, hnodup, rfl⟩ := Value.toJson_dict_eq_some.mp hv
      rw [JsonTree.all, JsonTree.allEntries_eq, List.all_eq_true] at hall
      have hsorted : (sortByKey ts).Perm ts := List.perm_insertionSort _ ts
      exact .dict (forall₂_imp_mem hts
        fun e _ f hf h => ⟨h.1, h.2, hall f (hsorted.mem_iff.mpr hf)⟩) hnodup
  | _ => cases hv

/-- Exact values are equal when they are one JSON value. -/
theorem Value.Exact.pyEq_iff {v w : Value} {s t : JsonValue} (hv : v.Exact s) (hw : w.Exact t) :
    v.pyEq w = true ↔ s = t := by
  induction v generalizing w s t with
  | none =>
      cases hv.cases
      cases hw.cases <;> simp [pyEq, number?]
  | int n =>
      cases hv.cases
      cases hw.cases <;> simp [pyEq, number?]
  | str s =>
      cases hv.cases
      cases hw.cases <;> simp [pyEq, number?]
  | list xs ih =>
      cases hv.cases with
      | list hxs =>
          cases hw.cases with
          | list hys =>
              rw [pyEq, pyEqList_iff (forall₂_imp_mem hxs fun x hx t _ ht => ⟨ht, ih x hx ht⟩) hys,
                JsonTree.arr.injEq]
          | _ => simp [pyEq, number?]
  | dict es ih =>
      cases hv.cases with
      | @dict _ ts hes hnodup =>
          cases hw.cases with
          | @dict fs us hfs hnodup' =>
              have hentries := pyEqEntries_iff (forall₂_imp_mem hes fun e he t _ ht =>
                ⟨ht.1, ht.2, (ih e he).2 ht.2⟩) hfs
              rw [pyEq, Bool.and_eq_true, hentries, beq_iff_eq, hes.length_eq, hfs.length_eq,
                JsonTree.obj.injEq, sortByKey_eq_iff hnodup]
              constructor
              · intro h
                exact (hnodup.of_map _).subperm h.2 |>.perm_of_length_le h.1.ge
              · intro h
                exact ⟨h.length_eq, h.subset⟩
          | _ => simp [pyEq, number?]
  | _ => cases hv.cases

end AgentSentinel
