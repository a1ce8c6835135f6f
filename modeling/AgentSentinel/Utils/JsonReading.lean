import AgentSentinel.Utils.JsonEquality

/-!
# AgentSentinel.Utils.JsonReading

What `json.loads` makes of a JSON text: the Python value of the JSON value that the text
stands for, with the entries of every object in the order of the text. The canonical text
has them in the order of their keys, so this is not always the value that was written, but
it stands for the same JSON value.
-/

namespace AgentSentinel

open Lib

namespace JsonValue

mutual

/-- The value that a JSON value is read as. -/
def toValue : JsonValue → Value
  | .scalar a => a.toValue
  | .str s => .str s
  | .arr ts => .list (toValueList ts)
  | .obj es => .dict (toValueEntries es)

def toValueList : List JsonValue → List Value
  | [] => []
  | t :: ts => toValue t :: toValueList ts

def toValueEntries : List (PyStr × JsonValue) → List (Value × Value)
  | [] => []
  | (k, t) :: es => (.str k, toValue t) :: toValueEntries es

end

theorem toValueList_eq (ts : List JsonValue) : toValueList ts = ts.map toValue := by
  induction ts with
  | nil => rfl
  | cons t ts ih => rw [toValueList, ih, List.map_cons]

theorem toValueEntries_eq (es : List (PyStr × JsonValue)) :
    toValueEntries es = es.map fun e => (.str e.1, toValue e.2) := by
  induction es with
  | nil => rfl
  | cons e es ih => rw [toValueEntries, ih, List.map_cons]

/-- Reading changes nothing about the JSON value. -/
theorem toJson_toValue {v : Value} {t : JsonValue} (h : v.toJson = some t) :
    t.toValue.toJson = some t := by
  induction v generalizing t with
  | none =>
      obtain rfl := Option.some.inj h
      rfl
  | bool b =>
      obtain rfl := Option.some.inj h
      rfl
  | int n =>
      obtain rfl := Option.some.inj h
      rfl
  | float x =>
      obtain ⟨hx, rfl⟩ := Value.toJson_float_eq_some.mp h
      exact Value.toJson_float_eq_some.mpr ⟨hx, rfl⟩
  | str s =>
      obtain rfl := Option.some.inj h
      rfl
  | list xs ih =>
      obtain ⟨ts, hts, rfl⟩ := Value.toJson_list_eq_some.mp h
      refine Value.toJson_list_eq_some.mpr ⟨ts, ?_, rfl⟩
      rw [toValueList_eq, List.forall₂_map_left_iff]
      refine List.forall₂_same.mpr fun t ht => ?_
      obtain ⟨x, hxt, hx⟩ := exists_mem_of_forall₂ hts.flip ht
      exact ih x hx hxt
  | dict es ih =>
      obtain ⟨ts, hts, hnodup, rfl⟩ := Value.toJson_dict_eq_some.mp h
      have hperm := sortByKey_perm ts
      refine Value.toJson_dict_eq_some.mpr ⟨sortByKey ts, ?_, ?_, ?_⟩
      · rw [toValueEntries_eq, List.forall₂_map_left_iff]
        refine List.forall₂_same.mpr fun t ht => ⟨rfl, ?_⟩
        obtain ⟨e, het, he⟩ := exists_mem_of_forall₂ hts.flip (hperm.mem_iff.mp ht)
        exact (ih e he).2 het.2
      · exact (hperm.map Prod.fst).nodup_iff.mpr hnodup
      · exact congrArg JsonTree.obj ((sortByKey_eq_iff hnodup).mpr hperm.symm).symm
  | _ => cases h

/-- A dictionary that stands for JSON is read as one with the same keys, each value as it
is read itself. -/
theorem lookupStr_toValue {es : List (Value × Value)} {t : JsonValue}
    (h : (Value.dict es).toJson = some t) :
    ∃ fs, t.toValue = .dict fs ∧ (Value.dict fs).toJson = some t ∧
      ∀ {k v}, Value.lookupStr es k = some v →
        ∃ u, v.toJson = some u ∧ Value.lookupStr fs k = some u.toValue := by
  obtain ⟨ts, hts, hnodup, rfl⟩ := Value.toJson_dict_eq_some.mp h
  have hread := toJson_toValue h
  refine ⟨toValueEntries (sortByKey ts), rfl, hread, fun {k v} hv => ?_⟩
  rw [Value.lookupStr_eq_some_iff h] at hv
  obtain ⟨f, hf, hmem⟩ := exists_mem_of_forall₂ hts hv
  obtain ⟨hkey, hvalue⟩ := hf
  refine ⟨f.2, hvalue, (Value.lookupStr_eq_some_iff hread).mpr ?_⟩
  rw [toValueEntries_eq, List.mem_map]
  exact ⟨f, (sortByKey_perm ts).mem_iff.mpr hmem, by rw [← show Value.str k = .str f.1 from hkey]⟩

end JsonValue

end AgentSentinel
