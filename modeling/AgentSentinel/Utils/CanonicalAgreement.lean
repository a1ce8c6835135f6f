import AgentSentinel.Utils.Orjson

/-!
# AgentSentinel.Utils.CanonicalAgreement

Whether the two canonical encoders write a value the same. An integer outside 64 bits
anywhere in a structure sends all of it to the fallback, so a value next to one is
encoded as elsewhere only where the encoders agree on it.

`Agrees` is what they agree on, constructor by constructor: `null`, truth values,
integers and strings; floats both print the same, which no special value is; dictionaries
whose keys have an order that is also the order of their texts. Dates, times and other
objects depend on how `str()` prints them.
-/

namespace AgentSentinel

open Lib

/-! ### Dictionaries of Python -/

namespace Value

mutual

/-- No dictionary in the value has two equal keys. -/
def KeysDistinct : Value → Prop
  | .list xs => KeysDistinctList xs
  | .tuple xs => KeysDistinctList xs
  | .dict es => (es.Pairwise fun e f => e.1.pyEq f.1 = false) ∧ KeysDistinctEntries es
  | _ => True

def KeysDistinctList : List Value → Prop
  | [] => True
  | x :: xs => KeysDistinct x ∧ KeysDistinctList xs

def KeysDistinctEntries : List (Value × Value) → Prop
  | [] => True
  | (_, v) :: es => KeysDistinct v ∧ KeysDistinctEntries es

end

theorem keysDistinctList_iff {xs : List Value} :
    KeysDistinctList xs ↔ ∀ x ∈ xs, KeysDistinct x := by
  induction xs with
  | nil => simp [KeysDistinctList]
  | cons x xs ih => rw [KeysDistinctList, ih, List.forall_mem_cons]

theorem keysDistinctEntries_iff {es : List (Value × Value)} :
    KeysDistinctEntries es ↔ ∀ e ∈ es, KeysDistinct e.2 := by
  induction es with
  | nil => simp [KeysDistinctEntries]
  | cons e es ih => rw [KeysDistinctEntries, ih, List.forall_mem_cons]

/-- A key that equals itself stands for one entry. -/
theorem entry_eq_of_key {es : List (Value × Value)}
    (hdistinct : es.Pairwise fun e f => e.1.pyEq f.1 = false) {e f : Value × Value}
    (he : e ∈ es) (hf : f ∈ es) (hkey : e.1 = f.1) (hrefl : e.1.pyEq e.1 = true) : e = f := by
  by_contra hne
  have hother : es.Pairwise fun a b => ¬ (a.1 = e.1 ∧ b.1 = e.1) := by
    refine hdistinct.imp fun {a b} hab hboth => ?_
    rw [hboth.1, hboth.2, hrefl] at hab
    cases hab
  have hsymm : Std.Symm fun a b : Value × Value => ¬ (a.1 = e.1 ∧ b.1 = e.1) :=
    ⟨fun _ _ h hboth => h hboth.symm⟩
  exact hother.forall he hf hne ⟨rfl, hkey.symm⟩

end Value

namespace OrjsonDocs

variable {docs : OrjsonDocs} {rt : PyRuntime} {floats : FloatPrinter}

/-! ### What the encoders agree on -/

/-- A number both encoders print the same. -/
def FloatAgrees (docs : OrjsonDocs) (rt : PyRuntime) (x : PyFloat) : Prop :=
  ∃ h : x.isFinite = true, docs.floats.print ⟨x, h⟩ = x.text rt

/-- A key that becomes the same string in both encoders. -/
def KeyAgrees (docs : OrjsonDocs) (rt : PyRuntime) : Value → Prop
  | .none => True
  | .bool _ => True
  | .int _ => True
  | .str _ => True
  | .float x => docs.FloatAgrees rt x
  | _ => False

/-- The entries, in the order of the keys themselves, are in the order of their texts. -/
def TextOrdered (docs : OrjsonDocs) (es : List (Value × Value)) : Prop :=
  (sortByValue es).Pairwise fun e f =>
    ∀ s ∈ docs.key e.1, ∀ t ∈ docs.key f.1, s.le t = true

mutual

/-- The values both encoders write the same. -/
def Agrees (docs : OrjsonDocs) (rt : PyRuntime) : Value → Prop
  | .none => True
  | .bool _ => True
  | .int _ => True
  | .str _ => True
  | .float x => docs.FloatAgrees rt x
  | .list xs => AgreesList docs rt xs
  | .tuple xs => AgreesList docs rt xs
  | .dict es => Json.keysOrdered (es.map Prod.fst) = true ∧ docs.TextOrdered es ∧
      AgreesEntries docs rt es
  | .date d => docs.date d = rt.strOf (.date d)
  | .datetime t => docs.datetime t = rt.strOf (.datetime t)
  | .object i => docs.object i = some (.str (rt.strOf (.object i)))
  | .bytes _ => False
  | .set _ => False

def AgreesList (docs : OrjsonDocs) (rt : PyRuntime) : List Value → Prop
  | [] => True
  | x :: xs => Agrees docs rt x ∧ AgreesList docs rt xs

def AgreesEntries (docs : OrjsonDocs) (rt : PyRuntime) : List (Value × Value) → Prop
  | [] => True
  | (k, v) :: es => docs.KeyAgrees rt k ∧ Agrees docs rt v ∧ AgreesEntries docs rt es

end

theorem agreesEntries_iff {es : List (Value × Value)} :
    docs.AgreesEntries rt es ↔ ∀ e ∈ es, docs.KeyAgrees rt e.1 ∧ docs.Agrees rt e.2 := by
  induction es with
  | nil => simp [AgreesEntries]
  | cons e es ih => rw [AgreesEntries, ← and_assoc, ih, List.forall_mem_cons]

/-! ### Keys -/

/-- An integer of 64 bits is short. -/
theorem short_of_fits {n : ℤ} (h : fitsWord (.int n) = true) :
    n.natAbs < 10 ^ intMaxStrDigits := by
  have hpow : 10 ^ 20 ≤ 10 ^ intMaxStrDigits := Nat.pow_le_pow_right (by decide) (by decide)
  have hrange : -(2 ^ 63) ≤ n ∧ n < 2 ^ 64 := of_decide_eq_true h
  omega

theorem encodeFloat_of_isFinite {x : PyFloat} (hx : x.isFinite = true) :
    Json.encodeFloat rt x = x.text rt := by
  cases x with
  | finite q => rfl
  | negZero => rfl
  | inf negative => cases hx
  | nan => cases hx

/-- What the standard library calls the special values. -/
theorem encodeFloat_special (rt : PyRuntime) {x : PyFloat} (hx : x.isFinite = false) :
    Json.encodeFloat rt x ∈ [py "NaN", py "Infinity", py "-Infinity"] := by
  cases x with
  | finite q => cases hx
  | negZero => cases hx
  | inf negative => cases negative <;> simp [Json.encodeFloat]
  | nan => simp [Json.encodeFloat]

/-- The string of a key is the same in both encoders exactly where they agree on it. -/
theorem keyText_eq_iff {k : Value} {s : PyStr} (hfits : docs.fits k = true)
    (hkey : docs.key k = some s) : Json.keyText rt k = .ok s ↔ docs.KeyAgrees rt k := by
  cases k with
  | none =>
      cases hkey
      exact iff_of_true rfl trivial
  | bool b =>
      cases hkey
      exact iff_of_true rfl trivial
  | int n =>
      cases hkey
      exact iff_of_true (intStr_eq_ok.mpr ⟨short_of_fits hfits, rfl⟩) trivial
  | float x =>
      obtain rfl := Option.some.inj hkey
      rw [Json.keyText, Except.ok.injEq, KeyAgrees, FloatAgrees]
      by_cases hx : x.isFinite = true
      · rw [encodeFloat_of_isFinite hx, dif_pos hx, eq_comm]
        exact ⟨fun heq => ⟨hx, heq⟩, fun h => h.2⟩
      · have hspecial := encodeFloat_special rt (Bool.eq_false_iff.mpr hx)
        rw [dif_neg hx]
        refine iff_of_false (fun heq => ?_) fun h => hx h.1
        rw [heq] at hspecial
        exact absurd hspecial (by decide)
  | str s =>
      cases hkey
      exact iff_of_true rfl trivial
  | _ => simp [Json.keyText, KeyAgrees]

/-- The Python value a scalar is. -/
def scalarValue : JsonScalar → Value
  | .null => .none
  | .bool b => .bool b
  | .int n => .int n
  | .float x => .float x.val

/-- The scalar a key that is a number stands for. -/
theorem key_scalar {k : Value} {s : PyStr} (hnumber : k.number?.isSome = true)
    (hkey : docs.key k = some s) : ∃ a : JsonScalar, s = (a.word docs.floats).letters ∧
      (a = .null ∨ k = scalarValue a ∧ k.pyEq k = true) := by
  cases k with
  | bool b =>
      cases hkey
      exact ⟨.bool b, rfl, Or.inr ⟨rfl, by simp [Value.pyEq, Value.number?]⟩⟩
  | int n =>
      cases hkey
      exact ⟨.int n, rfl, Or.inr ⟨rfl, by simp [Value.pyEq, Value.number?]⟩⟩
  | float x =>
      obtain rfl := Option.some.inj hkey
      by_cases hx : x.isFinite = true
      · refine ⟨.float ⟨x, hx⟩, dif_pos hx, Or.inr ⟨rfl, ?_⟩⟩
        cases x with
        | finite q => simp [Value.pyEq, Value.number?]
        | negZero => simp [Value.pyEq, Value.number?, PyFloat.eq]
        | inf negative => cases hx
        | nan => cases hx
      · exact ⟨.null, dif_neg hx, Or.inl rfl⟩
  | _ => cases hnumber

/-- No scalar is printed like a special value. -/
theorem word_ne_special (a : JsonScalar) :
    (a.word floats).letters ∉ [py "NaN", py "Infinity", py "-Infinity"] := by
  intro hmem
  have hnames : ∀ w ∈ [py "NaN", py "Infinity", py "-Infinity"], w.all isNumberChar = false := by
    decide
  have hnumber := hnames _ hmem
  rw [JsonScalar.all_isNumberChar_word] at hnumber
  cases a with
  | null => exact (by decide : py "null" ∉ _) hmem
  | bool b => exact (by decide : ∀ b, boolText b ∉ [py "NaN", py "Infinity", py "-Infinity"]) b hmem
  | int n => cases hnumber
  | float x => cases hnumber

/-- The scalar of such a key in the standard library's encoder. -/
theorem keyText_scalar (hrepr : ∀ x : FiniteFloat, x.val.text rt = floats.print x) {k : Value}
    {s : PyStr} (hnumber : k.number?.isSome = true) (htext : Json.keyText rt k = .ok s) :
    s ∈ [py "NaN", py "Infinity", py "-Infinity"] ∨
      ∃ a : JsonScalar, s = (a.word floats).letters ∧ k = scalarValue a := by
  cases k with
  | bool b =>
      cases htext
      exact Or.inr ⟨.bool b, rfl, rfl⟩
  | int n =>
      obtain ⟨-, rfl⟩ := intStr_eq_ok.mp htext
      exact Or.inr ⟨.int n, rfl, rfl⟩
  | float x =>
      obtain rfl := Except.ok.inj htext
      by_cases hx : x.isFinite = true
      · refine Or.inr ⟨.float ⟨x, hx⟩, ?_, rfl⟩
        rw [encodeFloat_of_isFinite hx]
        exact hrepr ⟨x, hx⟩
      · exact Or.inl (encodeFloat_special rt (Bool.eq_false_iff.mpr hx))
  | _ => cases hnumber

/-- Among keys that have an order, equal texts are texts of one entry, even across the
two encoders. -/
theorem entry_eq_of_text (hrepr : ∀ x : FiniteFloat, x.val.text rt = floats.print x)
    (hread : ∀ x y, docs.floats.print x = floats.print y → x = y) {es : List (Value × Value)}
    (hordered : Json.keysOrdered (es.map Prod.fst) = true)
    (hdistinct : es.Pairwise fun e f => e.1.pyEq f.1 = false) {e f : Value × Value}
    (he : e ∈ es) (hf : f ∈ es) {s : PyStr} (hkey : docs.key e.1 = some s)
    (htext : Json.keyText rt f.1 = .ok s) : e = f := by
  have hmem : ∀ {e : Value × Value}, e ∈ es → e.1 ∈ es.map Prod.fst :=
    fun he => List.mem_map_of_mem he
  simp only [Json.keysOrdered, Bool.or_eq_true, decide_eq_true_eq, List.length_map,
    List.all_eq_true] at hordered
  -- Keys can be sorted if there is at most one, if all are strings or if all are numbers.
  rcases hordered with (hlength | hstrs) | hnumbers
  · cases es with
    | nil => cases he
    | cons a es =>
        rw [List.length_cons] at hlength
        obtain rfl := List.length_eq_zero_iff.mp (by omega : es.length = 0)
        rw [List.mem_singleton.mp he, List.mem_singleton.mp hf]
  · have hstr : ∀ {e : Value × Value}, e ∈ es → ∃ s, e.1 = .str s := by
      intro e he
      have hk := hstrs e.1 (hmem he)
      split at hk
      · next s heq => exact ⟨s, heq⟩
      · cases hk
    obtain ⟨a, ha⟩ := hstr he
    obtain ⟨b, hb⟩ := hstr hf
    rw [ha] at hkey
    rw [hb] at htext
    cases hkey
    cases htext
    exact Value.entry_eq_of_key hdistinct he hf (ha.trans hb.symm) (by simp [ha, Value.pyEq])
  · have hnumber := hnumbers e.1 (hmem he)
    have hnumber' := hnumbers f.1 (hmem hf)
    obtain ⟨a, rfl, ha⟩ := key_scalar hnumber hkey
    rcases keyText_scalar hrepr hnumber' htext with hspecial | ⟨b, hword, hb⟩
    · exact absurd hspecial (word_ne_special a)
    · obtain rfl : a = b := JsonScalar.eq_of_word hread (JsonWord.ext hword)
      rcases ha with rfl | ⟨ha, hrefl⟩
      -- What the fast encoder calls `null` is no number for the other.
      · rw [hb] at hnumber'
        cases hnumber'
      · exact Value.entry_eq_of_key hdistinct he hf (ha.trans hb.symm) hrefl

/-! ### Values -/

/-- The tree of the text the fast encoder writes for a JSON value. -/
abbrev wordTree (docs : OrjsonDocs) (t : JsonValue) : JsonTree JsonWord :=
  t.map (JsonScalar.word docs.floats)

theorem wordTree_arr (ts : List JsonValue) :
    docs.wordTree (.arr ts) = .arr (ts.map docs.wordTree) := by
  rw [wordTree, JsonTree.map, JsonTree.mapList_eq]

theorem wordTree_obj (fs : List (PyStr × JsonValue)) :
    docs.wordTree (.obj fs) = .obj (fs.map fun f => (f.1, docs.wordTree f.2)) := by
  rw [wordTree, JsonTree.map, JsonTree.mapEntries_eq]

theorem float_agrees_iff (hrepr : ∀ x : FiniteFloat, x.val.text rt = floats.print x)
    (x : PyFloat) :
    JsonTree.scalar (floatWord floats x) = docs.wordTree (float x) ↔ docs.FloatAgrees rt x := by
  unfold float FloatAgrees
  by_cases hx : x.isFinite = true
  · rw [dif_pos hx, floatWord, dif_pos hx, wordTree, JsonTree.map, JsonTree.scalar.injEq,
      JsonWord.ext_iff, hrepr ⟨x, hx⟩, eq_comm]
    exact ⟨fun heq => ⟨hx, heq⟩, fun h => h.2⟩
  · have hspecial := encodeFloat_special rt (Bool.eq_false_iff.mpr hx)
    rw [dif_neg hx]
    refine iff_of_false (fun heq => ?_) fun h => hx h.1
    have hword := JsonTree.scalar.inj heq
    rw [encodeFloat_eq hrepr, hword] at hspecial
    exact word_ne_special _ hspecial

theorem list_agrees_iff {xs : List Value} {ts : List JsonValue}
    (h : ∀ x ∈ xs, ∀ {t}, x.KeysDistinct → docs.fits x = true → docs.tree x = some t →
      (fallbackTree rt floats x = .ok (docs.wordTree t) ↔ docs.Agrees rt x))
    (hdistinct : Value.KeysDistinctList xs) (hfits : docs.fitsList xs = true)
    (hts : docs.trees xs = some ts) :
    (fallbackTrees rt floats xs).map JsonTree.arr = .ok (docs.wordTree (.arr ts)) ↔
      docs.AgreesList rt xs := by
  rw [Value.keysDistinctList_iff] at hdistinct
  rw [fitsList_iff] at hfits
  have hitems := forall₂_imp_mem (trees_eq_some.mp hts) fun x hx t _ ht =>
    h x hx (hdistinct x hx) (hfits x hx) ht
  simp only [wordTree_arr, map_eq_ok, fallbackTrees_eq_ok, JsonTree.arr.injEq, exists_eq_right,
    List.forall₂_map_right_iff]
  clear hts h hdistinct hfits
  induction hitems with
  | nil => simp [AgreesList]
  | cons hhead _ ih =>
      rw [List.forall₂_cons, AgreesList]
      exact and_congr hhead ih

/-- The fallback writes an entry as the fast encoder does where they agree on both parts. -/
theorem entry_agrees_iff {e : Value × Value} {f : PyStr × JsonValue}
    (hfits : docs.fits e.1 = true) (hf : docs.EntryAs e f)
    (hvalue : fallbackTree rt floats e.2 = .ok (docs.wordTree f.2) ↔ docs.Agrees rt e.2) :
    WrittenAs rt floats e (f.1, docs.wordTree f.2) ↔
      docs.KeyAgrees rt e.1 ∧ docs.Agrees rt e.2 := by
  rw [WrittenAs, keyText_eq_iff hfits hf.1, hvalue]

section Dict

variable {es : List (Value × Value)} {fs : List (PyStr × JsonValue)}

theorem dict_agrees_of_written (hrepr : ∀ x : FiniteFloat, x.val.text rt = floats.print x)
    (hread : ∀ x y, docs.floats.print x = floats.print y → x = y)
    (hordered : Json.keysOrdered (es.map Prod.fst) = true)
    (hdistinct : es.Pairwise fun e f => e.1.pyEq f.1 = false)
    (hfs : List.Forall₂ docs.EntryAs es fs)
    (hentry : ∀ e ∈ es, ∀ f, docs.EntryAs e f →
      (WrittenAs rt floats e (f.1, docs.wordTree f.2) ↔
        docs.KeyAgrees rt e.1 ∧ docs.Agrees rt e.2))
    (hwritten : List.Forall₂ (fun e f => WrittenAs rt floats e (f.1, docs.wordTree f.2))
      (sortByValue es) (docs.sortKeys fs)) :
    docs.TextOrdered es ∧ docs.AgreesEntries rt es := by
  have hperm : (sortByValue es).Perm es := List.perm_insertionSort _ es
  have hown : ∀ e ∈ es, ∃ f, docs.EntryAs e f ∧ WrittenAs rt floats e (f.1, docs.wordTree f.2) := by
    -- The text of the key leads from the entry to where it is written, and back to it.
    intro e he
    obtain ⟨f, hf, hmem⟩ := exists_mem_of_forall₂ hfs he
    obtain ⟨e', hwritten', he'⟩ := exists_mem_of_forall₂ hwritten.flip
      ((docs.sortKeys_perm fs).mem_iff.mpr hmem)
    obtain rfl := entry_eq_of_text hrepr hread hordered hdistinct he (hperm.mem_iff.mp he') hf.1
      hwritten'.1
    exact ⟨f, hf, hwritten'⟩
  refine ⟨?_, agreesEntries_iff.mpr fun e he => ?_⟩
  · have hkeys : List.Forall₂ (fun e f => docs.key e.1 = some f.1) (sortByValue es)
        (docs.sortKeys fs) := by
      refine forall₂_imp_mem hwritten fun e he f _ hw => ?_
      obtain ⟨f', hf', hw'⟩ := hown e (hperm.mem_iff.mp he)
      rw [hf'.1, Except.ok.inj (hw'.1.symm.trans hw.1)]
    refine pairwise_of_forall₂ hkeys (fun h h' hle s hs t ht => ?_) (docs.sortKeys_sorted fs)
    rw [h, Option.mem_some_iff] at hs
    rw [h', Option.mem_some_iff] at ht
    rw [← hs, ← ht]
    exact hle
  · obtain ⟨f, hf, hw⟩ := hown e he
    exact (hentry e he f hf).mp hw

theorem dict_written_of_agrees (hrepr : ∀ x : FiniteFloat, x.val.text rt = floats.print x)
    (hread : ∀ x y, docs.floats.print x = floats.print y → x = y)
    (hordered : Json.keysOrdered (es.map Prod.fst) = true)
    (hdistinct : es.Pairwise fun e f => e.1.pyEq f.1 = false)
    (hfs : List.Forall₂ docs.EntryAs es fs)
    (hentry : ∀ e ∈ es, ∀ f, docs.EntryAs e f →
      (WrittenAs rt floats e (f.1, docs.wordTree f.2) ↔
        docs.KeyAgrees rt e.1 ∧ docs.Agrees rt e.2))
    (horder : docs.TextOrdered es) (hagrees : docs.AgreesEntries rt es) :
    List.Forall₂ (fun e f => WrittenAs rt floats e (f.1, docs.wordTree f.2))
      (sortByValue es) (docs.sortKeys fs) := by
  have hperm : (sortByValue es).Perm es := List.perm_insertionSort _ es
  have hwritten : ∀ e ∈ es, ∀ f, docs.EntryAs e f →
      WrittenAs rt floats e (f.1, docs.wordTree f.2) :=
    fun e he f hf => (hentry e he f hf).mpr (agreesEntries_iff.mp hagrees e he)
  obtain ⟨fs', hfs', hperm'⟩ := List.perm_comp_forall₂ hperm hfs
  have hsorted : fs'.Pairwise fun a b => a.1.le b.1 = true :=
    pairwise_of_forall₂ hfs'.flip (fun h h' hle => hle _ h.1 _ h'.1) horder
  have hsame : docs.sortKeys fs = fs' := by
    refine List.Perm.eq_of_pairwise (fun a b ha hb hab hba => ?_) (docs.sortKeys_sorted fs) hsorted
      ((docs.sortKeys_perm fs).trans hperm'.symm)
    obtain ⟨e, he, hmem⟩ := exists_mem_of_forall₂ hfs.flip
      ((docs.sortKeys_perm fs).mem_iff.mp ha)
    obtain ⟨e', he', hmem'⟩ := exists_mem_of_forall₂ hfs.flip
      (hperm'.mem_iff.mp hb)
    have hkey : docs.key e.1 = some b.1 := by rw [he.1, PyStr.le_antisymm hab hba]
    obtain rfl := entry_eq_of_text hrepr hread hordered hdistinct hmem hmem' hkey
      (hwritten e' hmem' b he').1
    exact Prod.ext (Option.some.inj (he.1.symm.trans he'.1))
      (Option.some.inj (he.2.symm.trans he'.2))
  rw [hsame]
  exact forall₂_imp_mem hfs' fun e he f _ hf => hwritten e (hperm.mem_iff.mp he) f hf

end Dict

/-- **What the encoders agree on.** A value the fast encoder has a form for is written the
same by the fallback exactly when it is one of `Agrees`. -/
theorem fallbackTree_eq_iff (hrepr : ∀ x : FiniteFloat, x.val.text rt = floats.print x)
    (hread : ∀ x y, docs.floats.print x = floats.print y → x = y) {x : Value} {t : JsonValue}
    (hdistinct : x.KeysDistinct) (hfits : docs.fits x = true) (htree : docs.tree x = some t) :
    fallbackTree rt floats x = .ok (docs.wordTree t) ↔ docs.Agrees rt x := by
  induction x generalizing t with
  | none =>
      cases htree
      exact iff_of_true rfl trivial
  | bool b =>
      cases htree
      exact iff_of_true rfl trivial
  | int n =>
      cases htree
      exact iff_of_true (fallbackTree_int_eq_ok.mpr ⟨short_of_fits hfits, rfl⟩) trivial
  | float x =>
      cases htree
      rw [fallbackTree, Except.ok.injEq, float_agrees_iff hrepr, Agrees]
  | str s =>
      cases htree
      exact iff_of_true rfl trivial
  | list xs ih =>
      obtain ⟨ts, hts, rfl⟩ := Option.map_eq_some_iff.mp htree
      rw [fallbackTree, Agrees]
      exact list_agrees_iff ih hdistinct hfits hts
  | tuple xs ih =>
      obtain ⟨ts, hts, rfl⟩ := Option.map_eq_some_iff.mp htree
      rw [fallbackTree, Agrees]
      exact list_agrees_iff ih hdistinct hfits hts
  | dict es ih =>
      obtain ⟨fs, hfs, rfl⟩ := Option.map_eq_some_iff.mp htree
      rw [entries_eq_some] at hfs
      rw [Value.KeysDistinct, Value.keysDistinctEntries_iff] at hdistinct
      rw [fits, fitsEntries_iff] at hfits
      -- Entry by entry the two agree by the induction; the order is left to the keys.
      have hentry : ∀ e ∈ es, ∀ f, docs.EntryAs e f →
          (WrittenAs rt floats e (f.1, docs.wordTree f.2) ↔
            docs.KeyAgrees rt e.1 ∧ docs.Agrees rt e.2) :=
        fun e he f hf => entry_agrees_iff (hfits e he).1 hf
          ((ih e he).2 (hdistinct.2 e he) (hfits e he).2 hf.2)
      rw [fallbackTree_dict_eq_ok, Agrees]
      simp only [wordTree_obj, JsonTree.obj.injEq, exists_eq_right, List.forall₂_map_right_iff]
      refine and_congr_right fun hordered => ⟨fun hwritten => ?_, fun h => ?_⟩
      · exact dict_agrees_of_written hrepr hread hordered hdistinct.1 hfs hentry hwritten
      · exact dict_written_of_agrees hrepr hread hordered hdistinct.1 hfs hentry h.1 h.2
  | bytes bs => cases htree
  | set xs => cases htree
  | date d =>
      cases htree
      rw [fallbackTree, Except.ok.injEq, wordTree, JsonTree.map, JsonTree.str.injEq, eq_comm,
        Agrees]
  | datetime t =>
      cases htree
      rw [fallbackTree, Except.ok.injEq, wordTree, JsonTree.map, JsonTree.str.injEq, eq_comm,
        Agrees]
  | object i =>
      have hobject : docs.object i = some t := htree
      rw [fallbackTree, Except.ok.injEq, Agrees, hobject, Option.some.injEq]
      cases t with
      | str s => rw [wordTree, JsonTree.map, JsonTree.str.injEq, JsonTree.str.injEq, eq_comm]
      | _ => simp [JsonTree.map]

end OrjsonDocs

/-! ### Next to an integer outside 64 bits -/

section Pair

variable {docs : OrjsonDocs} {lib : HashLibrary} {rt : PyRuntime} {floats : FloatPrinter}
  {x : Value} {n : ℤ} {bytes : PyBytes}

/-- `[x, n]`, given the encoding of `x`. -/
def pairBytes (bytes : PyBytes) (n : ℤ) : PyBytes :=
  utf8 (py "[") ++ bytes ++ utf8 (py ",") ++ utf8 (intText n) ++ utf8 (py "]")

theorem pairBytes_utf8 (floats : FloatPrinter) (t : JsonTree JsonWord) (n : ℤ) :
    pairBytes (utf8 (t.text (Json.escapeChar false))) n =
      utf8 (JsonTree.text (Json.escapeChar false)
        (.arr [t, .scalar (JsonScalar.word floats (.int n))])) := by
  have hjoin : ∀ u v : PyStr, PyStr.join (py ",") [u, v] = u ++ py "," ++ v := by
    intro u v
    rw [join_cons, py_comma]
    simp
  simp only [pairBytes, JsonTree.text, JsonTree.textList, hjoin, utf8, List.flatMap_append,
    List.append_assoc]
  rfl

theorem pairBytes_inj {bytes bytes' : PyBytes} (heq : pairBytes bytes n = pairBytes bytes' n) :
    bytes = bytes' := by
  simp only [pairBytes, List.append_assoc] at heq
  exact List.append_cancel_right (List.append_cancel_left heq)

/-- The two encoders agree on `x`: it is encoded next to `n` as on its own, and what the
fast encoder has no form for is refused next to `n` too. -/
def EncodersAgree (lib : HashLibrary) (rt : PyRuntime) (docs : OrjsonDocs) (x : Value) (n : ℤ) :
    Prop :=
  (∀ bytes, lib.orjsonDumps x = .ok bytes → canonicalBytes lib rt x = .ok bytes ∧
    canonicalBytes lib rt (.list [x, .int n]) = .ok (pairBytes bytes n)) ∧
  (¬ docs.Supported x → Raised (canonicalBytes lib rt (.list [x, .int n])))

/-- What the fast encoder refuses is encoded as the fallback writes it. -/
theorem canonicalBytes_of_refused (hrepr : ∀ x : FiniteFloat, x.val.text rt = floats.print x)
    {v : Value} (hbig : hasOversizedInt v = true) {e : PyExc} (hv : lib.orjsonDumps v = .error e)
    (hkind : e.kind = .typeError) :
    canonicalBytes lib rt v = .ok bytes ↔ ∃ t, fallbackTree rt floats v = .ok t ∧
      t.plain = true ∧ bytes = utf8 (t.text (Json.escapeChar false)) := by
  simp only [canonicalBytes, hv, hkind, hbig, and_self, if_true, bind_eq_ok, dumps_eq_tree hrepr,
    map_eq_ok, encodeUtf8_eq_ok_iff]
  constructor
  · intro h
    obtain ⟨_, ⟨t, ht, rfl⟩, hplain, hbytes⟩ := h
    exact ⟨t, ht, JsonTree.plainStr_text t ▸ hplain, hbytes⟩
  · intro h
    obtain ⟨t, ht, hplain, hbytes⟩ := h
    exact ⟨_, ⟨t, ht, rfl⟩, (JsonTree.plainStr_text t).trans hplain, hbytes⟩

theorem fallbackTree_pair {u : JsonTree JsonWord} :
    fallbackTree rt floats (.list [x, .int n]) = .ok u ↔
      ∃ t, fallbackTree rt floats x = .ok t ∧ n.natAbs < 10 ^ intMaxStrDigits ∧
        .arr [t, .scalar (JsonScalar.word floats (.int n))] = u := by
  rw [fallbackTree, map_eq_ok]
  simp only [fallbackTrees_eq_ok, List.forall₂_cons_left_iff, List.forall₂_nil_left_iff,
    fallbackTree_int_eq_ok]
  constructor
  · intro h
    obtain ⟨_, ⟨t, _, ht, ⟨s, _, ⟨hshort, rfl⟩, rfl, rfl⟩, rfl⟩, rfl⟩ := h
    exact ⟨t, ht, hshort, rfl⟩
  · intro h
    obtain ⟨t, ht, hshort, rfl⟩ := h
    exact ⟨_, ⟨t, _, ht, ⟨_, _, ⟨hshort, rfl⟩, rfl, rfl⟩, rfl⟩, rfl⟩

theorem tree_pair {t : JsonValue} (ht : docs.tree x = some t) :
    docs.tree (.list [x, .int n]) = some (.arr [t, .scalar (.int n)]) := by
  simp [OrjsonDocs.tree, OrjsonDocs.trees, ht]

/-- The fast encoder writes a pair as its members. -/
theorem text_pair (t : JsonValue) :
    utf8 (docs.text (.arr [t, .scalar (.int n)])) = pairBytes (utf8 (docs.text t)) n :=
  (pairBytes_utf8 docs.floats (docs.wordTree t) n).symm

theorem hasOversizedInt_pair (hn : hasOversizedInt (.int n) = true) :
    hasOversizedInt (.list [x, .int n]) = true := by
  rw [hasOversizedInt, hasOversizedIntList, hasOversizedIntList, hn, Bool.true_or, Bool.or_true]

/-- An accepted value is encoded next to `n` as on its own when the pair is accepted too,
or the fallback can write it and writes it the same. -/
theorem canonicalBytes_pair_iff (hlib : docs.Describes lib)
    (hrepr : ∀ x : FiniteFloat, x.val.text rt = floats.print x)
    (hread : ∀ x y, docs.floats.print x = floats.print y → x = y) (hdistinct : x.KeysDistinct)
    (hn : hasOversizedInt (.int n) = true) {t : JsonValue} (haccepts : docs.Accepts x)
    (ht : docs.tree x = some t) :
    canonicalBytes lib rt (.list [x, .int n]) = .ok (pairBytes (utf8 (docs.text t)) n) ↔
      docs.Accepts (.list [x, .int n]) ∨
        docs.Agrees rt x ∧ n.natAbs < 10 ^ intMaxStrDigits := by
  by_cases hpair : docs.Accepts (.list [x, .int n])
  · refine iff_of_true ?_ (Or.inl hpair)
    rw [canonicalBytes, hlib.writes hpair (tree_pair ht), text_pair]
  · obtain ⟨e, he, hkind⟩ := hlib.refuses hpair
    rw [canonicalBytes_of_refused hrepr (hasOversizedInt_pair hn) he hkind, or_iff_right hpair,
      ← OrjsonDocs.fallbackTree_eq_iff hrepr hread hdistinct haccepts.2 ht]
    simp only [fallbackTree_pair]
    constructor
    · intro h
      obtain ⟨_, ⟨t', ht', hshort, rfl⟩, -, hbytes⟩ := h
      rw [← pairBytes_utf8] at hbytes
      have heq : docs.wordTree t = t' := JsonTree.eq_of_text reads_escapeChar reads_escapeChar
        (utf8_injective (pairBytes_inj hbytes))
      exact ⟨heq ▸ ht', hshort⟩
    · intro h
      obtain ⟨hagrees, hshort⟩ := h
      refine ⟨_, ⟨_, hagrees, hshort, rfl⟩, ?_, pairBytes_utf8 floats (docs.wordTree t) n⟩
      obtain ⟨t', ht', hplain, -⟩ := haccepts.1
      obtain rfl := Option.some.inj (ht.symm.trans ht')
      simp [JsonTree.plain, JsonTree.plainList, JsonTree.plain_map, hplain]

/-- What has no form in the fast encoder is refused next to `n` when the fallback cannot
write it either. -/
theorem raised_pair_iff (hlib : docs.Describes lib)
    (hrepr : ∀ x : FiniteFloat, x.val.text rt = floats.print x)
    (hn : hasOversizedInt (.int n) = true) (hx : ¬ docs.Supported x) :
    Raised (canonicalBytes lib rt (.list [x, .int n])) ↔
      writable rt x = false ∨ 10 ^ intMaxStrDigits ≤ n.natAbs := by
  have hpair : ¬ docs.Accepts (.list [x, .int n]) :=
    fun haccepts => hx (haccepts.1.mem List.mem_cons_self)
  obtain ⟨e, he, hkind⟩ := hlib.refuses hpair
  rw [← not_iff_not, not_raised_iff, not_or, Bool.not_eq_false, ← writable_iff hrepr, not_le]
  simp only [canonicalBytes_of_refused hrepr (hasOversizedInt_pair hn) he hkind,
    fallbackTree_pair]
  constructor
  · intro h
    obtain ⟨_, _, ⟨t, ht, hshort, rfl⟩, hplain, -⟩ := h
    rw [JsonTree.plain, JsonTree.plainList, Bool.and_eq_true] at hplain
    exact ⟨⟨t, ht, hplain.1⟩, hshort⟩
  · intro h
    obtain ⟨⟨t, ht, hplain⟩, hshort⟩ := h
    exact ⟨_, _, ⟨t, ht, hshort, rfl⟩, by simp [JsonTree.plain, JsonTree.plainList, hplain], rfl⟩

/-- **When the encoders agree.** A value is encoded the same next to an integer outside 64
bits as without one exactly when the fast encoder takes the pair as well, or the fallback
writes the value alike and the integer is short enough to print. A value the fast encoder
has no form for is refused there exactly when the fallback cannot write it or the integer. -/
theorem encodersAgree_iff (hlib : docs.Describes lib)
    (hrepr : ∀ x : FiniteFloat, x.val.text rt = floats.print x)
    (hread : ∀ x y, docs.floats.print x = floats.print y → x = y) (hdistinct : x.KeysDistinct)
    (hn : hasOversizedInt (.int n) = true) :
    EncodersAgree lib rt docs x n ↔
      (docs.Accepts x → docs.Accepts (.list [x, .int n]) ∨
        docs.Agrees rt x ∧ n.natAbs < 10 ^ intMaxStrDigits) ∧
      (¬ docs.Supported x → writable rt x = false ∨ 10 ^ intMaxStrDigits ≤ n.natAbs) := by
  refine and_congr ?_ (forall_congr' (raised_pair_iff hlib hrepr hn))
  constructor
  · intro h haccepts
    obtain ⟨t, ht, -⟩ := haccepts.1
    exact (canonicalBytes_pair_iff hlib hrepr hread hdistinct hn haccepts ht).mp
      (h _ (hlib.writes haccepts ht)).2
  · intro h bytes hbytes
    have haccepts : docs.Accepts x := by
      by_contra hrefused
      obtain ⟨e, he, -⟩ := hlib.refuses hrefused
      rw [hbytes] at he
      cases he
    obtain ⟨t, ht, -⟩ := haccepts.1
    obtain rfl : utf8 (docs.text t) = bytes :=
      Except.ok.inj ((hlib.writes haccepts ht).symm.trans hbytes)
    refine ⟨by rw [canonicalBytes, hbytes], ?_⟩
    exact (canonicalBytes_pair_iff hlib hrepr hread hdistinct hn haccepts ht).mpr (h haccepts)

/-- A dictionary with a float in it, next to `2 ** 64`. -/
theorem encodersAgree_dict :
    EncodersAgree OrjsonDocs.ratioDocs.library ratioRuntime OrjsonDocs.ratioDocs
      (.dict [(.str (py "n"), .list [.float (.finite 2), .none]), (.str (py "a"), .bool true)])
      (2 ^ 64) := by
  refine (encodersAgree_iff OrjsonDocs.ratioDocs.describes_library ratioRuntime_repr
    (fun _ _ heq => ratioFloats.injective heq) ?_ (by decide)).mpr ⟨fun _ => Or.inr ⟨?_, ?_⟩, ?_⟩
  · have hkeys : (Value.str (py "n")).pyEq (.str (py "a")) = false := by
      rw [Value.pyEq]
      decide
    simp [Value.KeysDistinct, Value.KeysDistinctEntries, Value.KeysDistinctList, hkeys]
  · refine ⟨by decide, ?_, trivial, ⟨⟨rfl, rfl⟩, trivial, trivial⟩, trivial, trivial, trivial⟩
    unfold OrjsonDocs.TextOrdered
    decide
  · exact lt_of_lt_of_le (by decide : _ < 10 ^ 20) (Nat.pow_le_pow_right (by decide) (by decide))
  · exact fun h => absurd ⟨_, rfl, by decide, rfl⟩ h

/-- Not a number is `null` on its own, and has a name no JSON has next to `2 ** 64`. -/
theorem encodersAgree_nan_false :
    ¬ EncodersAgree OrjsonDocs.ratioDocs.library ratioRuntime OrjsonDocs.ratioDocs
      (.float (.nan 0)) (2 ^ 64) := by
  have halone : OrjsonDocs.ratioDocs.library.orjsonDumps (.float (.nan 0)) =
      .ok (utf8 (py "null")) := by decide +kernel
  have hpair : canonicalBytes OrjsonDocs.ratioDocs.library ratioRuntime
      (.list [.float (.nan 0), .int (2 ^ 64)]) = .ok (utf8 (py "[NaN,18446744073709551616]")) := by
    decide +kernel
  intro h
  have hbytes := hpair.symm.trans (h.1 _ halone).2
  exact absurd hbytes (by decide +kernel)

end Pair

end AgentSentinel
