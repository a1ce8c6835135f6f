import AgentSentinel.Utils.CanonicalIdentity

/-!
# AgentSentinel.Utils.CanonicalFallback

What the fallback encoder writes for an arbitrary Python value, JSON or not: the tree of
the text, with the words it has for floats that are no numbers, `str()` for what it has
no form for, and keys of several classes. `writable` says for which values it returns and
the text can be encoded. The interpreter's recursion limit, which values nested about a
thousand deep run into, is outside the model.
-/

namespace AgentSentinel

open Lib

/-! ### Results of lists -/

theorem map_map_result {α β γ : Type} (r : Result α) (f : α → β) (g : β → γ) :
    (r.map f).map g = r.map (g ∘ f) := by
  cases r <;> rfl

/-- Replacing what each of a list of calls returns. -/
theorem mapM_map_snd {κ α β : Type} (f : α → β) (rs : List (κ × Result α)) :
    (rs.map fun r => (r.1, r.2.map f)).mapM Prod.snd = (rs.mapM Prod.snd).map (List.map f) := by
  induction rs with
  | nil => rfl
  | cons r rs ih =>
      rw [List.map_cons, List.mapM_cons, List.mapM_cons, ih]
      cases r.2 with
      | error e => rfl
      | ok a =>
          cases rs.mapM Prod.snd with
          | error e => rfl
          | ok as => rfl

/-! ### Surrogates -/

/-- No character of the string is a surrogate. -/
def plainStr (s : PyStr) : Bool := !s.any isSurrogate

theorem plainStr_append (s t : PyStr) : plainStr (s ++ t) = (plainStr s && plainStr t) := by
  simp [plainStr]

theorem encodeUtf8_eq_ok_iff {s : PyStr} {bytes : PyBytes} :
    encodeUtf8 s = .ok bytes ↔ plainStr s = true ∧ bytes = utf8 s := by
  unfold encodeUtf8 plainStr
  split
  · next h => simp [h]
  · next h => simp [h, utf8, eq_comm]

/-- A word has ASCII letters only. -/
theorem plainStr_of_word {s : PyStr} (h : ∀ c ∈ s, isWordChar c = true) : plainStr s = true := by
  rw [plainStr, Bool.not_eq_true', List.any_eq_false]
  intro c hc
  have hword := h c hc
  simp only [isWordChar, isNumberChar, Bool.or_eq_true, Bool.and_eq_true, decide_eq_true_eq,
    beq_iff_eq, Fin.le_def, Fin.ext_iff] at hword
  simp only [isSurrogate, decide_eq_true_eq, not_and, not_le]
  omega

namespace JsonTree

variable {σ : Type}

mutual

/-- Whether no string in the tree holds a surrogate. -/
def plain : JsonTree σ → Bool
  | scalar _ => true
  | str s => plainStr s
  | arr ts => plainList ts
  | obj es => plainEntries es

def plainList : List (JsonTree σ) → Bool
  | [] => true
  | t :: ts => plain t && plainList ts

def plainEntries : List (PyStr × JsonTree σ) → Bool
  | [] => true
  | (k, t) :: es => plainStr k && plain t && plainEntries es

end

end JsonTree

theorem plainStr_escapeChar (c : CodePoint) :
    plainStr (Json.escapeChar false c) = !isSurrogate c := by
  simp only [Json.escapeChar, Bool.false_eq_true, false_and, if_false]
  split_ifs with h1 h2 h3 h4 h5 h6 h7 h8
  · subst h1
    rfl
  · subst h2
    rfl
  · subst h3
    rfl
  · subst h4
    rfl
  · subst h5
    rfl
  · subst h6
    rfl
  · subst h7
    rfl
  · have hall : ∀ n < 0x20, plainStr (Json.unicodeEscape n) = true := by decide
    have hlt : c.val < 0x20 := h8
    rw [hall c.val hlt, isSurrogate, decide_eq_false (by omega)]
    rfl
  · simp [plainStr]

theorem plainStr_quoted (s : PyStr) :
    plainStr (JsonTree.quoted (Json.escapeChar false) s) = plainStr s := by
  have hquote : plainStr (py "\"") = true := by decide
  have hchars : plainStr (s.flatMap (Json.escapeChar false)) = plainStr s := by
    induction s with
    | nil => rfl
    | cons c s ih =>
        rw [List.flatMap_cons, plainStr_append, ih, plainStr_escapeChar]
        simp [plainStr]
  rw [JsonTree.quoted, plainStr_append, plainStr_append, hquote, hchars, Bool.true_and,
    Bool.and_true]

theorem plainStr_join (us : List PyStr) : plainStr (PyStr.join (py ",") us) = us.all plainStr := by
  cases us with
  | nil => rfl
  | cons u us =>
      rw [join_cons, plainStr_append, List.all_cons]
      congr 1
      induction us with
      | nil => rfl
      | cons v us ih =>
          have hcons : plainStr (0x2C :: v) = plainStr v := by simp [plainStr, isSurrogate]
          rw [List.flatMap_cons, plainStr_append, ih, List.all_cons, hcons]

namespace JsonTree

theorem plainList_eq {σ : Type} (ts : List (JsonTree σ)) : plainList ts = ts.all plain := by
  induction ts with
  | nil => rfl
  | cons t ts ih => rw [plainList, ih, List.all_cons]

theorem plainEntries_eq {σ : Type} (es : List (PyStr × JsonTree σ)) :
    plainEntries es = es.all fun e => plainStr e.1 && e.2.plain := by
  induction es with
  | nil => rfl
  | cons e es ih => rw [plainEntries, ih, List.all_cons]

theorem plain_map {σ τ : Type} (f : σ → τ) (t : JsonTree σ) : (t.map f).plain = t.plain := by
  induction t with
  | scalar a => rfl
  | str s => rfl
  | arr ts ih =>
      rw [map, mapList_eq, plain, plain, plainList_eq, plainList_eq, List.all_map]
      rw [Bool.eq_iff_iff, List.all_eq_true, List.all_eq_true]
      exact forall₂_congr fun t ht => by rw [Function.comp_apply, ih t ht]
  | obj es ih =>
      rw [map, mapEntries_eq, plain, plain, plainEntries_eq, plainEntries_eq, List.all_map]
      rw [Bool.eq_iff_iff, List.all_eq_true, List.all_eq_true]
      exact forall₂_congr fun e he => by rw [Function.comp_apply, ih e he]

/-- The text of a tree holds a surrogate only where a string of the tree does. -/
theorem plainStr_text (t : JsonTree JsonWord) :
    plainStr (t.text (Json.escapeChar false)) = t.plain := by
  have hbracket : plainStr (py "[") = true ∧ plainStr (py "]") = true ∧
      plainStr (py "\x7b") = true ∧ plainStr (py "\x7d") = true ∧ plainStr (py ":") = true := by
    decide
  obtain ⟨h1, h2, h3, h4, h5⟩ := hbracket
  induction t with
  | scalar w => exact plainStr_of_word w.word
  | str s => exact plainStr_quoted s
  | arr ts ih =>
      rw [text, textList_eq, plainStr_append, plainStr_append, h1, h2, plainStr_join,
        List.all_map, plain, plainList_eq, Bool.true_and, Bool.and_true]
      rw [Bool.eq_iff_iff, List.all_eq_true, List.all_eq_true]
      exact forall₂_congr fun t ht => by rw [Function.comp_apply, ih t ht]
  | obj es ih =>
      rw [text, textEntries_eq, plainStr_append, plainStr_append, h3, h4, plainStr_join,
        List.all_map, plain, plainEntries_eq, Bool.true_and, Bool.and_true]
      rw [Bool.eq_iff_iff, List.all_eq_true, List.all_eq_true]
      refine forall₂_congr fun e he => ?_
      rw [Function.comp_apply, entryText, plainStr_append, plainStr_append, plainStr_quoted, h5,
        ih e he, Bool.and_true]

end JsonTree

/-! ### The tree of the fallback's text -/

/-- The word of a float; three of them are no JSON. -/
def floatWord (floats : FloatPrinter) (x : PyFloat) : JsonWord :=
  if h : x.isFinite = true then JsonScalar.word floats (.float ⟨x, h⟩)
  else match x with
    | .inf true => ⟨py "-Infinity", by decide, List.all_eq_true.mp (by decide)⟩
    | .inf false => ⟨py "Infinity", by decide, List.all_eq_true.mp (by decide)⟩
    | _ => ⟨py "NaN", by decide, List.all_eq_true.mp (by decide)⟩

/-- Sort the encoded entries of a dictionary by key. -/
def sortResults {α : Type} (es : List (Value × Result α)) : List (Value × Result α) :=
  es.insertionSort fun a b => Json.keyLe a.1 b.1 = true

section Tree

variable (rt : PyRuntime) (floats : FloatPrinter)

mutual

/-- What `json.dumps(v, sort_keys=True, default=str)` writes. -/
def fallbackTree : Value → Result (JsonTree JsonWord)
  | .none => .ok (.scalar (JsonScalar.word floats .null))
  | .bool b => .ok (.scalar (JsonScalar.word floats (.bool b)))
  | .int n => (intStr n).map fun _ => .scalar (JsonScalar.word floats (.int n))
  | .float x => .ok (.scalar (floatWord floats x))
  | .str s => .ok (.str s)
  | .list xs => (fallbackTrees xs).map .arr
  | .tuple xs => (fallbackTrees xs).map .arr
  | .dict es =>
    if Json.keysOrdered (es.map Prod.fst) then
      ((sortResults (fallbackEntries es)).mapM Prod.snd).map .obj
    else .error ⟨.typeError, py "'<' not supported between instances of the keys"⟩
  | .bytes bs => .ok (.str (rt.strOf (.bytes bs)))
  | .set xs => (Value.toStr rt (.set xs)).map .str
  | .date d => .ok (.str (rt.strOf (.date d)))
  | .datetime t => .ok (.str (rt.strOf (.datetime t)))
  | .object i => .ok (.str (rt.strOf (.object i)))

def fallbackTrees : List Value → Result (List (JsonTree JsonWord))
  | [] => .ok []
  | x :: xs => do
    let t ← fallbackTree x
    let ts ← fallbackTrees xs
    return t :: ts

def fallbackEntries : List (Value × Value) → List (Value × Result (PyStr × JsonTree JsonWord))
  | [] => []
  | (k, v) :: es =>
    (k, do
      let key ← Json.keyText rt k
      let t ← fallbackTree v
      return (key, t)) :: fallbackEntries es

end

variable {rt floats}

theorem encodeFloat_eq (hrepr : ∀ x : FiniteFloat, x.val.text rt = floats.print x) (x : PyFloat) :
    Json.encodeFloat rt x = (floatWord floats x).letters := by
  cases x with
  | finite q => exact hrepr ⟨.finite q, rfl⟩
  | negZero => exact hrepr ⟨.negZero, rfl⟩
  | inf negative => cases negative <;> rfl
  | nan => rfl

theorem fallbackEntries_text {es : List (Value × Value)}
    (h : ∀ e ∈ es, Json.dumps rt canonicalOptions e.2 =
      (fallbackTree rt floats e.2).map (JsonTree.text (Json.escapeChar false))) :
    Json.dumpsEntries rt canonicalOptions es = (fallbackEntries rt floats es).map fun r =>
      (r.1, r.2.map (JsonTree.entryText (Json.escapeChar false))) := by
  induction es with
  | nil => rfl
  | cons e es ih =>
      obtain ⟨k, v⟩ := e
      rw [Json.dumpsEntries, fallbackEntries, List.map_cons,
        ih fun e he => h e (List.mem_cons_of_mem _ he), h _ List.mem_cons_self]
      cases Json.keyText rt k with
      | error e => rfl
      | ok key =>
          cases fallbackTree rt floats v with
          | error e => rfl
          | ok t => rfl

theorem fallbackTrees_text {xs : List Value}
    (h : ∀ x ∈ xs, Json.dumps rt canonicalOptions x =
      (fallbackTree rt floats x).map (JsonTree.text (Json.escapeChar false))) :
    (Json.dumpsList rt canonicalOptions xs).map
        (fun ts => py "[" ++ canonicalOptions.itemSeparator.join ts ++ py "]") =
      ((fallbackTrees rt floats xs).map JsonTree.arr).map
        (JsonTree.text (Json.escapeChar false)) := by
  have hitems : Json.dumpsList rt canonicalOptions xs =
      (fallbackTrees rt floats xs).map (List.map (JsonTree.text (Json.escapeChar false))) := by
    induction xs with
    | nil => rfl
    | cons x xs ih =>
        rw [Json.dumpsList, fallbackTrees, ih fun x hx => h x (List.mem_cons_of_mem _ hx),
          h x List.mem_cons_self]
        cases fallbackTree rt floats x with
        | error e => rfl
        | ok t =>
            cases fallbackTrees rt floats xs with
            | error e => rfl
            | ok ts => rfl
  rw [hitems, map_map_result, map_map_result]
  congr 1
  funext ts
  rw [Function.comp_apply, Function.comp_apply, JsonTree.text, JsonTree.textList_eq]
  rfl

/-- The fallback writes the text of its tree. -/
theorem dumps_eq_tree (hrepr : ∀ x : FiniteFloat, x.val.text rt = floats.print x) (v : Value) :
    Json.dumps rt canonicalOptions v =
      (fallbackTree rt floats v).map (JsonTree.text (Json.escapeChar false)) := by
  induction v with
  | int n =>
      rw [Json.dumps, fallbackTree, intStr]
      split <;> rfl
  | float x => exact congrArg Except.ok (encodeFloat_eq hrepr x)
  | list xs ih =>
      rw [Json.dumps, fallbackTree]
      exact fallbackTrees_text ih
  | tuple xs ih =>
      rw [Json.dumps, fallbackTree]
      exact fallbackTrees_text ih
  | dict es ih =>
      rw [Json.dumps, fallbackTree, fallbackEntries_text fun e he => (ih e he).2]
      split
      · have hsort : Json.sortEntries ((fallbackEntries rt floats es).map fun r =>
            (r.1, r.2.map (JsonTree.entryText (Json.escapeChar false)))) =
            (sortResults (fallbackEntries rt floats es)).map fun r =>
              (r.1, r.2.map (JsonTree.entryText (Json.escapeChar false))) := by
          rw [Json.sortEntries, sortResults, List.map_insertionSort _
            (fun a b : Value × Result PyStr => Json.keyLe a.1 b.1 = true)]
          exact fun _ _ _ _ => Iff.rfl
        rw [hsort, mapM_map_snd, map_map_result, map_map_result]
        congr 1
        funext ts
        rw [Function.comp_apply, Function.comp_apply, JsonTree.text, JsonTree.textEntries_eq]
        rfl
      · rfl
  | set xs =>
      rw [Json.dumps, fallbackTree]
      cases Value.toStr rt (.set xs) <;> rfl
  | _ => rfl

/-! ### What the fallback writes -/

theorem intStr_eq_ok {n : ℤ} {s : PyStr} :
    intStr n = .ok s ↔ n.natAbs < 10 ^ intMaxStrDigits ∧ s = intText n := by
  unfold intStr
  split
  · next hlong => simp [Nat.not_lt.mpr hlong]
  · next hshort => simp [Nat.lt_of_not_le hshort, eq_comm]

theorem fallbackTree_int_eq_ok {n : ℤ} {t : JsonTree JsonWord} :
    fallbackTree rt floats (.int n) = .ok t ↔ n.natAbs < 10 ^ intMaxStrDigits ∧
      .scalar (JsonScalar.word floats (.int n)) = t := by
  simp only [fallbackTree, map_eq_ok, intStr_eq_ok]
  constructor
  · intro h
    obtain ⟨_, ⟨hshort, -⟩, heq⟩ := h
    exact ⟨hshort, heq⟩
  · intro h
    exact ⟨_, ⟨h.1, rfl⟩, h.2⟩

theorem fallbackTrees_eq_ok {xs : List Value} {ts : List (JsonTree JsonWord)} :
    fallbackTrees rt floats xs = .ok ts ↔
      List.Forall₂ (fun x t => fallbackTree rt floats x = .ok t) xs ts := by
  rw [← mapM_eq_ok]
  induction xs generalizing ts with
  | nil => rfl
  | cons x xs ih =>
      rw [fallbackTrees, List.mapM_cons, bind_eq_ok, bind_eq_ok]
      simp only [bind_eq_ok, ih]

/-- The entries of a dictionary in the order of the fallback. -/
def sortByValue (es : List (Value × Value)) : List (Value × Value) :=
  es.insertionSort fun a b => Json.keyLe a.1 b.1 = true

/-- The entry the fallback writes for one of a dictionary. -/
def WrittenAs (rt : PyRuntime) (floats : FloatPrinter) (e : Value × Value)
    (f : PyStr × JsonTree JsonWord) : Prop :=
  Json.keyText rt e.1 = .ok f.1 ∧ fallbackTree rt floats e.2 = .ok f.2

theorem fallbackEntries_eq (es : List (Value × Value)) :
    fallbackEntries rt floats es = es.map fun e => (e.1, do
      let key ← Json.keyText rt e.1
      let t ← fallbackTree rt floats e.2
      return (key, t)) := by
  induction es with
  | nil => rfl
  | cons e es ih => rw [fallbackEntries, ih, List.map_cons]

/-- A dictionary is written when its keys have an order, as its entries in that order. -/
theorem fallbackTree_dict_eq_ok {es : List (Value × Value)} {t : JsonTree JsonWord} :
    fallbackTree rt floats (.dict es) = .ok t ↔ Json.keysOrdered (es.map Prod.fst) = true ∧
      ∃ fs, List.Forall₂ (WrittenAs rt floats) (sortByValue es) fs ∧ .obj fs = t := by
  have hentry : ∀ (e : Value × Value) (f : PyStr × JsonTree JsonWord),
      (do
        let key ← Json.keyText rt e.1
        let t ← fallbackTree rt floats e.2
        return (key, t) : Result (PyStr × JsonTree JsonWord)) = .ok f ↔
      WrittenAs rt floats e f := by
    intro e f
    rw [bind_eq_ok]
    simp only [bind_eq_ok]
    constructor
    · intro h
      obtain ⟨key, hkey, t, ht, hf⟩ := h
      obtain rfl := Except.ok.inj hf
      exact ⟨hkey, ht⟩
    · intro h
      exact ⟨f.1, h.1, f.2, h.2, rfl⟩
  have hsort : sortResults (fallbackEntries rt floats es) = (sortByValue es).map fun e =>
      (e.1, do
        let key ← Json.keyText rt e.1
        let t ← fallbackTree rt floats e.2
        return (key, t)) := by
    rw [fallbackEntries_eq, sortResults, sortByValue, List.map_insertionSort _
      (fun a b : Value × Result (PyStr × JsonTree JsonWord) => Json.keyLe a.1 b.1 = true)]
    exact fun _ _ _ _ => Iff.rfl
  rw [fallbackTree]
  split
  · next hordered =>
      simp only [hordered, true_and, map_eq_ok, mapM_eq_ok, hsort, List.forall₂_map_left_iff,
        hentry]
  · next hordered => simp [hordered]

/-! ### What can be written -/

/-- Whether the fallback writes the key, without a surrogate. -/
def keyWritable : Value → Bool
  | .str s => plainStr s
  | .int n => decide (n.natAbs < 10 ^ intMaxStrDigits)
  | .none => true
  | .bool _ => true
  | .float _ => true
  | _ => false

mutual

/-- Whether the fallback returns for the value and its text can be encoded. -/
def writable (rt : PyRuntime) : Value → Bool
  | .none => true
  | .bool _ => true
  | .int n => decide (n.natAbs < 10 ^ intMaxStrDigits)
  | .float _ => true
  | .str s => plainStr s
  | .list xs => writableList rt xs
  | .tuple xs => writableList rt xs
  | .dict es => Json.keysOrdered (es.map Prod.fst) && writableEntries rt es
  | .bytes bs => plainStr (rt.strOf (.bytes bs))
  | .set xs => Value.printableList xs && plainStr (rt.strOf (.set xs))
  | .date d => plainStr (rt.strOf (.date d))
  | .datetime t => plainStr (rt.strOf (.datetime t))
  | .object i => plainStr (rt.strOf (.object i))

def writableList (rt : PyRuntime) : List Value → Bool
  | [] => true
  | x :: xs => writable rt x && writableList rt xs

def writableEntries (rt : PyRuntime) : List (Value × Value) → Bool
  | [] => true
  | (k, v) :: es => keyWritable k && writable rt v && writableEntries rt es

end

theorem writableList_iff {xs : List Value} :
    writableList rt xs = true ↔ ∀ x ∈ xs, writable rt x = true := by
  induction xs with
  | nil => simp [writableList]
  | cons x xs ih => rw [writableList, Bool.and_eq_true, ih, List.forall_mem_cons]

theorem writableEntries_iff {es : List (Value × Value)} :
    writableEntries rt es = true ↔
      ∀ e ∈ es, keyWritable e.1 = true ∧ writable rt e.2 = true := by
  induction es with
  | nil => simp [writableEntries]
  | cons e es ih =>
      rw [writableEntries, Bool.and_eq_true, Bool.and_eq_true, ih, List.forall_mem_cons]

theorem keyWritable_iff (hrepr : ∀ x : FiniteFloat, x.val.text rt = floats.print x) (k : Value) :
    (∃ s, Json.keyText rt k = .ok s ∧ plainStr s = true) ↔ keyWritable k = true := by
  have hword : ∀ w : JsonWord, plainStr w.letters = true := fun w => plainStr_of_word w.word
  cases k with
  | none => exact iff_of_true ⟨_, rfl, hword (JsonScalar.word floats .null)⟩ rfl
  | bool b => exact iff_of_true ⟨_, rfl, hword (JsonScalar.word floats (.bool b))⟩ rfl
  | int n =>
      simp only [Json.keyText, keyWritable, intStr_eq_ok, decide_eq_true_eq]
      constructor
      · intro h
        obtain ⟨s, ⟨hshort, -⟩, -⟩ := h
        exact hshort
      · intro hshort
        exact ⟨_, ⟨hshort, rfl⟩, hword (JsonScalar.word floats (.int n))⟩
  | float x =>
      refine iff_of_true ⟨_, rfl, ?_⟩ rfl
      rw [encodeFloat_eq hrepr]
      exact hword (floatWord floats x)
  | str s => simp [Json.keyText, keyWritable]
  | _ => simp [Json.keyText, keyWritable]

theorem fallbackTrees_writable {xs : List Value}
    (h : ∀ x ∈ xs, (∃ t, fallbackTree rt floats x = .ok t ∧ t.plain = true) ↔
      writable rt x = true) :
    (∃ t, (fallbackTrees rt floats xs).map JsonTree.arr = .ok t ∧ t.plain = true) ↔
      writableList rt xs = true := by
  rw [writableList_iff, ← forall₂_congr h, ← exists_forall₂_iff]
  simp only [map_eq_ok, fallbackTrees_eq_ok]
  constructor
  · intro h
    obtain ⟨_, ⟨ts, hts, rfl⟩, hplain⟩ := h
    rw [JsonTree.plain, JsonTree.plainList_eq, List.all_eq_true] at hplain
    exact ⟨ts, hts, hplain⟩
  · intro h
    obtain ⟨ts, hts, hplain⟩ := h
    refine ⟨_, ⟨ts, hts, rfl⟩, ?_⟩
    rw [JsonTree.plain, JsonTree.plainList_eq, List.all_eq_true]
    exact hplain

/-- The fallback returns, with a text that can be encoded, exactly on what is writable. -/
theorem writable_iff (hrepr : ∀ x : FiniteFloat, x.val.text rt = floats.print x) (v : Value) :
    (∃ t, fallbackTree rt floats v = .ok t ∧ t.plain = true) ↔ writable rt v = true := by
  induction v with
  | none => exact iff_of_true ⟨_, rfl, rfl⟩ rfl
  | bool b => exact iff_of_true ⟨_, rfl, rfl⟩ rfl
  | int n =>
      simp only [fallbackTree_int_eq_ok, writable, decide_eq_true_eq]
      constructor
      · intro h
        obtain ⟨t, ⟨hshort, -⟩, -⟩ := h
        exact hshort
      · intro hshort
        exact ⟨_, ⟨hshort, rfl⟩, rfl⟩
  | float x => exact iff_of_true ⟨_, rfl, rfl⟩ rfl
  | list xs ih =>
      rw [fallbackTree, writable]
      exact fallbackTrees_writable ih
  | tuple xs ih =>
      rw [fallbackTree, writable]
      exact fallbackTrees_writable ih
  | dict es ih =>
      -- Sorting keeps the entries, and being writable is a matter of each of them.
      have hperm : (sortByValue es).Perm es := List.perm_insertionSort _ es
      have hentry : ∀ e ∈ es, (∃ f, WrittenAs rt floats e f ∧
          (plainStr f.1 && f.2.plain) = true) ↔
          keyWritable e.1 = true ∧ writable rt e.2 = true := by
        intro e he
        rw [← keyWritable_iff hrepr, ← (ih e he).2]
        constructor
        · intro h
          obtain ⟨f, ⟨hkey, hvalue⟩, hplain⟩ := h
          rw [Bool.and_eq_true] at hplain
          exact ⟨⟨f.1, hkey, hplain.1⟩, f.2, hvalue, hplain.2⟩
        · intro h
          obtain ⟨⟨s, hkey, hs⟩, t, hvalue, ht⟩ := h
          exact ⟨(s, t), ⟨hkey, hvalue⟩, Bool.and_eq_true_iff.mpr ⟨hs, ht⟩⟩
      rw [writable, Bool.and_eq_true, writableEntries_iff, ← forall₂_congr hentry]
      simp only [fallbackTree_dict_eq_ok, ← hperm.mem_iff]
      rw [← exists_forall₂_iff]
      constructor
      · intro h
        obtain ⟨_, ⟨hordered, fs, hfs, rfl⟩, hplain⟩ := h
        rw [JsonTree.plain, JsonTree.plainEntries_eq, List.all_eq_true] at hplain
        exact ⟨hordered, fs, hfs, hplain⟩
      · intro h
        obtain ⟨hordered, fs, hfs, hplain⟩ := h
        refine ⟨_, ⟨hordered, fs, hfs, rfl⟩, ?_⟩
        rw [JsonTree.plain, JsonTree.plainEntries_eq, List.all_eq_true]
        exact hplain
  | set xs =>
      rw [fallbackTree, writable, Value.toStr_set]
      cases Value.printableList xs <;> simp [Except.map, JsonTree.plain]
  | _ => simp [fallbackTree, writable, JsonTree.plain]

end Tree

end AgentSentinel
