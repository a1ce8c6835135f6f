import AgentSentinel.Lib.Occurrence
import AgentSentinel.Utils.CanonicalFallback

/-!
# AgentSentinel.Utils.JsonDumps

What is to be found in the text of `json.dumps`, and when there is one: every string value,
with its characters as the encoder spells them; and a text for every JSON value whose integers
are short enough to be printed.
-/

namespace AgentSentinel

open Lib

/-- The text is a string value of the value, at any depth in lists, tuples and the values of
dictionaries. -/
inductive Value.HoldsText : Value → PyStr → Prop
  | here (s : PyStr) : HoldsText (.str s) s
  | list {xs : List Value} {x : Value} {s : PyStr} (hx : x ∈ xs) (h : HoldsText x s) :
      HoldsText (.list xs) s
  | tuple {xs : List Value} {x : Value} {s : PyStr} (hx : x ∈ xs) (h : HoldsText x s) :
      HoldsText (.tuple xs) s
  | dict {es : List (Value × Value)} {k v : Value} {s : PyStr} (he : (k, v) ∈ es)
      (h : HoldsText v s) : HoldsText (.dict es) s

namespace Json

variable {rt : PyRuntime} {o : JsonOptions}

/-! ### What the encoder writes -/

/-- The characters of a string as the encoder spells them. -/
def escape (ensureAscii : Bool) (s : PyStr) : PyStr := s.flatMap (escapeChar ensureAscii)

/-- What is written for an entry of a dictionary. -/
def WritesEntry (rt : PyRuntime) (o : JsonOptions) (e : Value × Value) (t : PyStr) : Prop :=
  ∃ key u, keyText rt e.1 = .ok key ∧ dumps rt o e.2 = .ok u ∧
    encodeStr o.ensureAscii key ++ o.keySeparator ++ u = t

theorem dumpsList_eq_ok {xs : List Value} {ts : List PyStr} :
    dumpsList rt o xs = .ok ts ↔ List.Forall₂ (fun x t => dumps rt o x = .ok t) xs ts := by
  rw [← mapM_eq_ok]
  induction xs generalizing ts with
  | nil => rfl
  | cons x xs ih => simp only [dumpsList, List.mapM_cons, bind_eq_ok, ih]

theorem dumpsEntries_eq (es : List (Value × Value)) :
    dumpsEntries rt o es = es.map fun e => (e.1, do
      let key ← keyText rt e.1
      let t ← dumps rt o e.2
      return encodeStr o.ensureAscii key ++ o.keySeparator ++ t) := by
  induction es with
  | nil => rfl
  | cons e es ih => rw [dumpsEntries, ih, List.map_cons]

/-- A dictionary is written when its keys have an order and each of its entries is, in the
order of the keys. -/
theorem dumps_dict_eq_ok {es : List (Value × Value)} {text : PyStr} :
    dumps rt o (.dict es) = .ok text ↔ keysOrdered (es.map Prod.fst) = true ∧
      ∃ ts, List.Forall₂ (WritesEntry rt o) (sortByValue es) ts ∧
        py "\x7b" ++ o.itemSeparator.join ts ++ py "\x7d" = text := by
  have hsort : sortEntries (dumpsEntries rt o es) = (sortByValue es).map fun e => (e.1, do
      let key ← keyText rt e.1
      let t ← dumps rt o e.2
      return encodeStr o.ensureAscii key ++ o.keySeparator ++ t) := by
    rw [dumpsEntries_eq, sortEntries, sortByValue, List.map_insertionSort _
      (fun a b : Value × Result PyStr => keyLe a.1 b.1 = true)]
    exact fun _ _ _ _ => Iff.rfl
  have hentry : ∀ (e : Value × Value) (t : PyStr), (do
      let key ← keyText rt e.1
      let u ← dumps rt o e.2
      return encodeStr o.ensureAscii key ++ o.keySeparator ++ u : Result PyStr) = .ok t ↔
        WritesEntry rt o e t := by
    intro e t
    simp only [bind_eq_ok, WritesEntry, pure, Except.pure, Except.ok.injEq, exists_and_left]
  rw [dumps]
  split
  · next hordered =>
      simp only [hordered, true_and, map_eq_ok, mapM_eq_ok, hsort, List.forall₂_map_left_iff,
        hentry]
  · next hordered => simp [hordered]

/-! ### Strings in the text -/

/-- Printable characters of ASCII other than the quote and the backslash, which the encoder
writes as they are. -/
def Verbatim (c : CodePoint) : Prop := 0x20 ≤ c ∧ c < 0x7F ∧ c ≠ 0x22 ∧ c ≠ 0x5C

theorem escapeChar_verbatim {b : Bool} {c : CodePoint} (h : Verbatim c) : escapeChar b c = [c] := by
  obtain ⟨hlow, hhigh, hquote, hbackslash⟩ := h
  have hne : ∀ d : CodePoint, d < 0x20 → c ≠ d := fun d hd heq => absurd hlow (heq ▸ not_le.mpr hd)
  unfold escapeChar
  rw [if_neg hquote, if_neg hbackslash, if_neg (hne _ (by decide)), if_neg (hne _ (by decide)),
    if_neg (hne _ (by decide)), if_neg (hne _ (by decide)), if_neg (hne _ (by decide)),
    if_neg (not_lt.mpr hlow), if_neg fun hascii => absurd hhigh (not_lt.mpr hascii.2)]

theorem escape_verbatim {b : Bool} {s : PyStr} (h : ∀ c ∈ s, Verbatim c) : escape b s = s := by
  rw [escape, List.flatMap_congr fun c hc => escapeChar_verbatim (h c hc)]
  simp

theorem escape_infix {b : Bool} {s t : PyStr} (h : s <:+: t) : escape b s <:+: escape b t := by
  unfold escape
  exact flatMap_infix h

/-- Every string value occurs in the text as the encoder spells it. -/
theorem escape_infix_of_holdsText {v : Value} {s text : PyStr} (h : v.HoldsText s)
    (htext : dumps rt o v = .ok text) : escape o.ensureAscii s <:+: text := by
  have hbrackets : ∀ {a b t : PyStr} {ts : List PyStr}, t ∈ ts →
      t <:+: a ++ o.itemSeparator.join ts ++ b := fun ht =>
    (infix_intercalate_of_mem ht).trans ⟨_, _, rfl⟩
  induction h generalizing text with
  | here s =>
      obtain rfl := Except.ok.inj htext
      exact ⟨_, _, rfl⟩
  | @list xs x s hx _ ih =>
      rw [dumps, map_eq_ok] at htext
      obtain ⟨ts, hts, rfl⟩ := htext
      obtain ⟨t, hdump, ht⟩ := exists_mem_of_forall₂ (dumpsList_eq_ok.mp hts) hx
      exact (ih hdump).trans (hbrackets ht)
  | @tuple xs x s hx _ ih =>
      rw [dumps, map_eq_ok] at htext
      obtain ⟨ts, hts, rfl⟩ := htext
      obtain ⟨t, hdump, ht⟩ := exists_mem_of_forall₂ (dumpsList_eq_ok.mp hts) hx
      exact (ih hdump).trans (hbrackets ht)
  | @dict es k v s he _ ih =>
      obtain ⟨-, ts, hts, rfl⟩ := dumps_dict_eq_ok.mp htext
      have hmem : (k, v) ∈ sortByValue es := (List.perm_insertionSort _ es).mem_iff.mpr he
      obtain ⟨t, ⟨key, u, -, hu, rfl⟩, ht⟩ := exists_mem_of_forall₂ hts hmem
      exact (ih hu).trans ((List.suffix_append _ _).isInfix.trans (hbrackets ht))

/-! ### Values with a text -/

theorem dumps_list_returns_iff {xs : List Value}
    (hitem : ∀ x ∈ xs, (∃ t, dumps rt o x = .ok t) ↔ x.printable = true) :
    (∃ text, dumps rt o (.list xs) = .ok text) ↔ (Value.list xs).printable = true := by
  rw [Value.printable, Value.printableList_iff, ← forall₂_congr hitem, ← exists_related_iff]
  simp only [dumps, map_eq_ok, dumpsList_eq_ok]
  constructor
  · rintro ⟨_, ts, hts, -⟩
    exact ⟨ts, hts⟩
  · rintro ⟨ts, hts⟩
    exact ⟨_, ts, hts, rfl⟩

theorem dumps_dict_returns_iff {es : List (Value × Value)}
    (hordered : keysOrdered (es.map Prod.fst) = true)
    (hentry : ∀ e ∈ es, (∃ t, WritesEntry rt o e t) ↔
      e.1.printable = true ∧ e.2.printable = true) :
    (∃ text, dumps rt o (.dict es) = .ok text) ↔ (Value.dict es).printable = true := by
  have hperm : (sortByValue es).Perm es := List.perm_insertionSort _ es
  rw [Value.printable, Value.printableEntries_iff, ← forall₂_congr hentry]
  simp only [← hperm.mem_iff, ← exists_related_iff, dumps_dict_eq_ok, hordered, true_and]
  constructor
  · rintro ⟨_, ts, hts, -⟩
    exact ⟨ts, hts⟩
  · rintro ⟨ts, hts⟩
    exact ⟨_, ts, hts, rfl⟩

/-- A JSON value has a text unless an integer in it is too long to be printed. -/
theorem dumps_returns_iff {v : Value} (h : v.IsJson) :
    (∃ text, dumps rt o v = .ok text) ↔ v.printable = true := by
  induction v with
  | none => exact iff_of_true ⟨_, rfl⟩ rfl
  | bool b => exact iff_of_true ⟨_, rfl⟩ rfl
  | int n => rw [dumps, intStr_returns_iff, Value.printable, decide_eq_true_eq]
  | float x => exact iff_of_true ⟨_, rfl⟩ rfl
  | str s => exact iff_of_true ⟨_, rfl⟩ rfl
  | list xs ih =>
      obtain ⟨_, hjson⟩ := h
      obtain ⟨ts, hts, -⟩ := Value.toJson_list_eq_some.mp hjson
      refine dumps_list_returns_iff fun x hx => ?_
      obtain ⟨t, ht, -⟩ := exists_mem_of_forall₂ hts hx
      exact ih x hx ⟨t, ht⟩
  | dict es ih =>
      obtain ⟨_, hjson⟩ := h
      obtain ⟨fs, hfs, -, -⟩ := Value.toJson_dict_eq_some.mp hjson
      refine dumps_dict_returns_iff (keysOrdered_of_entries hfs) fun e he => ?_
      -- The key of a JSON object is a string, which is written and printable.
      obtain ⟨f, ⟨hkey, hvalue⟩, -⟩ := exists_mem_of_forall₂ hfs he
      rw [← (ih e he).2 ⟨_, hvalue⟩, hkey]
      simp [WritesEntry, keyText, hkey, Value.printable]
  | _ =>
      obtain ⟨_, hjson⟩ := h
      cases hjson

end Json

end AgentSentinel
