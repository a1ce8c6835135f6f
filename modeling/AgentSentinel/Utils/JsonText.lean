import AgentSentinel.Lib.Brackets
import AgentSentinel.Utils.CanonicalIdentity

/-!
# AgentSentinel.Utils.JsonText

JSON documents as bytes. The grammar leaves open how numbers and names are spelled and what
a string may contain, so whatever `json.loads` accepts follows it, in any encoding that
writes ASCII as it is. The canonical text of a JSON value follows it too, and a canonical
object that is not there to its last byte does not.
-/

namespace AgentSentinel

open Lib

def isJsonSpace (b : Fin 256) : Bool := b == 0x20 || b == 0x09 || b == 0x0A || b == 0x0D

/-- What a byte of a document does. -/
def byteRole (b : Fin 256) : BracketRole :=
  if b = 0x22 then .quote
  else if b = 0x5C then .escape
  else if b = 0x5B ∨ b = 0x7B then .opens
  else if b = 0x5D ∨ b = 0x7D then .closes
  else .other

/-- What may stand between the quotes of a string. -/
inductive JsonStringBody : PyBytes → Prop
  | nil : JsonStringBody []
  | plain {b w} : b ≠ 0x22 → b ≠ 0x5C → JsonStringBody w → JsonStringBody (b :: w)
  | escape {b w} : JsonStringBody w → JsonStringBody (0x5C :: b :: w)

/-- An entry of an object. -/
structure JsonEntry where
  before : PyBytes
  key : PyBytes
  between : PyBytes
  value : PyBytes

def JsonEntry.bytes (e : JsonEntry) : PyBytes :=
  e.before ++ 0x22 :: (e.key ++ [0x22]) ++ e.between ++ 0x3A :: e.value

/-- The space is space, and the key is a string. -/
structure JsonEntry.WellFormed (e : JsonEntry) : Prop where
  before : ∀ b ∈ e.before, isJsonSpace b = true
  key : JsonStringBody e.key
  between : ∀ b ∈ e.between, isJsonSpace b = true

/-- A document. -/
inductive JsonText : PyBytes → Prop
  | word {w} : w ≠ [] → (∀ b ∈ w, byteRole b = .other) → JsonText w
  | str {w} : JsonStringBody w → JsonText (0x22 :: (w ++ [0x22]))
  | arr {ws} : (∀ w ∈ ws, JsonText w) → JsonText (0x5B :: ([0x2C].intercalate ws ++ [0x5D]))
  | obj {es : List JsonEntry} : (∀ e ∈ es, e.WellFormed) → (∀ e ∈ es, JsonText e.value) →
      JsonText (0x7B :: ([0x2C].intercalate (es.map JsonEntry.bytes) ++ [0x7D]))
  | emptyArr {w} : (∀ b ∈ w, isJsonSpace b = true) → JsonText (0x5B :: (w ++ [0x5D]))
  | emptyObj {w} : (∀ b ∈ w, isJsonSpace b = true) → JsonText (0x7B :: (w ++ [0x7D]))
  | before {b w} : isJsonSpace b = true → JsonText w → JsonText (b :: w)
  | after {b w} : isJsonSpace b = true → JsonText w → JsonText (w ++ [b])

theorem byteRole_of_isJsonSpace {b : Fin 256} (h : isJsonSpace b = true) : byteRole b = .other := by
  simp only [isJsonSpace, Bool.or_eq_true, beq_iff_eq] at h
  rcases h with ((rfl | rfl) | rfl) | rfl <;> rfl

theorem JsonStringBody.keeps {w : PyBytes} (h : JsonStringBody w) :
    Brackets.Keeps byteRole .inside .inside w := by
  induction h with
  | nil => exact Brackets.keeps_nil _
  | @plain b w hquote hescape _ ih =>
      refine Brackets.keeps_cons (fun d => ?_) ih
      simp only [Brackets.step, byteRole, hquote, hescape, if_false]
      split_ifs <;> rfl
  | escape _ ih => exact Brackets.keeps_cons (fun _ => rfl) (Brackets.keeps_cons (fun _ => rfl) ih)

theorem balanced_of_isJsonSpace {w : PyBytes} (h : ∀ b ∈ w, isJsonSpace b = true) :
    Brackets.Balanced byteRole w :=
  Brackets.balanced_of_other fun b hb => byteRole_of_isJsonSpace (h b hb)

theorem JsonEntry.WellFormed.balanced {e : JsonEntry} (h : e.WellFormed)
    (hvalue : Brackets.Balanced byteRole e.value) : Brackets.Balanced byteRole e.bytes :=
  (((balanced_of_isJsonSpace h.before).append (Brackets.balanced_quoted rfl h.key.keeps)).append
    (balanced_of_isJsonSpace h.between)).append (Brackets.keeps_cons (fun _ => rfl) hvalue)

/-- Between the braces of an object, all is balanced. -/
theorem balanced_entries {es : List JsonEntry} (hes : ∀ e ∈ es, e.WellFormed)
    (hvalues : ∀ e ∈ es, Brackets.Balanced byteRole e.value) :
    Brackets.Balanced byteRole ([0x2C].intercalate (es.map JsonEntry.bytes)) := by
  refine Brackets.balanced_intercalate rfl fun w hw => ?_
  obtain ⟨e, he, rfl⟩ := List.mem_map.mp hw
  exact (hes e he).balanced (hvalues e he)

namespace JsonText

theorem ne_nil {w : PyBytes} (h : JsonText w) : w ≠ [] := by
  cases h with
  | word hw => exact hw
  | after => simp
  | _ => exact List.cons_ne_nil _ _

/-- A document closes what it opens. -/
theorem balanced {w : PyBytes} (h : JsonText w) : Brackets.Balanced byteRole w := by
  induction h with
  | word _ hw => exact Brackets.balanced_of_other hw
  | str hw => exact Brackets.balanced_quoted rfl hw.keeps
  | arr _ ih => exact Brackets.balanced_enclosed rfl rfl (Brackets.balanced_intercalate rfl ih)
  | obj hes _ ih => exact Brackets.balanced_enclosed rfl rfl (balanced_entries hes ih)
  | emptyArr hw => exact Brackets.balanced_enclosed rfl rfl (balanced_of_isJsonSpace hw)
  | emptyObj hw => exact Brackets.balanced_enclosed rfl rfl (balanced_of_isJsonSpace hw)
  | before hb _ ih =>
      exact Brackets.keeps_cons (fun d => by simp [Brackets.step, byteRole_of_isJsonSpace hb]) ih
  | after hb _ ih =>
      exact Brackets.Keeps.append ih
        (Brackets.keeps_singleton fun d => by simp [Brackets.step, byteRole_of_isJsonSpace hb])

end JsonText

/-! ### The canonical text -/

theorem utf8_append (s t : PyStr) : utf8 (s ++ t) = utf8 s ++ utf8 t := List.flatMap_append

/-- ASCII is written as it is. -/
theorem utf8Char_ascii {c : CodePoint} (hc : c.val < 0x80) :
    utf8Char c = [Fin.ofNat 256 c.val] := by
  simp [utf8Char, hc]

/-- The bytes of other characters are none of ASCII. -/
theorem utf8Char_high {c : CodePoint} (hc : ¬ c.val < 0x80) :
    ∀ b ∈ utf8Char c, 0x80 ≤ b.val := by
  have hlt := c.isLt
  have htail : ∀ n : ℕ, 0x80 ≤ (Fin.ofNat 256 (0x80 + n % 64)).val := by
    intro n
    rw [Fin.val_ofNat, Nat.mod_eq_of_lt (by omega)]
    omega
  have hlead : ∀ n : ℕ, 0x80 ≤ n → n < 256 → 0x80 ≤ (Fin.ofNat 256 n).val := by
    intro n hn hn'
    rwa [Fin.val_ofNat, Nat.mod_eq_of_lt hn']
  unfold utf8Char
  dsimp only
  rw [if_neg hc]
  split_ifs <;> simp only [List.forall_mem_cons, List.not_mem_nil, false_implies, implies_true,
    and_true]
  · exact ⟨hlead _ (by omega) (by omega), htail _⟩
  · exact ⟨hlead _ (by omega) (by omega), htail _, htail _⟩
  · exact ⟨hlead _ (by omega) (by omega), htail _, htail _, htail _⟩

/-- The bytes of a number or a name. -/
theorem byteRole_of_isWordChar {c : CodePoint} (hc : isWordChar c = true) :
    utf8Char c = [Fin.ofNat 256 c.val] ∧ byteRole (Fin.ofNat 256 c.val) = .other := by
  have hlt : c.val < 0x80 := by
    simp only [isWordChar, isNumberChar, Bool.or_eq_true, Bool.and_eq_true, decide_eq_true_eq,
      beq_iff_eq, Fin.le_def, Fin.ext_iff] at hc
    omega
  refine ⟨utf8Char_ascii hlt, ?_⟩
  have hall : ∀ n < 0x80, isWordChar (Fin.ofNat 0x110000 n) = true →
      byteRole (Fin.ofNat 256 n) = .other := by decide
  exact hall c.val hlt (by simpa using hc)

theorem jsonText_word (w : JsonWord) : JsonText (utf8 w.letters) := by
  refine .word (fun hnil => w.ne_nil ?_) fun b hb => ?_
  · exact utf8_injective (hnil.trans (by rfl))
  · obtain ⟨c, hc, hbc⟩ := List.mem_flatMap.mp hb
    obtain ⟨hbytes, hrole⟩ := byteRole_of_isWordChar (w.word c hc)
    rw [hbytes, List.mem_singleton] at hbc
    rw [hbc, hrole]

/-- A character that is no quote and no backslash may stand in a string. -/
theorem JsonStringBody.char {c : CodePoint} (hquote : c ≠ 0x22) (hescape : c ≠ 0x5C)
    {w : PyBytes} (hw : JsonStringBody w) : JsonStringBody (utf8Char c ++ w) := by
  have hall : ∀ (bs : PyBytes), (∀ b ∈ bs, b ≠ 0x22 ∧ b ≠ 0x5C) → JsonStringBody (bs ++ w) := by
    intro bs hbs
    induction bs with
    | nil => exact hw
    | cons b bs ih =>
        rw [List.forall_mem_cons] at hbs
        exact .plain hbs.1.1 hbs.1.2 (ih hbs.2)
  refine hall _ fun b hb => ?_
  by_cases hc : c.val < 0x80
  · rw [utf8Char_ascii hc, List.mem_singleton] at hb
    have hvalue : b.val = c.val := by
      rw [hb, Fin.val_ofNat, Nat.mod_eq_of_lt (by omega)]
    exact ⟨fun h => hquote (Fin.ext (hvalue ▸ congrArg Fin.val h)),
      fun h => hescape (Fin.ext (hvalue ▸ congrArg Fin.val h))⟩
  · have hhigh := utf8Char_high hc b hb
    exact ⟨fun h => absurd hhigh (by rw [h]; decide), fun h => absurd hhigh (by rw [h]; decide)⟩

theorem ne_of_hexValue {c : CodePoint} {n : ℕ} (h : hexValue c = some n) : c ≠ 0x22 ∧ c ≠ 0x5C := by
  constructor <;> intro hc <;> subst hc <;> cases h

theorem JsonStringBody.unicode {s : PyStr} {c : CodePoint} (h : readUnicode s = some (c, []))
    {w : PyBytes} (hw : JsonStringBody w) : JsonStringBody (utf8 s ++ w) := by
  unfold readUnicode at h
  split at h
  · next a b c d s =>
      simp only [Option.bind_eq_bind, Option.bind_eq_some_iff, Option.pure_def, Option.some.injEq,
        Prod.mk.injEq] at h
      obtain ⟨_, ha, _, hb, _, hc, _, hd, -, rfl⟩ := h
      have hdigits : utf8 [a, b, c, d] ++ w =
          utf8Char a ++ (utf8Char b ++ (utf8Char c ++ (utf8Char d ++ w))) := by
        simp [utf8]
      rw [hdigits]
      exact .char (ne_of_hexValue ha).1 (ne_of_hexValue ha).2 <|
        .char (ne_of_hexValue hb).1 (ne_of_hexValue hb).2 <|
        .char (ne_of_hexValue hc).1 (ne_of_hexValue hc).2 <|
        .char (ne_of_hexValue hd).1 (ne_of_hexValue hd).2 hw
  · cases h

/-- What a reader of escapes reads may stand in a string. -/
theorem JsonStringBody.spelled {s : PyStr} {c : CodePoint} (h : readChar s = some (c, []))
    {w : PyBytes} (hw : JsonStringBody w) : JsonStringBody (utf8 s ++ w) := by
  unfold readChar at h
  split at h
  · cases h
  · next x s =>
      split_ifs at h with hquote hescape
      · subst hescape
        unfold readEscape at h
        split at h
        · cases h
        · next y s =>
            have hletter {y : CodePoint} (hy : y.val < 0x80) (hs : JsonStringBody (utf8 s ++ w)) :
                JsonStringBody (utf8 (0x5C :: y :: s) ++ w) := by
              rw [utf8, List.flatMap_cons, List.flatMap_cons, utf8Char_ascii hy]
              exact .escape hs
            split_ifs at h with h1 h2 h3 h4 h5 h6 h7
            · obtain ⟨rfl, rfl⟩ := Prod.mk.inj (Option.some.inj h)
              exact hletter (by rcases h1 with rfl | rfl | rfl <;> decide) hw
            · obtain ⟨-, rfl⟩ := Prod.mk.inj (Option.some.inj h)
              exact hletter (by subst h2; decide) hw
            · obtain ⟨-, rfl⟩ := Prod.mk.inj (Option.some.inj h)
              exact hletter (by subst h3; decide) hw
            · obtain ⟨-, rfl⟩ := Prod.mk.inj (Option.some.inj h)
              exact hletter (by subst h4; decide) hw
            · obtain ⟨-, rfl⟩ := Prod.mk.inj (Option.some.inj h)
              exact hletter (by subst h5; decide) hw
            · obtain ⟨-, rfl⟩ := Prod.mk.inj (Option.some.inj h)
              exact hletter (by subst h6; decide) hw
            · exact hletter (by subst h7; decide) (.unicode h hw)
      · cases h
        rw [utf8, List.flatMap_cons, List.flatMap_nil, List.append_nil]
        exact hw.char hquote hescape

section Canonical

variable {spell : CodePoint → PyStr}

theorem jsonStringBody_flatMap (hspell : Reads readChar spell) (s : PyStr) :
    JsonStringBody (utf8 (s.flatMap spell)) := by
  induction s with
  | nil => exact .nil
  | cons c s ih =>
      have hread := hspell c []
      rw [List.append_nil] at hread
      rw [List.flatMap_cons, utf8_append]
      exact ih.spelled hread

theorem utf8_quoted (spell : CodePoint → PyStr) (s : PyStr) :
    utf8 (JsonTree.quoted spell s) = 0x22 :: (utf8 (s.flatMap spell) ++ [0x22]) := by
  rw [← List.append_nil (JsonTree.quoted spell s), JsonTree.quoted_append]
  rw [utf8, List.flatMap_cons, ← utf8, utf8_append]
  rfl

/-- Separated items between brackets. -/
theorem utf8_enclosed {o c : CodePoint} (us : List PyStr) (ho : o.val < 0x80)
    (hc : c.val < 0x80) :
    utf8 (o :: ([0x2C].intercalate us ++ c :: [])) =
      Fin.ofNat 256 o.val :: ([0x2C].intercalate (us.map utf8) ++ [Fin.ofNat 256 c.val]) := by
  have hitems : utf8 ([0x2C].intercalate us) = [0x2C].intercalate (us.map utf8) := by
    cases us with
    | nil => rfl
    | cons u us =>
        rw [List.map_cons, intercalate_cons, intercalate_cons, utf8_append, List.flatMap_map]
        exact congrArg (utf8 u ++ ·) List.flatMap_assoc
  rw [utf8, List.flatMap_cons, ← utf8, utf8_append, hitems, utf8Char_ascii ho]
  rw [utf8, List.flatMap_cons, utf8Char_ascii hc]
  rfl

/-- The entry of a canonical object. -/
def canonicalEntry (spell : CodePoint → PyStr) (e : PyStr × JsonTree JsonWord) : JsonEntry :=
  ⟨[], utf8 (e.1.flatMap spell), [], utf8 (e.2.text spell)⟩

theorem bytes_canonicalEntry (spell : CodePoint → PyStr) (e : PyStr × JsonTree JsonWord) :
    (canonicalEntry spell e).bytes = utf8 (JsonTree.entryText spell e) := by
  rw [JsonTree.entryText, utf8_append, utf8_append, utf8_quoted]
  simp only [JsonEntry.bytes, canonicalEntry, List.nil_append, List.append_nil, List.append_assoc]
  rfl

theorem wellFormed_canonicalEntry (hspell : Reads readChar spell)
    (e : PyStr × JsonTree JsonWord) : (canonicalEntry spell e).WellFormed :=
  ⟨by simp [canonicalEntry], jsonStringBody_flatMap hspell e.1, by simp [canonicalEntry]⟩

/-- The bytes of a canonical object. -/
theorem utf8_obj (spell : CodePoint → PyStr) (es : List (PyStr × JsonTree JsonWord)) :
    utf8 (JsonTree.text spell (.obj es)) =
      0x7B :: ([0x2C].intercalate ((es.map (canonicalEntry spell)).map JsonEntry.bytes) ++
        [0x7D]) := by
  rw [← List.append_nil (JsonTree.text spell (.obj es)), JsonTree.obj_append,
    utf8_enclosed _ (by decide) (by decide), List.map_map, List.map_map]
  congr 3
  exact List.map_congr_left fun e _ => (bytes_canonicalEntry spell e).symm

/-- The canonical text is a document. -/
theorem jsonText_canonical (hspell : Reads readChar spell) (t : JsonTree JsonWord) :
    JsonText (utf8 (t.text spell)) := by
  induction t with
  | scalar w => exact jsonText_word w
  | str s =>
      rw [JsonTree.text, utf8_quoted]
      exact .str (jsonStringBody_flatMap hspell s)
  | arr ts ih =>
      rw [← List.append_nil (JsonTree.text spell (.arr ts)), JsonTree.arr_append,
        utf8_enclosed _ (by decide) (by decide), List.map_map]
      refine .arr fun w hw => ?_
      obtain ⟨t, ht, rfl⟩ := List.mem_map.mp hw
      exact ih t ht
  | obj es ih =>
      rw [utf8_obj]
      refine .obj (fun e he => ?_) fun e he => ?_
      · obtain ⟨f, -, rfl⟩ := List.mem_map.mp he
        exact wellFormed_canonicalEntry hspell f
      · obtain ⟨f, hf, rfl⟩ := List.mem_map.mp he
        exact ih f hf

/-- **A canonical object that was cut** is no document. -/
theorem not_jsonText_of_cut (hspell : Reads readChar spell)
    (es : List (PyStr × JsonTree JsonWord)) {part left : PyBytes} (hleft : left ≠ [])
    (hcut : utf8 (JsonTree.text spell (.obj es)) = part ++ left) : ¬ JsonText part := by
  intro hpart
  rw [utf8_obj] at hcut
  refine Brackets.not_balanced_of_cut rfl (balanced_entries (fun e he => ?_) fun e he => ?_)
    hleft hcut hpart.ne_nil hpart.balanced
  · obtain ⟨f, -, rfl⟩ := List.mem_map.mp he
    exact wellFormed_canonicalEntry hspell f
  · obtain ⟨f, -, rfl⟩ := List.mem_map.mp he
    exact (jsonText_canonical hspell f.2).balanced

end Canonical

end AgentSentinel
