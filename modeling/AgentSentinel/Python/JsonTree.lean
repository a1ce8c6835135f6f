import AgentSentinel.Lib.Elementwise
import AgentSentinel.Lib.SelfDelimiting
import AgentSentinel.Python.Json

/-!
# AgentSentinel.Python.JsonTree

JSON values and their compact text. The scalars are a parameter: the numbers and
names of JSON for a value, the words they are printed as for a text. How the
characters of strings are spelled is a parameter too, since two encoders may choose
different escapes.

The text determines the value: `text_append_inj` compares two texts, each in its own
spelling, whatever follows them.
-/

namespace AgentSentinel

open Lib

/-- The letters of a JSON number. -/
def isNumberChar (c : CodePoint) : Bool :=
  (0x30 ≤ c && c ≤ 0x39) || c == 0x2B || c == 0x2D || c == 0x2E || c == 0x45 || c == 0x65

/-- The letters of a JSON number or name, and of the names some encoders add. -/
def isWordChar (c : CodePoint) : Bool :=
  isNumberChar c || (0x41 ≤ c && c ≤ 0x5A) || (0x61 ≤ c && c ≤ 0x7A)

/-- What a scalar is printed as. -/
@[ext]
structure JsonWord where
  letters : PyStr
  ne_nil : letters ≠ []
  word : ∀ c ∈ letters, isWordChar c = true

/-- A JSON value with scalars `σ`, the entries of each object in some order. -/
inductive JsonTree (σ : Type)
  | scalar (a : σ)
  | str (s : PyStr)
  | arr (ts : List (JsonTree σ))
  | obj (es : List (PyStr × JsonTree σ))

namespace JsonTree

variable {σ τ ρ : Type}

/-- Induction over a tree, with the hypothesis for every member. -/
@[elab_as_elim, induction_eliminator]
theorem induction {motive : JsonTree σ → Prop} (scalar : ∀ a, motive (.scalar a))
    (str : ∀ s, motive (.str s)) (arr : ∀ ts, (∀ t ∈ ts, motive t) → motive (.arr ts))
    (obj : ∀ es, (∀ e ∈ es, motive e.2) → motive (.obj es)) : ∀ t, motive t
  | .scalar a => scalar a
  | .str s => str s
  | .arr ts => arr ts fun t ht =>
    have := List.sizeOf_lt_of_mem ht
    induction scalar str arr obj t
  | .obj es => obj es fun e he => by
    have hlt := List.sizeOf_lt_of_mem he
    obtain ⟨k, t⟩ := e
    exact induction scalar str arr obj t
termination_by t => sizeOf t
decreasing_by all_goals simp_wf; simp at *; omega

mutual

/-- The tree with every scalar replaced. -/
def map (f : σ → τ) : JsonTree σ → JsonTree τ
  | scalar a => scalar (f a)
  | str s => str s
  | arr ts => arr (mapList f ts)
  | obj es => obj (mapEntries f es)

def mapList (f : σ → τ) : List (JsonTree σ) → List (JsonTree τ)
  | [] => []
  | t :: ts => map f t :: mapList f ts

def mapEntries (f : σ → τ) : List (PyStr × JsonTree σ) → List (PyStr × JsonTree τ)
  | [] => []
  | (k, t) :: es => (k, map f t) :: mapEntries f es

end

mutual

/-- Whether every scalar of the tree passes a test. -/
def all (p : σ → Bool) : JsonTree σ → Bool
  | scalar a => p a
  | str _ => true
  | arr ts => allList p ts
  | obj es => allEntries p es

def allList (p : σ → Bool) : List (JsonTree σ) → Bool
  | [] => true
  | t :: ts => all p t && allList p ts

def allEntries (p : σ → Bool) : List (PyStr × JsonTree σ) → Bool
  | [] => true
  | (_, t) :: es => all p t && allEntries p es

end

theorem allList_eq (p : σ → Bool) (ts : List (JsonTree σ)) : allList p ts = ts.all (all p) := by
  induction ts with
  | nil => rfl
  | cons t ts ih => rw [allList, ih, List.all_cons]

theorem allEntries_eq (p : σ → Bool) (es : List (PyStr × JsonTree σ)) :
    allEntries p es = es.all fun e => all p e.2 := by
  induction es with
  | nil => rfl
  | cons e es ih => rw [allEntries, ih, List.all_cons]

@[simp] theorem mapList_eq (f : σ → τ) (ts : List (JsonTree σ)) :
    mapList f ts = ts.map (map f) := by
  induction ts with
  | nil => rfl
  | cons t ts ih => rw [mapList, ih, List.map_cons]

@[simp] theorem mapEntries_eq (f : σ → τ) (es : List (PyStr × JsonTree σ)) :
    mapEntries f es = es.map fun e => (e.1, map f e.2) := by
  induction es with
  | nil => rfl
  | cons e es ih => rw [mapEntries, ih, List.map_cons]

@[simp] theorem map_id (t : JsonTree σ) : map id t = t := by
  induction t with
  | scalar a => rfl
  | str s => rfl
  | arr ts ih =>
      rw [map, mapList_eq, List.map_congr_left ih, List.map_id']
  | obj es ih =>
      rw [map, mapEntries_eq, List.map_congr_left fun e he => by rw [ih e he], List.map_id']

/-- Two replacements that agree on a pair of trees agree on what the scalars tell. -/
theorem map_eq_map_of {f : σ → τ} {g : ρ → τ} {υ : Type} {k : σ → υ} {l : ρ → υ}
    (hkl : ∀ a b, f a = g b → k a = l b) {t : JsonTree σ} {t' : JsonTree ρ}
    (heq : map f t = map g t') : map k t = map l t' := by
  induction t generalizing t' with
  | scalar a =>
      cases t' with
      | scalar b =>
          simp only [map, scalar.injEq] at heq ⊢
          exact hkl a b heq
      | _ => simp [map] at heq
  | str s =>
      cases t' with
      | str s' => simpa [map] using heq
      | _ => simp [map] at heq
  | arr ts ih =>
      cases t' with
      | arr ts' =>
          simp only [map, mapList_eq, arr.injEq] at heq ⊢
          exact map_eq_map_of_forall (fun t ht t' _ => ih t ht) heq
      | _ => simp [map] at heq
  | obj es ih =>
      cases t' with
      | obj es' =>
          simp only [map, mapEntries_eq, obj.injEq] at heq ⊢
          refine map_eq_map_of_forall (fun e he e' _ heq => ?_) heq
          rw [Prod.mk.injEq] at heq ⊢
          exact ⟨heq.1, ih e he heq.2⟩
      | _ => simp [map] at heq

end JsonTree

/-! ### Characters of strings -/

/-- The value of a hexadecimal digit. -/
def hexValue (c : CodePoint) : Option ℕ :=
  if 0x30 ≤ c ∧ c ≤ 0x39 then some (c.val - 0x30)
  else if 0x61 ≤ c ∧ c ≤ 0x66 then some (c.val - 0x57)
  else if 0x41 ≤ c ∧ c ≤ 0x46 then some (c.val - 0x37)
  else none

/-- The four digits after `\u`. -/
def readUnicode : PyStr → Option (CodePoint × PyStr)
  | a :: b :: c :: d :: s => do
    let a ← hexValue a
    let b ← hexValue b
    let c ← hexValue c
    let d ← hexValue d
    return (Fin.ofNat 0x110000 (4096 * a + 256 * b + 16 * c + d), s)
  | _ => none

/-- What follows a backslash. -/
def readEscape : PyStr → Option (CodePoint × PyStr)
  | [] => none
  | c :: s =>
    if c = 0x22 ∨ c = 0x5C ∨ c = 0x2F then some (c, s)
    else if c = 0x6E then some (0x0A, s)
    else if c = 0x72 then some (0x0D, s)
    else if c = 0x74 then some (0x09, s)
    else if c = 0x66 then some (0x0C, s)
    else if c = 0x62 then some (0x08, s)
    else if c = 0x75 then readUnicode s
    else none

/-- One character inside a JSON string; `none` at the closing quote. Characters above
the basic plane stand for themselves. -/
def readChar : PyStr → Option (CodePoint × PyStr)
  | [] => none
  | c :: s =>
    if c = 0x22 then none
    else if c = 0x5C then readEscape s
    else some (c, s)

theorem readChar_quote (s : PyStr) : readChar (0x22 :: s) = none := by
  simp [readChar]

theorem hexValue_hexDigit {n : ℕ} (hn : n < 16) : hexValue (Json.hexDigit n) = some n := by
  have hall : ∀ n < 16, hexValue (Json.hexDigit n) = some n := by decide
  exact hall n hn

theorem readEscape_unicode {n : ℕ} (hn : n < 0x10000) (s : PyStr) :
    readChar (Json.unicodeEscape n ++ s) = some (Fin.ofNat 0x110000 n, s) := by
  have hhead : py "\\u" = [0x5C, 0x75] := by decide
  have hsum : 4096 * (n / 4096 % 16) + 256 * (n / 256 % 16) + 16 * (n / 16 % 16) + n % 16 = n := by
    omega
  simp [Json.unicodeEscape, hhead, readChar, readEscape, readUnicode,
    hexValue_hexDigit (Nat.mod_lt _ (by decide : 0 < 16)), hsum]

/-- The escapes of `json.dumps(..., ensure_ascii=False)` are read back. -/
theorem reads_escapeChar : Reads readChar (Json.escapeChar false) := by
  intro c rest
  simp only [Json.escapeChar, Bool.false_eq_true, false_and, if_false]
  split_ifs with h1 h2 h3 h4 h5 h6 h7 h8
  · subst h1
    rfl
  · subst h2
    rfl
  · subst h3
    rfl
  · subst h4
    rfl
  · subst h5
    rfl
  · subst h6
    rfl
  · subst h7
    rfl
  · have hlt : c.val < 0x20 := h8
    rw [readEscape_unicode (by omega)]
    simp
  · simp [readChar, h1, h2]

/-! ### Compact text -/

theorem py_comma : py "," = [0x2C] := by decide

theorem join_cons (u : PyStr) (us : List PyStr) :
    PyStr.join (py ",") (u :: us) = u ++ us.flatMap (0x2C :: ·) := by
  rw [PyStr.join, py_comma, intercalate_cons]

namespace JsonTree

variable {σ : Type}

/-- A string token. -/
def quoted (spell : CodePoint → PyStr) (s : PyStr) : PyStr :=
  py "\"" ++ s.flatMap spell ++ py "\""

mutual

/-- Compact JSON, the entries of an object in the order they have in the tree. -/
def text (spell : CodePoint → PyStr) : JsonTree JsonWord → PyStr
  | scalar w => w.letters
  | str s => quoted spell s
  | arr ts => py "[" ++ PyStr.join (py ",") (textList spell ts) ++ py "]"
  | obj es => py "\x7b" ++ PyStr.join (py ",") (textEntries spell es) ++ py "\x7d"

def textList (spell : CodePoint → PyStr) : List (JsonTree JsonWord) → List PyStr
  | [] => []
  | t :: ts => text spell t :: textList spell ts

def textEntries (spell : CodePoint → PyStr) : List (PyStr × JsonTree JsonWord) → List PyStr
  | [] => []
  | (k, t) :: es => (quoted spell k ++ py ":" ++ text spell t) :: textEntries spell es

end

/-- The text of an entry. -/
def entryText (spell : CodePoint → PyStr) (e : PyStr × JsonTree JsonWord) : PyStr :=
  quoted spell e.1 ++ py ":" ++ text spell e.2

theorem textList_eq (spell : CodePoint → PyStr) (ts : List (JsonTree JsonWord)) :
    textList spell ts = ts.map (text spell) := by
  induction ts with
  | nil => rfl
  | cons t ts ih => rw [textList, ih, List.map_cons]

theorem textEntries_eq (spell : CodePoint → PyStr) (es : List (PyStr × JsonTree JsonWord)) :
    textEntries spell es = es.map (entryText spell) := by
  induction es with
  | nil => rfl
  | cons e es ih => rw [textEntries, ih, List.map_cons, entryText]

variable {spell spell' : CodePoint → PyStr} {r r' : PyStr}

theorem quoted_append (spell : CodePoint → PyStr) (s r : PyStr) :
    quoted spell s ++ r = 0x22 :: (s.flatMap spell ++ 0x22 :: r) := by
  have hquote : py "\"" = [0x22] := by decide
  simp [quoted, hquote]

theorem quoted_append_inj (h : Reads readChar spell) (h' : Reads readChar spell') {s s' : PyStr}
    (heq : quoted spell s ++ r = quoted spell' s' ++ r') : s = s' ∧ r = r' := by
  rw [quoted_append, quoted_append, List.cons.injEq] at heq
  obtain ⟨hs, hr⟩ := h.flatMap_append_inj h' (readChar_quote r) (readChar_quote r') heq.2
  exact ⟨hs, (List.cons.inj hr).2⟩

/-- Items between brackets, and what follows. -/
theorem enclosed_append {o c : PyStr} {opening closing : CodePoint} (ho : o = [opening])
    (hc : c = [closing]) (us : List PyStr) (r : PyStr) :
    o ++ PyStr.join (py ",") us ++ c ++ r =
      opening :: ([0x2C].intercalate us ++ closing :: r) := by
  simp [PyStr.join, ho, hc, py_comma]

theorem arr_append (spell : CodePoint → PyStr) (ts : List (JsonTree JsonWord)) (r : PyStr) :
    text spell (arr ts) ++ r =
      0x5B :: ([0x2C].intercalate (ts.map (text spell)) ++ 0x5D :: r) := by
  rw [text, textList_eq]
  exact enclosed_append (by decide) (by decide) _ r

theorem obj_append (spell : CodePoint → PyStr) (es : List (PyStr × JsonTree JsonWord))
    (r : PyStr) :
    text spell (obj es) ++ r =
      0x7B :: ([0x2C].intercalate (es.map (entryText spell)) ++ 0x7D :: r) := by
  rw [text, textEntries_eq]
  exact enclosed_append (by decide) (by decide) _ r

/-! ### Reading the text back -/

/-- What a text can begin. -/
inductive Kind
  | scalar
  | str
  | arr
  | obj

/-- What a text with this first character begins. -/
def kindAt (c : CodePoint) : Option Kind :=
  if isWordChar c then some .scalar
  else if c = 0x22 then some .str
  else if c = 0x5B then some .arr
  else if c = 0x7B then some .obj
  else none

def kind : JsonTree σ → Kind
  | scalar _ => .scalar
  | str _ => .str
  | arr _ => .arr
  | obj _ => .obj

/-- The first character of a text tells what it begins. -/
theorem text_head (spell : CodePoint → PyStr) (t : JsonTree JsonWord) :
    ∃ c ∈ (text spell t).head?, kindAt c = some t.kind := by
  cases t with
  | scalar w =>
      obtain ⟨letters, hne, hword⟩ := w
      cases letters with
      | nil => exact absurd rfl hne
      | cons c cs => exact ⟨c, rfl, if_pos (hword c List.mem_cons_self)⟩
  | str s =>
      refine ⟨0x22, ?_, rfl⟩
      rw [text, ← List.append_nil (quoted spell s), quoted_append]
      rfl
  | arr ts =>
      refine ⟨0x5B, ?_, rfl⟩
      rw [← List.append_nil (text spell (arr ts)), arr_append]
      rfl
  | obj es =>
      refine ⟨0x7B, ?_, rfl⟩
      rw [← List.append_nil (text spell (obj es)), obj_append]
      rfl

theorem kind_eq_of_text_append {t t' : JsonTree JsonWord}
    (heq : text spell t ++ r = text spell' t' ++ r') : t.kind = t'.kind := by
  obtain ⟨c, hc, hkind⟩ := text_head spell t
  obtain ⟨c', hc', hkind'⟩ := text_head spell' t'
  have hhead := congrArg List.head? heq
  rw [List.head?_append_of_ne_nil, List.head?_append_of_ne_nil, hc, hc', Option.some.injEq] at hhead
  · rw [hhead, hkind'] at hkind
    exact (Option.some.inj hkind).symm
  · intro hnil
    simp [hnil] at hc'
  · intro hnil
    simp [hnil] at hc

/-- No value begins as a list or an object ends. -/
theorem opens_text (t : JsonTree JsonWord) : Opens 0x5D (text spell t) := by
  obtain ⟨c, hc, hkind⟩ := text_head spell t
  refine ⟨c, hc, fun hclose => ?_⟩
  subst hclose
  cases hkind

theorem opens_entryText (e : PyStr × JsonTree JsonWord) : Opens 0x7D (entryText spell e) := by
  refine ⟨0x22, ?_, by decide⟩
  rw [entryText, List.append_assoc, quoted_append]
  rfl

/-- A text tells the tree it is of, in whatever spelling, and where it ends. -/
theorem text_append_inj (h : Reads readChar spell) (h' : Reads readChar spell')
    {t t' : JsonTree JsonWord} (hr : Stops isWordChar r) (hr' : Stops isWordChar r')
    (heq : text spell t ++ r = text spell' t' ++ r') : t = t' ∧ r = r' := by
  -- The first character tells the kind of a tree, so both trees are of one kind.
  induction t generalizing t' r r' with
  | scalar w =>
      have hkind := kind_eq_of_text_append heq
      cases t' with
      | scalar w' =>
          obtain ⟨hw, hrest⟩ := word_append_inj w.word w'.word hr hr' heq
          exact ⟨congrArg scalar (JsonWord.ext hw), hrest⟩
      | _ => cases hkind
  | str s =>
      have hkind := kind_eq_of_text_append heq
      cases t' with
      | str s' =>
          obtain ⟨rfl, hrest⟩ := quoted_append_inj h h' heq
          exact ⟨rfl, hrest⟩
      | _ => cases hkind
  | arr ts ih =>
      have hkind := kind_eq_of_text_append heq
      cases t' with
      | arr ts' =>
          rw [arr_append, arr_append, List.cons.injEq] at heq
          obtain ⟨rfl, hrest⟩ := intercalate_append_inj (p := isWordChar) (by decide) (by decide)
            (by decide) (fun t _ => opens_text t) (fun t _ => opens_text t)
            (fun t ht t' _ r r' hr hr' heq => ih t ht hr hr' heq) heq.2
          exact ⟨rfl, hrest⟩
      | _ => cases hkind
  | obj es ih =>
      have hkind := kind_eq_of_text_append heq
      cases t' with
      | obj es' =>
          rw [obj_append, obj_append, List.cons.injEq] at heq
          have hitem : ∀ e ∈ es, ∀ e' ∈ es', ∀ r r', Stops isWordChar r → Stops isWordChar r' →
              entryText spell e ++ r = entryText spell' e' ++ r' → e = e' ∧ r = r' := by
            intro e he e' _ r r' hr hr' heq
            obtain ⟨k, t⟩ := e
            obtain ⟨k', t'⟩ := e'
            simp only [entryText, List.append_assoc] at heq
            obtain ⟨rfl, hvalue⟩ := quoted_append_inj h h' heq
            obtain ⟨rfl, hrest⟩ := ih (k, t) he hr hr' (List.append_cancel_left hvalue)
            exact ⟨rfl, hrest⟩
          obtain ⟨rfl, hrest⟩ := intercalate_append_inj (p := isWordChar) (by decide) (by decide)
            (by decide) (fun e _ => opens_entryText e) (fun e _ => opens_entryText e) hitem heq.2
          exact ⟨rfl, hrest⟩
      | _ => cases hkind

/-- A text tells the tree it is of, in whatever spelling. -/
theorem eq_of_text (h : Reads readChar spell) (h' : Reads readChar spell')
    {t t' : JsonTree JsonWord} (heq : text spell t = text spell' t') : t = t' := by
  have hnil : Stops isWordChar ([] : PyStr) := fun _ hc => by cases hc
  exact (text_append_inj h h' hnil hnil (congrArg (· ++ []) heq)).1

end JsonTree

/-! ### Scalars -/

/-- The scalars of JSON, integers and floats apart. -/
inductive JsonScalar
  | null
  | bool (b : Bool)
  | int (n : ℤ)
  | float (x : FiniteFloat)
  deriving DecidableEq

/-- A JSON value. -/
abbrev JsonValue := JsonTree JsonScalar

/-- A way to print floats as JSON numbers: one number for each float, and none that an
integer is printed as. -/
structure FloatPrinter where
  print : FiniteFloat → PyStr
  injective : Function.Injective print
  number : ∀ x, ∀ c ∈ print x, isNumberChar c = true
  marked : ∀ x, 0x2E ∈ print x ∨ 0x65 ∈ print x

/-- An integer is printed with the letters of a number, and without those only a float
has. -/
theorem intText_letters {n : ℤ} {c : CodePoint} (hc : c ∈ intText n) :
    isNumberChar c = true ∧ c ≠ 0x2E ∧ c ≠ 0x65 := by
  have hdigit : ∀ {c : CodePoint}, 0x30 ≤ c ∧ c ≤ 0x39 →
      isNumberChar c = true ∧ c ≠ 0x2E ∧ c ≠ 0x65 := by
    intro c hrange
    refine ⟨by simp [isNumberChar, hrange], ?_, ?_⟩
    · intro hpoint
      subst hpoint
      exact absurd hrange.1 (by decide)
    · intro he
      subst he
      exact absurd hrange.2 (by decide)
  have hminus : py "-" = [0x2D] := by decide
  unfold intText at hc
  split at hc
  · rcases List.mem_append.mp hc with hsign | hmem
    · rw [hminus, List.mem_singleton] at hsign
      subst hsign
      exact ⟨rfl, by decide, by decide⟩
    · exact hdigit (natText_digits hmem)
  · exact hdigit (natText_digits hc)

theorem isWordChar_of_number {c : CodePoint} (hc : isNumberChar c = true) :
    isWordChar c = true := by
  simp [isWordChar, hc]

/-- A truth value. -/
def boolText (b : Bool) : PyStr := if b then py "true" else py "false"

theorem boolText_injective : Function.Injective boolText := by decide

theorem boolText_ne_null : ∀ b, boolText b ≠ py "null" := by decide

namespace JsonScalar

/-- What a scalar is printed as. -/
def word (floats : FloatPrinter) : JsonScalar → JsonWord
  | null => ⟨py "null", by decide, List.all_eq_true.mp (by decide)⟩
  | bool b => ⟨boolText b, by cases b <;> decide,
      by cases b <;> exact List.all_eq_true.mp (by decide)⟩
  | int n => ⟨intText n, intText_ne_nil n, fun _ hc => isWordChar_of_number (intText_letters hc).1⟩
  | float x => ⟨floats.print x, by rcases floats.marked x with h | h <;> exact List.ne_nil_of_mem h,
      fun c hc => isWordChar_of_number (floats.number x c hc)⟩

/-- What is left of a scalar when it is forgotten which float it is. -/
def shape : JsonScalar → JsonScalar
  | float _ => float ⟨.finite 0, rfl⟩
  | a => a

def isNumber : JsonScalar → Bool
  | int _ => true
  | float _ => true
  | _ => false

def isFloat : JsonScalar → Bool
  | float _ => true
  | _ => false

variable {floats floats' : FloatPrinter} {a b : JsonScalar}

theorem all_isNumberChar_word (floats : FloatPrinter) (a : JsonScalar) :
    (a.word floats).letters.all isNumberChar = a.isNumber := by
  cases a with
  | null => rfl
  | bool b => cases b <;> rfl
  | int n => exact List.all_eq_true.mpr fun c hc => (intText_letters hc).1
  | float x => exact List.all_eq_true.mpr (floats.number x)

theorem marked_word (floats : FloatPrinter) (ha : a.isNumber = true) :
    (0x2E ∈ (a.word floats).letters ∨ 0x65 ∈ (a.word floats).letters) ↔ a.isFloat = true := by
  cases a with
  | null => cases ha
  | bool b => cases ha
  | int n =>
      refine iff_of_false (fun hmarked => ?_) (by simp [isFloat])
      rcases hmarked with h | h
      · exact (intText_letters h).2.1 rfl
      · exact (intText_letters h).2.2 rfl
  | float x => exact iff_of_true (floats.marked x) rfl

/-- The word of a scalar tells it, but for which float it is. -/
theorem shape_eq_of_word (heq : a.word floats = b.word floats') : a.shape = b.shape := by
  have hnumber : a.isNumber = b.isNumber := by
    rw [← all_isNumberChar_word floats, heq, all_isNumberChar_word]
  have hfloat : a.isNumber = true → (a.isFloat = true ↔ b.isFloat = true) := by
    intro ha
    rw [← marked_word floats ha, heq, marked_word floats' (hnumber ▸ ha)]
  have hletters := congrArg JsonWord.letters heq
  cases a with
  | null =>
      cases b with
      | null => rfl
      | bool b => exact absurd hletters.symm (boolText_ne_null b)
      | int n => cases hnumber
      | float x => cases hnumber
  | bool a =>
      cases b with
      | null => exact absurd hletters (boolText_ne_null a)
      | bool b => exact congrArg bool (boolText_injective hletters)
      | int n => cases hnumber
      | float x => cases hnumber
  | int m =>
      cases b with
      | null => cases hnumber
      | bool b => cases hnumber
      | int n => exact congrArg int (intText_injective hletters)
      | float x =>
          have hint := (hfloat rfl).mpr rfl
          cases hint
  | float x =>
      cases b with
      | null => cases hnumber
      | bool b => cases hnumber
      | int n =>
          have hint := (hfloat rfl).mp rfl
          cases hint
      | float y => rfl

/-- Printers that print no two floats the same give no two scalars the same word. -/
theorem eq_of_word (hfloats : ∀ x y, floats.print x = floats'.print y → x = y)
    (heq : a.word floats = b.word floats') : a = b := by
  have hshape := shape_eq_of_word heq
  cases a with
  | float x =>
      cases b with
      | float y => exact congrArg float (hfloats x y (congrArg JsonWord.letters heq))
      | _ => cases hshape
  | _ =>
      cases b with
      | float y => cases hshape
      | _ => exact hshape

theorem word_injective (floats : FloatPrinter) : Function.Injective (word floats) :=
  fun _ _ => eq_of_word fun _ _ heq => floats.injective heq

end JsonScalar

namespace JsonValue

/-- The compact text of a JSON value. -/
def text (spell : CodePoint → PyStr) (floats : FloatPrinter) (t : JsonValue) : PyStr :=
  (t.map (JsonScalar.word floats)).text spell

/-- The text of an entry of an object. -/
def entryText (spell : CodePoint → PyStr) (floats : FloatPrinter) (e : PyStr × JsonValue) : PyStr :=
  JsonTree.quoted spell e.1 ++ py ":" ++ text spell floats e.2

theorem text_arr (spell : CodePoint → PyStr) (floats : FloatPrinter) (ts : List JsonValue) :
    text spell floats (.arr ts) =
      py "[" ++ PyStr.join (py ",") (ts.map (text spell floats)) ++ py "]" := by
  rw [text, JsonTree.map, JsonTree.mapList_eq, JsonTree.text, JsonTree.textList_eq, List.map_map]
  rfl

theorem text_obj (spell : CodePoint → PyStr) (floats : FloatPrinter)
    (es : List (PyStr × JsonValue)) :
    text spell floats (.obj es) =
      py "\x7b" ++ PyStr.join (py ",") (es.map (entryText spell floats)) ++ py "\x7d" := by
  rw [text, JsonTree.map, JsonTree.mapEntries_eq, JsonTree.text, JsonTree.textEntries_eq,
    List.map_map]
  rfl

/-- The value with its floats forgotten. -/
def shape (t : JsonValue) : JsonValue := t.map JsonScalar.shape

variable {spell spell' : CodePoint → PyStr} {floats floats' : FloatPrinter} {s t : JsonValue}

/-- Two encoders that spell and print floats differently write the same text only for
values of one shape. -/
theorem shape_eq_of_text (h : Reads readChar spell) (h' : Reads readChar spell')
    (heq : s.text spell floats = t.text spell' floats') : s.shape = t.shape :=
  JsonTree.map_eq_map_of (fun _ _ => JsonScalar.shape_eq_of_word) (JsonTree.eq_of_text h h' heq)

/-- The text of one encoder tells the value. -/
theorem text_injective (h : Reads readChar spell) (floats : FloatPrinter) :
    Function.Injective (text spell floats) := by
  intro s t heq
  have hid := JsonTree.map_eq_map_of (k := id) (l := id)
    (fun _ _ hword => JsonScalar.word_injective floats hword) (JsonTree.eq_of_text h h heq)
  rwa [JsonTree.map_id, JsonTree.map_id] at hid

end JsonValue

end AgentSentinel
