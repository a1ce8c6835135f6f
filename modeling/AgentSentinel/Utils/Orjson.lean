import AgentSentinel.Utils.CanonicalFallback

/-!
# AgentSentinel.Utils.Orjson

The fast encoder as its documentation describes it, for the options the module passes:
sorted keys, keys that are no strings, and naive times taken as UTC.

What it writes is a JSON value: a float that is no number is `null`, keys become
strings before they are sorted, and bytes, sets and unknown objects have no form. Apart
from a form, a value needs integers of 64 bits, strings without surrogates and a nesting
within the encoder's limit. How floats, dates, times and objects of known classes are
written, and which of several equal keys comes first, are parameters.
-/

namespace AgentSentinel

open Lib

/-- What the documentation leaves to the types. -/
structure OrjsonDocs where
  floats : FloatPrinter
  date : ℤ → PyStr
  datetime : PyDatetime → PyStr
  /-- Dataclasses, enumerations, UUIDs; `none` for other objects. -/
  object : ℕ → Option JsonValue
  objectKey : ℕ → Option PyStr
  /-- Whether the integers inside an object have 64 bits. -/
  objectFits : ℕ → Bool
  /-- `OPT_SORT_KEYS`; the order of equal keys is not specified. -/
  sortKeys : List (PyStr × JsonValue) → List (PyStr × JsonValue)
  sortKeys_perm : ∀ es, (sortKeys es).Perm es
  sortKeys_sorted : ∀ es, (sortKeys es).Pairwise fun a b => a.1.le b.1 = true
  /-- Whether the nesting is within the limit. -/
  nests : JsonValue → Bool
  nests_mem : ∀ {ts}, nests (.arr ts) = true → ∀ t ∈ ts, nests t = true

namespace OrjsonDocs

variable (docs : OrjsonDocs)

/-- A finite float; `null` for the others. -/
def float (x : PyFloat) : JsonValue :=
  if h : x.isFinite = true then .scalar (.float ⟨x, h⟩) else .scalar .null

/-- `OPT_NON_STR_KEYS`: the string a key becomes. -/
def key : Value → Option PyStr
  | .str s => some s
  | .none => some (py "null")
  | .bool b => some (boolText b)
  | .int n => some (intText n)
  | .float x => some (if h : x.isFinite = true then docs.floats.print ⟨x, h⟩ else py "null")
  | .date d => some (docs.date d)
  | .datetime t => some (docs.datetime t)
  | .object i => docs.objectKey i
  | _ => none

mutual

/-- The JSON value written for a Python value. -/
def tree : Value → Option JsonValue
  | .none => some (.scalar .null)
  | .bool b => some (.scalar (.bool b))
  | .int n => some (.scalar (.int n))
  | .float x => some (float x)
  | .str s => some (.str s)
  | .list xs => (trees xs).map .arr
  | .tuple xs => (trees xs).map .arr
  | .dict es => (entries es).map fun fs => .obj (docs.sortKeys fs)
  | .bytes _ => none
  | .set _ => none
  | .date d => some (.str (docs.date d))
  | .datetime t => some (.str (docs.datetime t))
  | .object i => docs.object i

def trees : List Value → Option (List JsonValue)
  | [] => some []
  | x :: xs => do
    let t ← tree x
    let ts ← trees xs
    return t :: ts

def entries : List (Value × Value) → Option (List (PyStr × JsonValue))
  | [] => some []
  | (k, v) :: es => do
    let s ← docs.key k
    let t ← tree v
    let fs ← entries es
    return (s, t) :: fs

end

mutual

/-- Whether every integer is one of 64 bits, with a sign or without. -/
def fits : Value → Bool
  | .int n => fitsWord (.int n)
  | .list xs => fitsList xs
  | .tuple xs => fitsList xs
  | .dict es => fitsEntries es
  | .object i => docs.objectFits i
  | _ => true

def fitsList : List Value → Bool
  | [] => true
  | x :: xs => fits x && fitsList xs

def fitsEntries : List (Value × Value) → Bool
  | [] => true
  | (k, v) :: es => fits k && fits v && fitsEntries es

end

/-- The value has a form the encoder can write, whatever the size of its integers; what has
none is refused for another reason than an integer. -/
def Supported (v : Value) : Prop :=
  ∃ t, docs.tree v = some t ∧ t.plain = true ∧ docs.nests t = true

/-- What the encoder accepts. -/
def Accepts (v : Value) : Prop := docs.Supported v ∧ docs.fits v = true

/-- The text of the JSON value. -/
def text (t : JsonValue) : PyStr := t.text (Json.escapeChar false) docs.floats

/-- The library does what is documented: it writes what it accepts, and raises
`JSONEncodeError`, a `TypeError`, on everything else. -/
structure Describes (lib : HashLibrary) : Prop where
  writes : ∀ {v t}, docs.Accepts v → docs.tree v = some t →
    lib.orjsonDumps v = .ok (utf8 (docs.text t))
  refuses : ∀ {v}, ¬ docs.Accepts v → ∃ e, lib.orjsonDumps v = .error e ∧ e.kind = .typeError

variable {docs}

theorem trees_eq_some {xs : List Value} {ts : List JsonValue} :
    docs.trees xs = some ts ↔ List.Forall₂ (fun x t => docs.tree x = some t) xs ts :=
  traverse_eq_some (by rw [trees]) fun _ _ => by
    rw [trees]
    rfl

/-- The entry of an object for one of a dictionary. -/
def EntryAs (docs : OrjsonDocs) (e : Value × Value) (f : PyStr × JsonValue) : Prop :=
  docs.key e.1 = some f.1 ∧ docs.tree e.2 = some f.2

theorem entries_eq_some {es : List (Value × Value)} {fs : List (PyStr × JsonValue)} :
    docs.entries es = some fs ↔ List.Forall₂ docs.EntryAs es fs := by
  have hentry : docs.EntryAs = fun e f =>
      ((docs.key e.1).bind fun s => (docs.tree e.2).map fun t => (s, t)) = some f := by
    funext e f
    simp only [Option.bind_eq_some_iff, Option.map_eq_some_iff, eq_iff_iff]
    constructor
    · intro h
      exact ⟨f.1, h.1, f.2, h.2, rfl⟩
    · intro h
      obtain ⟨s, hs, t, ht, rfl⟩ := h
      exact ⟨hs, ht⟩
  rw [hentry]
  refine traverse_eq_some (by rw [entries]) fun e es => ?_
  rw [entries]
  cases docs.key e.1 with
  | none => rfl
  | some s => cases docs.tree e.2 <;> rfl

theorem fitsList_iff {xs : List Value} :
    docs.fitsList xs = true ↔ ∀ x ∈ xs, docs.fits x = true := by
  induction xs with
  | nil => simp [fitsList]
  | cons x xs ih => rw [fitsList, Bool.and_eq_true, ih, List.forall_mem_cons]

theorem fitsEntries_iff {es : List (Value × Value)} :
    docs.fitsEntries es = true ↔ ∀ e ∈ es, docs.fits e.1 = true ∧ docs.fits e.2 = true := by
  induction es with
  | nil => simp [fitsEntries]
  | cons e es ih =>
      rw [fitsEntries, Bool.and_eq_true, Bool.and_eq_true, ih, List.forall_mem_cons]

/-- A list is supported only where its members are. -/
theorem Supported.mem {xs : List Value} (h : docs.Supported (.list xs)) {x : Value}
    (hx : x ∈ xs) : docs.Supported x := by
  obtain ⟨t, htree, hplain, hnests⟩ := h
  obtain ⟨ts, hts, rfl⟩ := Option.map_eq_some_iff.mp htree
  rw [JsonTree.plain, JsonTree.plainList_eq, List.all_eq_true] at hplain
  obtain ⟨t, htree, ht⟩ :=
    exists_mem_of_forall₂ (trees_eq_some.mp hts) hx
  exact ⟨t, htree, hplain t ht, docs.nests_mem hnests t ht⟩

/-! ### A library that does what is documented -/

/-- It accepts exactly what the documentation says. -/
def library (docs : OrjsonDocs) : HashLibrary where
  orjsonDumps v :=
    match docs.tree v with
    | some t =>
      if t.plain && docs.nests t && docs.fits v then .ok (utf8 (docs.text t))
      else .error ⟨.typeError, py "Integer exceeds 64-bit range"⟩
    | none => .error ⟨.typeError, py "Type is not JSON serializable"⟩
  dumpArguments arguments := .ok arguments.toValue
  sha256Hex := ratioLibrary.sha256Hex

theorem describes_library (docs : OrjsonDocs) : docs.Describes docs.library where
  writes := by
    intro v t haccepts ht
    obtain ⟨⟨t', ht', hplain, hnests⟩, hfits⟩ := haccepts
    obtain rfl := Option.some.inj (ht.symm.trans ht')
    simp [library, ht, hplain, hnests, hfits]
  refuses := by
    intro v hrefused
    simp only [library]
    split
    · next t ht =>
        rw [if_neg]
        · exact ⟨_, rfl, rfl⟩
        · intro hall
          simp only [Bool.and_eq_true] at hall
          exact hrefused ⟨⟨t, ht, hall.1.1, hall.1.2⟩, hall.2⟩
    · exact ⟨_, rfl, rfl⟩

/-- Floats printed by `printRatio`, dates and times by their number, no objects. -/
def ratioDocs : OrjsonDocs where
  floats := ratioFloats
  date := intText
  datetime t := intText (match t with | .naive micros => micros | .aware micros _ => micros)
  object _ := none
  objectKey _ := none
  objectFits _ := true
  sortKeys := sortByKey
  sortKeys_perm := sortByKey_perm
  sortKeys_sorted := sortByKey_sorted
  nests _ := true
  nests_mem _ _ _ := rfl

end OrjsonDocs

end AgentSentinel
