import Mathlib.Data.List.Sort
import AgentSentinel.Python.Value

/-!
# AgentSentinel.Python.Json

`json.dumps(value, sort_keys=True, default=str)`, the form the program calls it
in. Two settings vary between the calls, the separators and `ensure_ascii`, and
are parameters. Everything the encoder has no form for goes through `default=str`
and comes out as a string; only dictionary keys can make it raise, by having no
order among themselves or no string form, and integers too long to print.
-/

namespace AgentSentinel

/-- The settings in which the program's calls differ. -/
structure JsonOptions where
  itemSeparator : PyStr
  keySeparator : PyStr
  ensureAscii : Bool

/-- `json.dumps` without `separators` or `ensure_ascii`. -/
def JsonOptions.default : JsonOptions := ⟨py ", ", py ": ", true⟩

namespace Json

/-- One hexadecimal digit, lower case. -/
def hexDigit (n : ℕ) : CodePoint := Fin.ofNat 0x110000 (if n < 10 then 48 + n else 87 + n)

/-- `\uXXXX` for one UTF-16 unit. -/
def unicodeEscape (n : ℕ) : PyStr :=
  py "\\u" ++ [hexDigit (n / 4096 % 16), hexDigit (n / 256 % 16), hexDigit (n / 16 % 16),
    hexDigit (n % 16)]

/-- The escape of one character. Above the basic plane it is a surrogate pair. -/
def escapeChar (ensureAscii : Bool) (c : CodePoint) : PyStr :=
  if c = 0x22 then py "\\\""
  else if c = 0x5C then py "\\\\"
  else if c = 0x0A then py "\\n"
  else if c = 0x0D then py "\\r"
  else if c = 0x09 then py "\\t"
  else if c = 0x0C then py "\\f"
  else if c = 0x08 then py "\\b"
  else if c < 0x20 then unicodeEscape c.val
  else if ensureAscii = true ∧ 0x7F ≤ c then
    if c < 0x10000 then unicodeEscape c.val
    else unicodeEscape (0xD800 + (c.val - 0x10000) / 1024) ++
      unicodeEscape (0xDC00 + (c.val - 0x10000) % 1024)
  else [c]

/-- A string token. -/
def encodeStr (ensureAscii : Bool) (s : PyStr) : PyStr :=
  py "\"" ++ s.flatMap (escapeChar ensureAscii) ++ py "\""

/-- A float token; the special values have names no JSON grammar has. -/
def encodeFloat (rt : PyRuntime) : PyFloat → PyStr
  | .inf negative => if negative then py "-Infinity" else py "Infinity"
  | .nan _ => py "NaN"
  | x => x.text rt

/-- The string a dictionary key is written as. -/
def keyText (rt : PyRuntime) : Value → Result PyStr
  | .str s => .ok s
  | .bool b => .ok (if b then py "true" else py "false")
  | .none => .ok (py "null")
  | .int n => intStr n
  | .float x => .ok (encodeFloat rt x)
  | _ => .error ⟨.typeError, py "keys must be str, int, float, bool or None"⟩

/-- Whether `a < b` is defined between any two of the keys. -/
def keysOrdered (ks : List Value) : Bool :=
  ks.length ≤ 1 || ks.all (fun k => match k with | .str _ => true | _ => false) ||
    ks.all fun k => k.number?.isSome

/-- `not b < a` on keys that have an order: whether `a` may stay before `b`. -/
def keyLe (a b : Value) : Bool :=
  match a, b with
  | .str s, .str t => s.le t
  | _, _ =>
    match a.number?, b.number? with
    | some x, some y => !y.lt x
    | _, _ => true

/-- Sort the encoded entries of a dictionary by key. -/
def sortEntries (es : List (Value × Result PyStr)) : List (Value × Result PyStr) :=
  es.insertionSort fun a b => keyLe a.1 b.1 = true

mutual

/-- `json.dumps(v, sort_keys=True, default=str)`. -/
def dumps (rt : PyRuntime) (o : JsonOptions) : Value → Result PyStr
  | .none => .ok (py "null")
  | .bool b => .ok (if b then py "true" else py "false")
  | .int n => intStr n
  | .float x => .ok (encodeFloat rt x)
  | .str s => .ok (encodeStr o.ensureAscii s)
  | .list xs => (dumpsList rt o xs).map fun ts => py "[" ++ o.itemSeparator.join ts ++ py "]"
  | .tuple xs => (dumpsList rt o xs).map fun ts => py "[" ++ o.itemSeparator.join ts ++ py "]"
  | .dict es =>
    if keysOrdered (es.map Prod.fst) then
      ((sortEntries (dumpsEntries rt o es)).mapM Prod.snd).map fun ts =>
        py "\x7b" ++ o.itemSeparator.join ts ++ py "\x7d"
    else .error ⟨.typeError, py "'<' not supported between instances of the keys"⟩
  | .bytes bs => .ok (encodeStr o.ensureAscii (rt.strOf (.bytes bs)))
  | .set xs => (Value.toStr rt (.set xs)).map (encodeStr o.ensureAscii)
  | .date d => .ok (encodeStr o.ensureAscii (rt.strOf (.date d)))
  | .datetime t => .ok (encodeStr o.ensureAscii (rt.strOf (.datetime t)))
  | .object i => .ok (encodeStr o.ensureAscii (rt.strOf (.object i)))

/-- The elements of an array, in order. -/
def dumpsList (rt : PyRuntime) (o : JsonOptions) : List Value → Result (List PyStr)
  | [] => .ok []
  | v :: vs => do
    let t ← dumps rt o v
    let ts ← dumpsList rt o vs
    return t :: ts

/-- The entries of an object in insertion order, each with its key or with what
encoding it raises. -/
def dumpsEntries (rt : PyRuntime) (o : JsonOptions) :
    List (Value × Value) → List (Value × Result PyStr)
  | [] => []
  | (k, v) :: es =>
    (k, do
      let key ← keyText rt k
      let t ← dumps rt o v
      return encodeStr o.ensureAscii key ++ o.keySeparator ++ t) :: dumpsEntries rt o es

end

end Json

end AgentSentinel
