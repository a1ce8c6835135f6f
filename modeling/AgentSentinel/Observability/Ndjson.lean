import AgentSentinel.Observability.SiemExporter
import AgentSentinel.Utils.CanonicalFallback

/-!
# AgentSentinel.Observability.Ndjson

What the transports of the exporter send: a line of JSON for each record. `json.dumps` escapes
everything outside printable ASCII, line breaks included, so that a reader finds the lines again
wherever the batches begin and end, and the records in them.

A character above the basic plane is written as the two units of UTF-16. A reader can tell them
from two characters of their own only because valid text has no such characters.
-/

namespace AgentSentinel

open Lib

/-! ### Letters of a line -/

/-- The text has printable letters of ASCII only. -/
def printableStr (s : PyStr) : Bool := s.all fun c => 0x20 ≤ c && c < 0x7F

theorem printableStr_append (s t : PyStr) :
    printableStr (s ++ t) = (printableStr s && printableStr t) := List.all_append

theorem printableStr_unicodeEscape (n : ℕ) : printableStr (Json.unicodeEscape n) = true := by
  have hdigit : ∀ m < 16, printableStr [Json.hexDigit m] = true := by decide
  have hhead : printableStr (py "\\u") = true := by decide
  have hfour (a b c d : CodePoint) : printableStr [a, b, c, d] =
      (printableStr [a] && printableStr [b] && printableStr [c] && printableStr [d]) := by
    rw [← printableStr_append, ← printableStr_append, ← printableStr_append]
    rfl
  rw [Json.unicodeEscape, printableStr_append, hhead, hfour, hdigit _ (Nat.mod_lt _ (by decide)),
    hdigit _ (Nat.mod_lt _ (by decide)), hdigit _ (Nat.mod_lt _ (by decide)),
    hdigit _ (Nat.mod_lt _ (by decide))]
  rfl

/-- A character is written with printable letters. -/
theorem printableStr_escapeChar (c : CodePoint) :
    printableStr (Json.escapeChar true c) = true := by
  unfold Json.escapeChar
  split_ifs with h1 h2 h3 h4 h5 h6 h7 h8 h9 h10
  · decide
  · decide
  · decide
  · decide
  · decide
  · decide
  · decide
  · exact printableStr_unicodeEscape _
  · exact printableStr_unicodeEscape _
  · rw [printableStr_append, printableStr_unicodeEscape, printableStr_unicodeEscape]
    rfl
  · have hlow : 0x20 ≤ c := not_lt.mp h8
    have hhigh : c < 0x7F := not_le.mp fun hhigh => h9 ⟨rfl, hhigh⟩
    simp [printableStr, hlow, hhigh]

theorem printableStr_word {s : PyStr} (h : ∀ c ∈ s, isWordChar c = true) :
    printableStr s = true := by
  refine List.all_eq_true.mpr fun c hc => ?_
  have hword := h c hc
  simp only [isWordChar, isNumberChar, Bool.or_eq_true, Bool.and_eq_true, decide_eq_true_eq,
    beq_iff_eq, Fin.le_def, Fin.ext_iff, Fin.lt_def] at hword ⊢
  have hlow : (0x20 : CodePoint).val = 0x20 := rfl
  have hhigh : (0x7F : CodePoint).val = 0x7F := rfl
  omega

theorem printableStr_quoted (s : PyStr) :
    printableStr (JsonTree.quoted (Json.escapeChar true) s) = true := by
  have hquote : printableStr (py "\"") = true := by decide
  have hchars : printableStr (s.flatMap (Json.escapeChar true)) = true := by
    rw [printableStr, List.all_flatMap]
    exact List.all_eq_true.mpr fun c _ => printableStr_escapeChar c
  rw [JsonTree.quoted, printableStr_append, printableStr_append, hquote, hchars]
  rfl

theorem printableStr_join {us : List PyStr} (h : ∀ u ∈ us, printableStr u = true) :
    printableStr (PyStr.join (py ",") us) = true := by
  cases us with
  | nil => rfl
  | cons u us =>
      have hcons (v : PyStr) : printableStr (0x2C :: v) = printableStr v := by
        simp [printableStr]
      rw [join_cons, printableStr_append, h u List.mem_cons_self, Bool.true_and, printableStr,
        List.all_flatMap]
      refine List.all_eq_true.mpr fun v hv => ?_
      exact (hcons v).trans (h v (List.mem_cons_of_mem _ hv))

/-- The text of a tree has printable letters only. -/
theorem JsonTree.printableStr_text (t : JsonTree JsonWord) :
    printableStr (t.text (Json.escapeChar true)) = true := by
  have hbracket : printableStr (py "[") = true ∧ printableStr (py "]") = true ∧
      printableStr (py "\x7b") = true ∧ printableStr (py "\x7d") = true ∧
      printableStr (py ":") = true := by
    decide
  obtain ⟨h1, h2, h3, h4, h5⟩ := hbracket
  induction t with
  | scalar w => exact printableStr_word w.word
  | str s => exact printableStr_quoted s
  | arr ts ih =>
      have hall : ∀ u ∈ ts.map (text (Json.escapeChar true)), printableStr u = true := by
        intro u hu
        obtain ⟨t, ht, rfl⟩ := List.mem_map.mp hu
        exact ih t ht
      rw [text, textList_eq, printableStr_append, printableStr_append, h1, h2,
        printableStr_join hall]
      rfl
  | obj es ih =>
      have hall : ∀ u ∈ es.map (entryText (Json.escapeChar true)), printableStr u = true := by
        intro u hu
        obtain ⟨e, he, rfl⟩ := List.mem_map.mp hu
        rw [entryText, printableStr_append, printableStr_append, printableStr_quoted, h5, ih e he]
        rfl
      rw [text, textEntries_eq, printableStr_append, printableStr_append, h3, h4,
        printableStr_join hall]
      rfl

/-! ### Characters as units of UTF-16 -/

/-- The units of a character, as characters of their own. -/
def utf16 (c : CodePoint) : PyStr :=
  if c < 0x10000 then [c]
  else [Fin.ofNat 0x110000 (0xD800 + (c.val - 0x10000) / 1024),
    Fin.ofNat 0x110000 (0xDC00 + (c.val - 0x10000) % 1024)]

/-- How a unit is written. What is no unit stands for itself. -/
def escapeUnit (c : CodePoint) : PyStr :=
  if c < 0x10000 then Json.escapeChar true c else [c]

/-- A character outside printable ASCII is escaped by its number, or by those of its units. -/
theorem escapeChar_of_high {c : CodePoint} (hlow : 0x7F ≤ c.val) : Json.escapeChar true c =
    if c < 0x10000 then Json.unicodeEscape c.val
    else Json.unicodeEscape (0xD800 + (c.val - 0x10000) / 1024) ++
      Json.unicodeEscape (0xDC00 + (c.val - 0x10000) % 1024) := by
  have hne {d : CodePoint} (hd : d.val < 0x7F) : c ≠ d := fun h => by
    rw [h] at hlow
    omega
  have hprint : ¬ c < 0x20 := not_lt.mpr (Fin.le_def.mpr (le_trans (by decide) hlow))
  unfold Json.escapeChar
  rw [if_neg (hne (by decide)), if_neg (hne (by decide)), if_neg (hne (by decide)),
    if_neg (hne (by decide)), if_neg (hne (by decide)), if_neg (hne (by decide)),
    if_neg (hne (by decide)), if_neg hprint, if_pos ⟨rfl, Fin.le_def.mpr hlow⟩]

theorem reads_escapeUnit : Reads readChar escapeUnit := by
  intro c rest
  unfold escapeUnit
  split
  · next hunit =>
      by_cases hlow : c.val < 0x7F
      · have hsame : Json.escapeChar true c = Json.escapeChar false c := by
          have hascii : ¬ (0x7F : CodePoint) ≤ c := not_le.mpr (Fin.lt_def.mpr hlow)
          simp [Json.escapeChar, hascii]
        rw [hsame]
        exact reads_escapeChar c rest
      · have hhigh : c.val < 0x10000 := Fin.lt_def.mp hunit
        rw [escapeChar_of_high (not_lt.mp hlow), if_pos hunit, readEscape_unicode hhigh]
        simp
  · next hunit =>
      have hne {d : CodePoint} (hd : d < 0x10000) : c ≠ d := fun h => hunit (h ▸ hd)
      have hquote : c ≠ 0x22 := hne (by decide)
      have hbackslash : c ≠ 0x5C := hne (by decide)
      simp [readChar, hquote, hbackslash]

theorem escapeChar_eq (c : CodePoint) :
    Json.escapeChar true c = (utf16 c).flatMap escapeUnit := by
  unfold utf16
  split
  · next hunit => simp [escapeUnit, hunit]
  · next hunit =>
      have hlow : 0x10000 ≤ c.val := not_lt.mp hunit
      have hhigh : c.val < 0x110000 := c.isLt
      have hescape {n : ℕ} (hn : 0xD800 ≤ n) (hn' : n < 0xE000) :
          escapeUnit (Fin.ofNat 0x110000 n) = Json.unicodeEscape n := by
        have hval : (Fin.ofNat 0x110000 n).val = n := Nat.mod_eq_of_lt (by omega)
        have hunit' : Fin.ofNat 0x110000 n < (0x10000 : CodePoint) := by
          rw [Fin.lt_def, hval]
          exact (by omega : n < 0x10000)
        rw [escapeUnit, if_pos hunit', escapeChar_of_high (by omega), if_pos hunit', hval]
      rw [List.flatMap_cons, List.flatMap_singleton, hescape (by omega) (by omega),
        hescape (by omega) (by omega), escapeChar_of_high (by omega), if_neg hunit]

/-- Units of a character that is no surrogate, in front of others, tell the character. -/
theorem utf16_append_inj {c d : CodePoint} (hc : isSurrogate c = false)
    (hd : isSurrogate d = false) {s t : PyStr} (h : utf16 c ++ s = utf16 d ++ t) :
    c = d ∧ s = t := by
  simp only [isSurrogate, decide_eq_false_iff_not, not_and, not_le] at hc hd
  have hlead {a b : CodePoint} (hb : ¬ b < 0x10000)
      (heq : a = Fin.ofNat 0x110000 (0xD800 + (b.val - 0x10000) / 1024)) :
      0xD800 ≤ a.val ∧ a.val ≤ 0xDFFF := by
    have hlow : 0x10000 ≤ b.val := not_lt.mp hb
    have hhigh : b.val < 0x110000 := b.isLt
    have hval : a.val = 0xD800 + (b.val - 0x10000) / 1024 := by
      rw [heq]
      exact Nat.mod_eq_of_lt (by omega)
    omega
  unfold utf16 at h
  split at h
  · split at h
    · simpa using h
    · next hunit =>
        have heq := (List.cons.inj h).1
        have := hlead hunit heq
        omega
  · next hunit =>
      split at h
      · have heq := (List.cons.inj h).1
        have := hlead hunit heq.symm
        omega
      · next hunit' =>
          obtain ⟨hhead, htail⟩ := List.cons.inj h
          obtain ⟨hsecond, hrest⟩ := List.cons.inj htail
          have hlow : 0x10000 ≤ c.val := not_lt.mp hunit
          have hlow' : 0x10000 ≤ d.val := not_lt.mp hunit'
          have hhigh : c.val < 0x110000 := c.isLt
          have hhigh' : d.val < 0x110000 := d.isLt
          have hval {m n : ℕ} (hm : m < 0x110000) (hn : n < 0x110000)
              (heq : Fin.ofNat 0x110000 m = Fin.ofNat 0x110000 n) : m = n := by
            have := congrArg Fin.val heq
            rwa [Fin.val_ofNat, Fin.val_ofNat, Nat.mod_eq_of_lt hm, Nat.mod_eq_of_lt hn] at this
          have hfirst := hval (by omega) (by omega) hhead
          have hlast := hval (by omega) (by omega) hsecond
          exact ⟨Fin.ext (by omega), hrest⟩

/-- Without surrogates the units tell the characters. -/
theorem flatMap_utf16_inj {s t : PyStr} (hs : plainStr s = true) (ht : plainStr t = true)
    (h : s.flatMap utf16 = t.flatMap utf16) : s = t := by
  have hne (c : CodePoint) : utf16 c ≠ [] := by
    unfold utf16
    split <;> exact List.cons_ne_nil _ _
  induction s generalizing t with
  | nil =>
      cases t with
      | nil => rfl
      | cons d t => exact absurd (List.append_eq_nil_iff.mp h.symm).1 (hne d)
  | cons c s ih =>
      cases t with
      | nil => exact absurd (List.append_eq_nil_iff.mp h).1 (hne c)
      | cons d t =>
          simp only [plainStr, List.any_cons, Bool.not_eq_true', Bool.or_eq_false_iff] at hs ht
          rw [List.flatMap_cons, List.flatMap_cons] at h
          obtain ⟨rfl, hrest⟩ := utf16_append_inj hs.1 ht.1 h
          rw [ih (by simp [plainStr, hs.2]) (by simp [plainStr, ht.2]) hrest]

namespace JsonTree

variable {σ : Type}

mutual

/-- The tree with every string in units. -/
def units : JsonTree σ → JsonTree σ
  | scalar a => scalar a
  | str s => str (s.flatMap utf16)
  | arr ts => arr (unitsList ts)
  | obj es => obj (unitsEntries es)

def unitsList : List (JsonTree σ) → List (JsonTree σ)
  | [] => []
  | t :: ts => units t :: unitsList ts

def unitsEntries : List (PyStr × JsonTree σ) → List (PyStr × JsonTree σ)
  | [] => []
  | (k, t) :: es => (k.flatMap utf16, units t) :: unitsEntries es

end

theorem unitsList_eq (ts : List (JsonTree σ)) : unitsList ts = ts.map units := by
  induction ts with
  | nil => rfl
  | cons t ts ih => rw [unitsList, ih, List.map_cons]

theorem unitsEntries_eq (es : List (PyStr × JsonTree σ)) :
    unitsEntries es = es.map fun e => (e.1.flatMap utf16, e.2.units) := by
  induction es with
  | nil => rfl
  | cons e es ih => rw [unitsEntries, ih, List.map_cons]

theorem quoted_units (s : PyStr) :
    quoted (Json.escapeChar true) s = quoted escapeUnit (s.flatMap utf16) := by
  have hchars : s.flatMap (Json.escapeChar true) = (s.flatMap utf16).flatMap escapeUnit := by
    rw [List.flatMap_assoc]
    exact List.flatMap_congr fun c _ => escapeChar_eq c
  rw [quoted, quoted, hchars]

/-- What is written of a tree is what is written of its units. -/
theorem text_units (t : JsonTree JsonWord) :
    t.text (Json.escapeChar true) = t.units.text escapeUnit := by
  induction t with
  | scalar w => rfl
  | str s => exact quoted_units s
  | arr ts ih =>
      rw [units, unitsList_eq, text, text, textList_eq, textList_eq, List.map_map,
        List.map_congr_left ih]
      rfl
  | obj es ih =>
      rw [units, unitsEntries_eq, text, text, textEntries_eq, textEntries_eq, List.map_map,
        List.map_congr_left fun e he => ?_]
      simp only [Function.comp_apply, entryText, quoted_units, ih e he]

/-- Trees without surrogates are told by their units. -/
theorem units_inj {t t' : JsonTree σ} (ht : t.plain = true) (ht' : t'.plain = true)
    (h : t.units = t'.units) : t = t' := by
  induction t generalizing t' with
  | scalar a =>
      cases t' with
      | scalar b => exact h
      | _ => simp [units] at h
  | str s =>
      cases t' with
      | str s' =>
          simp only [units, str.injEq] at h ⊢
          exact flatMap_utf16_inj ht ht' h
      | _ => simp [units] at h
  | arr ts ih =>
      cases t' with
      | arr ts' =>
          simp only [units, unitsList_eq, arr.injEq] at h ⊢
          rw [plain, plainList_eq, List.all_eq_true] at ht ht'
          exact eq_of_map_eq_map
            (fun t hmem t' hmem' heq => ih t hmem (ht t hmem) (ht' t' hmem') heq) h
      | _ => simp [units] at h
  | obj es ih =>
      cases t' with
      | obj es' =>
          simp only [units, unitsEntries_eq, obj.injEq] at h ⊢
          rw [plain, plainEntries_eq, List.all_eq_true] at ht ht'
          refine eq_of_map_eq_map (fun e hmem e' hmem' heq => ?_) h
          obtain ⟨hkey, hvalue⟩ := Prod.mk.inj heq
          obtain ⟨hplainKey, hplain⟩ := Bool.and_eq_true_iff.mp (ht e hmem)
          obtain ⟨hplainKey', hplain'⟩ := Bool.and_eq_true_iff.mp (ht' e' hmem')
          exact Prod.ext (flatMap_utf16_inj hplainKey hplainKey' hkey)
            (ih e hmem hplain hplain' hvalue)
      | _ => simp [units] at h

/-- **A line tells its record**, if there are no surrogates in it. -/
theorem text_inj_of_plain {t t' : JsonTree JsonWord} (ht : t.plain = true)
    (ht' : t'.plain = true)
    (h : t.text (Json.escapeChar true) = t'.text (Json.escapeChar true)) : t = t' := by
  rw [text_units, text_units] at h
  exact units_inj ht ht' (eq_of_text reads_escapeUnit reads_escapeUnit h)

/-- There is something on a line. -/
theorem text_ne_nil (t : JsonTree JsonWord) : t.text (Json.escapeChar true) ≠ [] := by
  obtain ⟨c, hc, -⟩ := text_head (Json.escapeChar true) t
  intro hnil
  rw [hnil] at hc
  cases hc

end JsonTree

/-! ### The transports -/

/-- The dump of an audit record in JSON mode, its scalars as they are printed. -/
abbrev RecordDump := JsonTree JsonWord

/-- `json.dumps(..., separators=(",", ":"))`. -/
def recordLine (record : RecordDump) : PyStr := record.text (Json.escapeChar true)

/-- `"\n"`. -/
def lineBreak : CodePoint := 0x0A

/-- What `StdoutTransport` writes of a batch. -/
def stdoutSend (batch : List PyStr) : PyStr := batch.flatMap fun line => line ++ [lineBreak]

/-- The body that `HTTPTransport` posts for a batch. -/
def httpPayload (batch : List PyStr) : Result PyBytes :=
  encodeUtf8 (PyStr.join [lineBreak] batch)

theorem lineBreak_notMem {s : PyStr} (h : printableStr s = true) : lineBreak ∉ s := by
  intro hmem
  exact absurd (List.all_eq_true.mp h lineBreak hmem) (by decide)

theorem plainStr_of_printable {s : PyStr} (h : printableStr s = true) : plainStr s = true := by
  rw [plainStr, Bool.not_eq_true', List.any_eq_false]
  intro c hc
  have hprint := List.all_eq_true.mp h c hc
  simp only [Bool.and_eq_true, decide_eq_true_eq, Fin.lt_def] at hprint
  have hhigh : (0x7F : CodePoint).val = 0x7F := rfl
  simp only [isSurrogate, decide_eq_true_eq, not_and, not_le]
  omega

/-- Whatever is printed line by line is read line by line. -/
theorem splitOn_stdoutSend {batch : List PyStr} (h : ∀ line ∈ batch, lineBreak ∉ line) :
    (stdoutSend batch).splitOn lineBreak = batch ++ [[]] := by
  have hbreaks (batch : List PyStr) :
      (batch ++ [[]]).flatMap (lineBreak :: ·) = lineBreak :: stdoutSend batch := by
    induction batch with
    | nil => rfl
    | cons line batch ih =>
        rw [List.cons_append, List.flatMap_cons, ih]
        simp [stdoutSend]
  have hjoin : stdoutSend batch = [lineBreak].intercalate (batch ++ [[]]) := by
    cases batch with
    | nil => rfl
    | cons line batch =>
        rw [List.cons_append, intercalate_cons, hbreaks]
        simp [stdoutSend]
  rw [hjoin]
  refine List.splitOn_intercalate lineBreak (fun line hline => ?_) (by simp)
  rcases List.mem_append.mp hline with hline | hline
  · exact h line hline
  · rw [List.mem_singleton.mp hline]
    exact List.not_mem_nil

variable {batch batch' : List PyStr} {bytes : PyBytes}

/-- A batch of printable lines is posted. -/
theorem httpPayload_returns (h : ∀ line ∈ batch, printableStr line = true) :
    httpPayload batch = .ok (utf8 (PyStr.join [lineBreak] batch)) := by
  refine encodeUtf8_eq_ok_iff.mpr ⟨?_, rfl⟩
  have hbreak : plainStr [lineBreak] = true := by decide
  cases batch with
  | nil => rfl
  | cons line batch =>
      rw [PyStr.join, intercalate_cons, plainStr_append,
        plainStr_of_printable (h line List.mem_cons_self), Bool.true_and, plainStr,
        Bool.not_eq_true', List.any_flatMap, List.any_eq_false]
      intro rest hrest
      have hplain : plainStr ([lineBreak] ++ rest) = true := by
        rw [plainStr_append, hbreak, plainStr_of_printable (h rest (List.mem_cons_of_mem _ hrest))]
        rfl
      simpa [plainStr] using hplain

/-- **A body tells its batch.** -/
theorem httpPayload_inj (h : ∀ line ∈ batch, lineBreak ∉ line ∧ line ≠ [])
    (h' : ∀ line ∈ batch', lineBreak ∉ line ∧ line ≠ []) (hbatch : httpPayload batch = .ok bytes)
    (hbatch' : httpPayload batch' = .ok bytes) : batch = batch' := by
  have hjoin : PyStr.join [lineBreak] batch = PyStr.join [lineBreak] batch' :=
    utf8_injective ((encodeUtf8_eq_ok_iff.mp hbatch).2.symm.trans
      (encodeUtf8_eq_ok_iff.mp hbatch').2)
  have hsplit {lines : List PyStr} (hlines : ∀ line ∈ lines, lineBreak ∉ line ∧ line ≠ []) :
      ((PyStr.join [lineBreak] lines).splitOn lineBreak).filter (· ≠ []) = lines := by
    cases lines with
    | nil => decide
    | cons line lines =>
        rw [PyStr.join, List.splitOn_intercalate lineBreak (fun l hl => (hlines l hl).1)
          (List.cons_ne_nil _ _), List.filter_eq_self]
        exact fun l hl => decide_eq_true (hlines l hl).2
  rw [← hsplit h, hjoin, hsplit h']

theorem recordLines_inj {records records' : List RecordDump}
    (h : ∀ r ∈ records, r.plain = true) (h' : ∀ r ∈ records', r.plain = true)
    (heq : records.map recordLine = records'.map recordLine) : records = records' :=
  eq_of_map_eq_map
    (fun r hr r' hr' htext => JsonTree.text_inj_of_plain (h r hr) (h' r' hr') htext) heq

namespace SiemWorld

variable {cfg : SiemConfig} {w : SiemWorld cfg} {es : List SiemEvent}
  {records : List RecordDump}

/-- The call sends these records: its body is posted, and nothing else than these records can
be read from it, as long as no string has a lone surrogate in it. -/
def Carries (s : SendCall) (sent : List RecordDump) : Prop :=
  s.batch = sent.map recordLine ∧ ∃ bytes, httpPayload s.batch = .ok bytes ∧
    ((∀ r ∈ sent, r.plain = true) → ∀ read : List RecordDump, (∀ r ∈ read, r.plain = true) →
      httpPayload (read.map recordLine) = .ok bytes → read = sent)

theorem carries_of_batch {s : SendCall} {sent : List RecordDump}
    (hbatch : s.batch = sent.map recordLine) : Carries s sent := by
  have hlines (read : List RecordDump) :
      ∀ line ∈ read.map recordLine, printableStr line = true ∧ line ≠ [] := by
    intro line hline
    obtain ⟨r, -, rfl⟩ := List.mem_map.mp hline
    exact ⟨r.printableStr_text, r.text_ne_nil⟩
  refine ⟨hbatch, _, httpPayload_returns fun line hline => ?_,
    fun hplain read hread hpayload => ?_⟩
  · rw [hbatch] at hline
    exact (hlines sent line hline).1
  · have hsame := httpPayload_inj (fun line hline => ⟨lineBreak_notMem (hlines read line hline).1,
      (hlines read line hline).2⟩) (fun line hline => ⟨lineBreak_notMem (hlines sent line hline).1,
      (hlines sent line hline).2⟩) hpayload
      (hbatch ▸ httpPayload_returns fun line hline => (hlines sent line (hbatch ▸ hline)).1)
    exact recordLines_inj hread hplain hsame

/-- Batches that make up the lines of records are the lines of parts of the records. -/
theorem parts_of_batches {sends : List SendCall} {sent : List RecordDump}
    (h : sends.flatMap SendCall.batch = sent.map recordLine) :
    ∃ parts : List (List RecordDump), parts.flatten = sent ∧
      List.Forall₂ (fun s part => s.batch = part.map recordLine) sends parts := by
  induction sends generalizing sent with
  | nil =>
      have hnone : sent = [] := List.map_eq_nil_iff.mp h.symm
      exact ⟨[], hnone.symm, .nil⟩
  | cons s sends ih =>
      rw [List.flatMap_cons] at h
      obtain ⟨part, rest, rfl, hpart, hrest⟩ := List.map_eq_append_iff.mp h.symm
      obtain ⟨parts, rfl, hparts⟩ := ih hrest.symm
      exact ⟨part :: parts, rfl, .cons hpart.symm hparts⟩

/-- **The export can be read.** If records were enqueued, then the sends carry some of them, in
their order, and so does the standard output, line by line. -/
theorem export_readable (h : (runs cfg).Run es w)
    (hlines : enqueued es = records.map recordLine) :
    ∃ parts : List (List RecordDump), parts.flatten.Sublist records ∧
      List.Forall₂ Carries w.sends parts ∧
      (stdoutSend (w.sends.flatMap SendCall.batch)).splitOn lineBreak =
        parts.flatten.map recordLine ++ [[]] := by
  obtain ⟨hledger, -, hadded, -⟩ := run_spec h
  have htaken : (w.sends.flatMap SendCall.batch).Sublist (records.map recordLine) := by
    rw [hledger.handed, ← hlines, ← hadded]
    exact (List.sublist_append_left _ _).trans w.outbox.ordered
  obtain ⟨sent, hsent, hbatches⟩ := List.sublist_map_iff.mp htaken
  obtain ⟨parts, rfl, hparts⟩ := parts_of_batches hbatches
  refine ⟨parts, hsent, hparts.imp fun _ _ hbatch => carries_of_batch hbatch, ?_⟩
  rw [hbatches]
  refine splitOn_stdoutSend fun line hline => ?_
  obtain ⟨r, -, rfl⟩ := List.mem_map.mp hline
  exact lineBreak_notMem r.printableStr_text

/-- A record with a line break in it. -/
def twoLines : RecordDump := .obj [(py "summary", .str (py "first\nsecond"))]

theorem export_readable_twoLines : ∃ w : SiemWorld {}, ∃ parts : List (List RecordDump),
    parts.flatten.Sublist [twoLines] ∧ List.Forall₂ Carries w.sends parts ∧
      (stdoutSend (w.sends.flatMap SendCall.batch)).splitOn lineBreak =
        parts.flatten.map recordLine ++ [[]] := by
  obtain ⟨w, hrun⟩ : ∃ w : SiemWorld {},
      (runs {}).Run [.enqueue (recordLine twoLines), .start, .begin 0, .wake 0] w :=
    run_of_events rfl
  exact ⟨w, export_readable hrun rfl⟩

end SiemWorld

end AgentSentinel
