import AgentSentinel.Gateway.McpValidators
import AgentSentinel.Lib.Occurrence
import AgentSentinel.Lib.PercentCoding
import AgentSentinel.Python.JsonTree

/-!
# AgentSentinel.Gateway.ResourceTraversal

Which parent segments of a resource the traversal check sees. A parent segment is one of two
dots in the path after percent-decoding, between slashes or backslashes. The check looks for
fixed patterns in the path as it is written, and in the path of one of the two resources an
invocation can name.

The patterns have the two dots of a parent segment both plain before a plain separator or
after an escaped slash, or both escaped. Every other spelling of a parent segment goes
unseen, unless something else in the path is suspicious.
-/

namespace AgentSentinel

open Lib

/-! ### Parent segments -/

/-- What the two digits of an escape stand for. Octets outside ASCII, which are decoded
together, stand for themselves here; no segment of dots contains one. -/
def hexPair (a b : CodePoint) : Option CodePoint :=
  (hexValue a).bind fun m => (hexValue b).map fun n => Fin.ofNat 0x110000 (16 * m + n)

/-- The characters of a path, each with the text that spells it. -/
def pathSpellings (path : PyStr) : List (Spelling CodePoint) := spellings 0x25 hexPair path

/-- A slash or a backslash. -/
def isPathSeparator (c : CodePoint) : Bool := c == 0x2F || c == 0x5C

theorem separator_cases {c : CodePoint} (h : isPathSeparator c = true) : c = 0x2F ∨ c = 0x5C := by
  simpa [isPathSeparator] using h

/-- The segments of a path after one round of percent-decoding. -/
def pathSegments (path : PyStr) : List PyStr :=
  (percentDecode 0x25 hexPair path).splitOnP isPathSeparator

/-- Two dots in a path that are a segment of it, with the spellings of what is around them. -/
structure ParentAt (path : PyStr) (before : List (Spelling CodePoint))
    (first second : Spelling CodePoint) (after : List (Spelling CodePoint)) : Prop where
  spelled : pathSpellings path = before ++ first :: second :: after
  first_dot : first.char = 0x2E
  second_dot : second.char = 0x2E
  before_separator : ∀ u ∈ before.getLast?, isPathSeparator u.char = true
  after_separator : ∀ u ∈ after.head?, isPathSeparator u.char = true

/-- A segment of two dots is spelled somewhere in the path. -/
theorem parent_mem_pathSegments_iff {path : PyStr} : [0x2E, 0x2E] ∈ pathSegments path ↔
    ∃ before first second after, ParentAt path before first second after := by
  have hdots : ∀ c ∈ [(0x2E : CodePoint), 0x2E], isPathSeparator c = false :=
    List.forall_mem_cons.mpr ⟨rfl, List.forall_mem_singleton.mpr rfl⟩
  rw [pathSegments, mem_splitOnP_iff, and_iff_right hdots]
  constructor
  · intro h
    obtain ⟨before, after, hdecode, hbefore, hafter⟩ := h
    obtain ⟨us, vs, hspelled, hus, rfl⟩ := List.map_eq_append_iff.mp hdecode
    obtain ⟨ws, ds, rfl, rfl, hds⟩ := List.map_eq_append_iff.mp hus
    obtain ⟨first, rest, rfl, hfirst, hrest⟩ := List.map_eq_cons_iff.mp hds
    obtain ⟨second, none, rfl, hsecond, hnone⟩ := List.map_eq_cons_iff.mp hrest
    obtain rfl := List.map_eq_nil_iff.mp hnone
    refine ⟨ws, first, second, vs, ?_, hfirst, hsecond, fun u hu => ?_, fun u hu => ?_⟩
    · rw [pathSpellings, hspelled]
      simp
    · refine hbefore u.char ?_
      rw [List.getLast?_map, Option.mem_def.mp hu]
      rfl
    · refine hafter u.char ?_
      rw [List.head?_map, Option.mem_def.mp hu]
      rfl
  · intro h
    obtain ⟨before, first, second, after, h⟩ := h
    refine ⟨before.map Spelling.char, after.map Spelling.char, ?_, fun c hc => ?_, fun c hc => ?_⟩
    · have hspelled := congrArg (List.map Spelling.char) h.spelled
      rw [percentDecode]
      simpa [pathSpellings, h.first_dot, h.second_dot] using hspelled
    · rw [List.getLast?_map] at hc
      obtain ⟨u, hu, rfl⟩ := Option.mem_map.mp hc
      exact h.before_separator u hu
    · rw [List.head?_map] at hc
      obtain ⟨u, hu, rfl⟩ := Option.mem_map.mp hc
      exact h.after_separator u hu

/-! ### What the patterns see -/

/-- A hexadecimal digit in lower case. -/
theorem lower_hexValue {c : CodePoint} {n : ℕ} (h : hexValue c = some n) :
    n < 16 ∧ lowerAscii [c] = [Json.hexDigit n] := by
  have hval : (c.val = n + 0x30 ∧ n < 10) ∨
      ((c.val = n + 0x57 ∨ c.val = n + 0x37) ∧ 10 ≤ n ∧ n < 16) := by
    unfold hexValue at h
    split at h
    · next hc =>
        have hlow : 0x30 ≤ c.val := hc.1
        have hhigh : c.val ≤ 0x39 := hc.2
        have hn := Option.some.inj h
        omega
    · split at h
      · next hc =>
          have hlow : 0x61 ≤ c.val := hc.1
          have hhigh : c.val ≤ 0x66 := hc.2
          have hn := Option.some.inj h
          omega
      · obtain ⟨hc, hn⟩ := Option.ite_none_right_eq_some.mp h
        have hlow : 0x41 ≤ c.val := hc.1
        have hhigh : c.val ≤ 0x46 := hc.2
        have hn := Option.some.inj hn
        omega
  refine ⟨by omega, ?_⟩
  have hupper : (0x41 ≤ c ∧ c ≤ 0x5A) ↔ 0x41 ≤ c.val ∧ c.val ≤ 0x5A := Iff.rfl
  simp only [lowerAscii, List.map_cons, List.map_nil, List.cons.injEq, and_true, Json.hexDigit,
    hupper]
  apply Fin.ext
  split_ifs <;> simp [Fin.ofNat] <;> omega

/-- An escape in lower case. -/
theorem lower_escape {u : Spelling CodePoint} (h : u.Escaped 0x25 hexPair) :
    lowerAscii u.text =
      [0x25, Json.hexDigit (u.char.val / 16), Json.hexDigit (u.char.val % 16)] := by
  obtain ⟨a, b, htext, hpair⟩ := h
  obtain ⟨m, hm, hrest⟩ := Option.bind_eq_some_iff.mp hpair
  obtain ⟨n, hn, hchar⟩ := Option.map_eq_some_iff.mp hrest
  obtain ⟨hm16, hma⟩ := lower_hexValue hm
  obtain ⟨hn16, hnb⟩ := lower_hexValue hn
  have hval : u.char.val = 16 * m + n := by
    rw [← hchar]
    exact Nat.mod_eq_of_lt (by omega)
  have hsplit : lowerAscii [0x25, a, b] = 0x25 :: (lowerAscii [a] ++ lowerAscii [b]) := rfl
  have hhigh : (16 * m + n) / 16 = m := by omega
  have hlow : (16 * m + n) % 16 = n := by omega
  rw [htext, hsplit, hma, hnb, hval, hhigh, hlow, List.singleton_append]

theorem lower_dot {u : Spelling CodePoint} (h : u.Escaped 0x25 hexPair) (hchar : u.char = 0x2E) :
    lowerAscii u.text = py "%2e" := by
  rw [lower_escape h, hchar]
  decide

theorem lower_slash {u : Spelling CodePoint} (h : u.Escaped 0x25 hexPair) (hchar : u.char = 0x2F) :
    lowerAscii u.text = py "%2f" := by
  rw [lower_escape h, hchar]
  decide

namespace McpInvocation

/-- The path has one of the patterns in it, in whatever case. -/
def Suspicious (path : PyStr) : Prop := ∃ pattern ∈ suspicious, pattern <:+: lowerAscii path

theorem suspicious_iff {path : PyStr} :
    suspicious.any (lowerAscii path).contains = true ↔ Suspicious path := by
  simp [Suspicious]

/-- What is spelled in a path is there as it is written. -/
theorem infix_of_spelled {path : PyStr} {before us after : List (Spelling CodePoint)}
    (h : pathSpellings path = before ++ us ++ after) :
    lowerAscii (us.flatMap Spelling.text) <:+: lowerAscii path := by
  have htext : path = (before ++ us ++ after).flatMap Spelling.text := by
    rw [← h, pathSpellings, flatMap_text_spellings]
  rw [htext, lowerAscii, lowerAscii, List.flatMap_append, List.flatMap_append]
  exact (List.infix_append _ _ _).map _

/-- **A parent segment that is not seen** has one of its dots escaped and the other plain, or
both plain, with an escaped separator or the end of the path after them and no escaped slash
before them. -/
theorem spelling_of_not_suspicious {path : PyStr} {before after : List (Spelling CodePoint)}
    {first second : Spelling CodePoint} (h : ParentAt path before first second after)
    (hnot : ¬ Suspicious path) :
    (first.Plain ∧ second.Escaped 0x25 hexPair) ∨ (first.Escaped 0x25 hexPair ∧ second.Plain) ∨
      (first.Plain ∧ second.Plain ∧ (∀ u ∈ after.head?, u.Escaped 0x25 hexPair) ∧
        ∀ u ∈ before.getLast?, u.Escaped 0x25 hexPair → u.char ≠ 0x2F) := by
  have hform : ∀ u, u ∈ before ++ first :: second :: after → u.Plain ∨ u.Escaped 0x25 hexPair :=
    fun u hu => plain_or_escaped (s := path) (by rwa [← pathSpellings, h.spelled])
  have hunseen : ∀ {us vs ws : List (Spelling CodePoint)} {p : PyStr},
      pathSpellings path = us ++ vs ++ ws → lowerAscii (vs.flatMap Spelling.text) = p →
        p ∉ suspicious := by
    intro us vs ws p hspelled hpattern hmem
    exact hnot ⟨p, hmem, hpattern ▸ infix_of_spelled hspelled⟩
  rcases hform first (by simp) with hfirst | hfirst
  · rcases hform second (by simp) with hsecond | hsecond
    · have hone : first.text = [0x2E] := hfirst.trans (by rw [h.first_dot])
      have htwo : second.text = [0x2E] := hsecond.trans (by rw [h.second_dot])
      refine Or.inr (Or.inr ⟨hfirst, hsecond, fun u hu => ?_, fun u hu hescaped hslash => ?_⟩)
      · cases after with
        | nil => cases hu
        | cons v after =>
            obtain rfl := Option.some.inj hu
            refine (hform v (by simp)).resolve_left fun hplain => ?_
            have hspelled : pathSpellings path = before ++ [first, second, v] ++ after := by
              simp [h.spelled]
            have htext : [first, second, v].flatMap Spelling.text = [0x2E, 0x2E, v.char] := by
              simp [hone, htwo, show v.text = [v.char] from hplain]
            rcases separator_cases (h.after_separator v rfl) with hchar | hchar
            · exact hunseen hspelled (by rw [htext, hchar]) (by decide)
            · exact hunseen hspelled (by rw [htext, hchar]) (by decide)
      · obtain ⟨init, rfl⟩ := List.getLast?_eq_some_iff.mp hu
        have hspelled : pathSpellings path = init ++ [u, first, second] ++ after := by
          simp [h.spelled]
        refine hunseen hspelled (p := py "%2f..") ?_ (by decide)
        have htext : [u, first, second].flatMap Spelling.text = u.text ++ [0x2E, 0x2E] := by
          simp [hone, htwo]
        rw [htext, lowerAscii, List.map_append, ← lowerAscii, lower_slash hescaped hslash]
        decide
    · exact Or.inl ⟨hfirst, hsecond⟩
  · rcases hform second (by simp) with hsecond | hsecond
    · exact Or.inr (Or.inl ⟨hfirst, hsecond⟩)
    -- Two escaped dots are one of the patterns.
    · have hspelled : pathSpellings path = before ++ [first, second] ++ after := by
        simp [h.spelled]
      have htext : [first, second].flatMap Spelling.text = first.text ++ second.text := by simp
      refine absurd (by decide) (hunseen hspelled (p := py "%2e%2e") ?_)
      rw [htext, lowerAscii, List.map_append, ← lowerAscii, ← lowerAscii,
        lower_dot hfirst h.first_dot, lower_dot hsecond h.second_dot]
      decide

/-! ### What the check reports -/

/-- A string the invocation supplies as a resource. -/
def Supplies (invocation : McpInvocation) (uri : PyStr) : Prop :=
  invocation.resourceUri = some uri ∨ invocation.arguments.get (py "resource") = some (.str uri)

/-- The path of the URI has a parent segment. -/
def HasParent (checkNetloc : PyStr → Result Unit) (uri : PyStr) : Prop :=
  ∃ path, UrlParse.path checkNetloc uri = .ok path ∧ [0x2E, 0x2E] ∈ pathSegments path

/-- Where a supplied resource has a parent segment, a factor of severity 1 is returned. -/
def FlagsParents (checkNetloc : PyStr → Result Unit) (invocation : McpInvocation) : Prop :=
  ∀ uri, invocation.Supplies uri → HasParent checkNetloc uri →
    ∃ factors, invocation.detectResourceTraversal checkNetloc = .ok factors ∧
      ∃ f ∈ factors, f.severity.val = 1

/-- The check looks at a URI that parses, and finds one of its patterns. -/
def Recognised (checkNetloc : PyStr → Result Unit) (uri : PyStr) : Prop :=
  ∃ path, UrlParse.path checkNetloc uri = .ok path ∧
    Suspicious (if path.isEmpty then uri else path)

variable {checkNetloc : PyStr → Result Unit} {invocation : McpInvocation} {uri : PyStr}

theorem detect_of_resource (h : invocation.resource = some uri) :
    (∃ factors, invocation.detectResourceTraversal checkNetloc = .ok factors ∧
      ∃ f ∈ factors, f.severity.val = 1) ↔ Recognised checkNetloc uri := by
  simp only [detectResourceTraversal, h, bind_eq_ok, Recognised]
  constructor
  · intro hreports
    obtain ⟨factors, ⟨path, hpath, hfactors⟩, f, hf, -⟩ := hreports
    obtain rfl := Except.ok.inj hfactors
    obtain ⟨hfound, -⟩ := List.mem_ite_nil_right.mp hf
    exact ⟨path, hpath, suspicious_iff.mp hfound⟩
  · intro hrecognised
    obtain ⟨path, hpath, hfound⟩ := hrecognised
    refine ⟨_, ⟨path, hpath, rfl⟩, traversal uri, ?_, rfl⟩
    rw [if_pos (suspicious_iff.mpr hfound)]
    exact List.mem_singleton_self _

theorem detect_of_no_resource (h : invocation.resource = none) :
    ¬ ∃ factors, invocation.detectResourceTraversal checkNetloc = .ok factors ∧
      ∃ f ∈ factors, f.severity.val = 1 := by
  simp [detectResourceTraversal, h]

/-- **Every parent segment is reported** exactly where the resource that is looked at, that
of the field before that of the argument, parses and shows one of the patterns, or no
supplied resource has a parent segment. -/
theorem flagsParents_iff : FlagsParents checkNetloc invocation ↔
    ((∃ uri, invocation.Supplies uri ∧ HasParent checkNetloc uri) →
      ∃ uri, invocation.resource = some uri ∧ Recognised checkNetloc uri) := by
  have hreports : (∃ factors, invocation.detectResourceTraversal checkNetloc = .ok factors ∧
      ∃ f ∈ factors, f.severity.val = 1) ↔
        ∃ uri, invocation.resource = some uri ∧ Recognised checkNetloc uri := by
    cases h : invocation.resource with
    | none => exact iff_of_false (detect_of_no_resource h) (by simp)
    | some uri => rw [detect_of_resource h]; simp
  rw [FlagsParents, ← hreports]
  exact ⟨fun h hsome => h _ hsome.choose_spec.1 hsome.choose_spec.2,
    fun h uri hsupplies hparent => h ⟨uri, hsupplies, hparent⟩⟩

/-- A parent segment with an escaped slash after it. -/
theorem escaped_slash_missed : ¬ ∀ (checkNetloc : PyStr → Result Unit)
    (invocation : McpInvocation), FlagsParents checkNetloc invocation := by
  intro h
  have hpath : UrlParse.path (fun _ => .ok ()) (py "file:///data/..%2fsecret") =
      .ok (py "/data/..%2fsecret") := by decide
  have hparent : [0x2E, 0x2E] ∈ pathSegments (py "/data/..%2fsecret") := by decide
  obtain ⟨factors, hfactors, f, hf, -⟩ := h (fun _ => .ok ())
    ⟨py "fs.read", .empty, none, some (py "file:///data/..%2fsecret")⟩ _ (Or.inl rfl)
    ⟨_, hpath, hparent⟩
  have hnone : McpInvocation.detectResourceTraversal
      ⟨py "fs.read", .empty, none, some (py "file:///data/..%2fsecret")⟩ (fun _ => .ok ()) =
        .ok [] := rfl
  obtain rfl := Except.ok.inj (hnone.symm.trans hfactors)
  cases hf

end McpInvocation

end AgentSentinel
