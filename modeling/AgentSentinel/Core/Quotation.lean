import AgentSentinel.Dlp.Secrets

/-!
# AgentSentinel.Core.Quotation

What the strings of a risk factor show of a secret. A factor is fixed wording around
texts it quotes. Three kinds of wording set a quotation off: one that opens it, one that
closes it, and a leading word that no secret continues. Factors whose quotations are set
off in these ways show a secret exactly when one of the quoted texts does (`Quote`).
-/

namespace AgentSentinel

open Lib

/-! ### Wording around a quotation -/

/-- Wording that ends in a separator, or in one and a space. -/
def opening (a : PyStr) : Bool :=
  harmless a &&
    match a.reverse with
    | c :: d :: _ => isSeparator c || (c == 0x20 && isSeparator d)
    | _ => false

/-- Wording that begins with a separator. -/
def closing (b : PyStr) : Bool :=
  harmless b &&
    match b with
    | c :: _ => isSeparator c
    | [] => false

/-- Wording that ends in a space and has no character a secret with a space begins
with. -/
def leading (a : PyStr) : Bool :=
  harmless a && a.getLast? == some 0x20 && a.all fun c => !opener c

namespace SecretLike

variable {s a b x y : PyStr}

theorem ne_nil (hs : SecretLike s) : s ≠ [] := by
  rintro rfl
  cases hs.long

/-- A secret does not occur in harmless wording. -/
theorem not_infix (hs : SecretLike s) (ha : harmless a = true) : ¬ s <:+: a :=
  fun h => not_marked_of_harmless ha (hs.marked.of_infix h)

/-- Nothing is lost of a text quoted after a leading word, and nothing gained. -/
theorem infix_leading (hs : SecretLike s) (ha : leading a = true) :
    s <:+: a ++ x ↔ s <:+: x := by
  simp only [leading, Bool.and_eq_true, beq_iff_eq, List.all_eq_true] at ha
  obtain ⟨⟨hharm, hlast⟩, hall⟩ := ha
  constructor
  · intro h
    rcases infix_append_cases h with ha | hx | ⟨u, v, rfl, hu, -, hua, -⟩
    · exact absurd ha (hs.not_infix hharm)
    · exact hx
    · obtain ⟨before, rfl⟩ := hua
      rw [List.getLast?_append_of_ne_nil _ hu] at hlast
      have hspace : 0x20 ∈ u ++ v := List.mem_append_left _ (List.mem_of_getLast? hlast)
      obtain ⟨c, u, rfl⟩ := List.exists_cons_of_ne_nil hu
      have hopener := hs.opens hspace c rfl
      have hno := hall c (List.mem_append_right _ List.mem_cons_self)
      rw [hopener] at hno
      cases hno
  · intro h
    exact List.infix_append_of_infix_right h

/-- Nothing is lost of a text quoted after an opening, and nothing gained. -/
theorem infix_opening (hs : SecretLike s) (ha : opening a = true) :
    s <:+: a ++ x ↔ s <:+: x := by
  simp only [opening, Bool.and_eq_true] at ha
  obtain ⟨hharm, hends⟩ := ha
  have hno := hs.not_infix hharm
  split at hends
  case h_2 => cases hends
  case h_1 c d rest hrev =>
      have ha : a = rest.reverse ++ [d] ++ [c] := by
        rw [← List.reverse_reverse a, hrev]
        simp
      subst ha
      rcases Bool.or_eq_true_iff.mp hends with hc | hspace
      · rw [List.append_assoc, List.singleton_append,
          infix_separator (hs.plain c hc), or_iff_right]
        exact fun h => hno (List.infix_append_of_infix_left h)
      · obtain ⟨hc, hd⟩ := Bool.and_eq_true_iff.mp hspace
        obtain rfl := eq_of_beq hc
        rw [List.append_assoc, List.append_assoc, List.singleton_append, List.singleton_append,
          infix_separator (hs.plain d hd)]
        have hblank : s <:+: [0x20] ++ x ↔ s <:+: x := hs.infix_leading (by decide)
        rw [List.singleton_append] at hblank
        rw [hblank, or_iff_right]
        exact fun h =>
          hno (List.infix_append_of_infix_left (List.infix_append_of_infix_left h))

/-- The same before a closing. -/
theorem infix_closing (hs : SecretLike s) (hb : closing b = true) :
    s <:+: x ++ b ↔ s <:+: x := by
  simp only [closing, Bool.and_eq_true] at hb
  obtain ⟨hharm, hends⟩ := hb
  split at hends
  case h_2 => cases hends
  case h_1 c rest =>
      rw [infix_separator (hs.plain c hends), or_iff_left]
      exact fun h => hs.not_infix hharm (List.infix_cons h)

/-- Between two quotations. -/
theorem infix_between (hs : SecretLike s) (hclosing : closing a = true)
    (hopening : opening a = true) : s <:+: x ++ a ++ y ↔ s <:+: x ∨ s <:+: y := by
  simp only [closing, Bool.and_eq_true] at hclosing
  obtain ⟨-, hends⟩ := hclosing
  have hy := hs.infix_opening hopening (x := y)
  split at hends
  case h_2 => cases hends
  case h_1 c rest =>
      have hc := hs.plain c hends
      have hrest : s <:+: rest ++ y ↔ s <:+: c :: rest ++ y := by
        have hboth := infix_separator (a := []) (b := rest ++ y) hc
        rw [List.nil_append, List.infix_nil, or_iff_right hs.ne_nil] at hboth
        exact hboth.symm
      rw [List.append_assoc, List.cons_append, infix_separator hc, hrest, hy]

/-- A name that stands after a leading word and before `afterName`. -/
theorem infix_name (hs : SecretLike s) (ha : leading a = true) :
    s <:+: a ++ x ++ afterName ↔ s <:+: x := by
  rw [List.append_assoc, hs.infix_leading ha]
  constructor
  · intro h
    rcases infix_append_cases h with hx | hafter | ⟨u, v, rfl, -, hv, -, hvb⟩
    · exact hx
    · exact absurd hafter (hs.not_infix (by rw [afterName, py_ofList]; decide))
    · exact absurd (hs.closes v (List.suffix_append u v) hvb) hv
  · intro h
    exact List.infix_append_of_infix_left h

end SecretLike

/-! ### Factors -/

/-- The strings of a factor besides its code and its detector. -/
def RiskFactor.body (f : RiskFactor) : List PyStr :=
  f.message :: f.evidence.entries.flatMap fun e => [e.1, e.2]

/-- The strings of a risk factor. -/
def RiskFactor.texts (f : RiskFactor) : List PyStr := [f.code, f.detector] ++ f.body

/-- A factor's code and detector as the remediation names them. -/
def factorLabel (code detector : PyStr) : PyStr :=
  py "Top risk factor: " ++ code ++ py " (" ++ detector

/-- The factors are harmless wording around the texts `qs`: their labels show nothing,
and of secrets their bodies show what `qs` does. -/
structure Quote (fs : List RiskFactor) (qs : List PyStr) : Prop where
  label : ∀ f ∈ fs, harmless (factorLabel f.code f.detector) = true
  body : ∀ {s : PyStr}, SecretLike s → (Occurs s (fs.flatMap RiskFactor.body) ↔ Occurs s qs)

namespace Quote

variable {fs gs : List RiskFactor} {qs rs : List PyStr}

theorem nil : Quote [] [] where
  label := by simp
  body _ := Iff.rfl

theorem append (hf : Quote fs qs) (hg : Quote gs rs) : Quote (fs ++ gs) (qs ++ rs) where
  label f h := (List.mem_append.mp h).elim (hf.label f) (hg.label f)
  body hs := by
    rw [List.flatMap_append, occurs_append, occurs_append, hf.body hs, hg.body hs]

/-- One factor. -/
theorem single {f : RiskFactor} (hlabel : harmless (factorLabel f.code f.detector) = true)
    (hbody : ∀ {s}, SecretLike s → (Occurs s f.body ↔ Occurs s qs)) : Quote [f] qs where
  label := by simpa using hlabel
  body hs := by
    rw [List.flatMap_singleton]
    exact hbody hs

/-- One factor that had to be constructed. -/
theorem of_make {code : PyStr} {severity : ℚ} {detector message : PyStr}
    {evidence : PyDict PyStr} {f : RiskFactor}
    (h : RiskFactor.make code severity detector message evidence = .ok f)
    (hlabel : harmless (factorLabel code detector) = true)
    (hbody : ∀ {s}, SecretLike s →
      (s <:+: message ∨ Occurs s (evidence.entries.flatMap fun e => [e.1, e.2]) ↔
        Occurs s qs)) :
    Quote [f] qs := by
  obtain ⟨unit, rfl⟩ := RiskFactor.eq_of_make h
  exact single hlabel fun hs => occurs_cons.trans (hbody hs)

/-- A check that makes one factor under a condition quotes what that factor quotes. -/
theorem of_if {p : Prop} [Decidable p] {x : Result RiskFactor} {fs : List RiskFactor}
    (h : (if p then do let f ← x; return [f] else return []) = .ok fs)
    (hone : ∀ f, x = .ok f → Quote [f] qs) : Quote fs (if p then qs else []) := by
  split at h
  case isTrue hp =>
      obtain ⟨f, hf, hfs⟩ := bind_eq_ok.mp h
      obtain rfl := Except.ok.inj hfs
      rw [if_pos hp]
      exact hone f hf
  case isFalse hp =>
      obtain rfl := Except.ok.inj h
      rw [if_neg hp]
      exact nil

end Quote

end AgentSentinel
