import AgentSentinel.Dlp.Scanner

/-!
# AgentSentinel.Dlp.Secrets

What the matches of the default rules look like. Texts that quote an input put words
and punctuation around it, and `SecretLike` is what keeps a match from reaching over
the edge of such a quotation: no punctuation inside, a mark that ordinary wording
lacks, and first and last characters that do not continue it.

The card numbers are the one rule where the order in which the matcher tries its ways
counts. The separators after a digit are lazy, so they are taken only where the rest
does not match without them, and after the last digit it always does.
-/

namespace AgentSentinel

open Lib

/-- Punctuation none of the rules matches. -/
def separators : PyStr := py "'()*:,/"

def isSeparator (c : CodePoint) : Bool := separators.any (· == c)

/-- The text has what one of the rules asks for: an at sign, a capital K, more than
eight digits, or the word before a bearer token and something as long as a token. -/
def Marked (t : PyStr) : Prop :=
  0x40 ∈ t ∨ 0x4B ∈ t ∨ 8 < t.countP isDigit ∨
    (py "bearer" <:+: t.map foldCase ∧ hasRun DLPRule.tokenChar 20 t = true)

/-- A check for texts in ASCII that are not marked. -/
def harmless (t : PyStr) : Bool :=
  (t.all fun c => decide (c < 0x80) && c != 0x40 && c != 0x4B) &&
    decide (t.countP isDecimal ≤ 8) &&
    !(PyStr.contains (t.map foldCase) (py "bearer") && hasRun DLPRule.tokenChar 20 t)

/-- The characters a match with a space in it begins with. -/
def opener (c : CodePoint) : Bool := c == 0x2D || foldCase c == 0x62 || isDigit c

/-- What may follow a quoted name without a quotation mark. -/
def afterName : PyStr := py " lacks capability "

/-- The shape of what the rules detect. -/
structure SecretLike (s : PyStr) : Prop where
  long : 8 < s.length
  plain : ∀ c, isSeparator c = true → c ∉ s
  marked : Marked s
  opens : 0x20 ∈ s → ∀ c ∈ s.head?, opener c = true
  closes : ∀ w, w <:+ s → w <+: afterName → w = []

theorem Marked.of_infix {s t : PyStr} (hs : Marked s) (h : s <:+: t) : Marked t := by
  rcases hs with hat | hk | hdigits | ⟨hbearer, hrun⟩
  · exact Or.inl (h.subset hat)
  · exact Or.inr (Or.inl (h.subset hk))
  · exact Or.inr (Or.inr (Or.inl (hdigits.trans_le (h.sublist.countP_le))))
  · exact Or.inr (Or.inr (Or.inr ⟨hbearer.trans (h.map foldCase), hasRun_of_infix h hrun⟩))

theorem not_marked_of_harmless {t : PyStr} (h : harmless t = true) : ¬ Marked t := by
  simp only [harmless, Bool.and_eq_true, List.all_eq_true, decide_eq_true_eq, bne_iff_ne,
    Bool.not_eq_true', Bool.and_eq_false_iff] at h
  obtain ⟨⟨hchars, hdigits⟩, hbearer⟩ := h
  have hcount : t.countP isDigit = t.countP isDecimal :=
    List.countP_congr fun c hc => by rw [isDigit_of_ascii (hchars c hc).1.1]
  rintro (hat | hk | hmany | ⟨hword, hrun⟩)
  · exact (hchars _ hat).1.2 rfl
  · exact (hchars _ hk).2 rfl
  · omega
  · rcases hbearer with hno | hno
    · rw [PyStr.contains_iff.mpr hword] at hno
      cases hno
    · rw [hrun] at hno
      cases hno

/-! ### Ends -/

/-- A word that begins `afterName` begins with its space. -/
theorem space_mem_of_begins {w : PyStr} (hw : w <+: afterName) (hne : w ≠ []) : 0x20 ∈ w := by
  rcases List.prefix_cons_iff.mp hw with rfl | ⟨t, rfl, -⟩
  · exact absurd rfl hne
  · exact List.mem_cons_self

theorem closes_of_not_mem {s : PyStr} (hs : 0x20 ∉ s) {w : PyStr} (hsuffix : w <:+ s)
    (hbegin : w <+: afterName) : w = [] := by
  by_contra hne
  exact hs (hsuffix.subset (space_mem_of_begins hbegin hne))

/-- A text whose last character `afterName` does not have. -/
theorem closes_of_getLast {s : PyStr} {c : CodePoint} (hs : s.getLast? = some c)
    (hc : c ∉ afterName) {w : PyStr} (hsuffix : w <:+ s) (hbegin : w <+: afterName) :
    w = [] := by
  by_contra hne
  obtain ⟨before, rfl⟩ := hsuffix
  rw [List.getLast?_append_of_ne_nil _ hne] at hs
  exact hc (hbegin.subset (List.mem_of_getLast? hs))

theorem isDigit_afterName : (afterName.all fun c => !isDigit c) = true := by decide +kernel

/-- A text that ends in enough characters other than the space. -/
theorem closes_of_tail {front token : PyStr} (hlong : afterName.length ≤ token.length)
    (hspace : 0x20 ∉ token) {w : PyStr} (hsuffix : w <:+ front ++ token)
    (hbegin : w <+: afterName) : w = [] := by
  have hle : w.length ≤ token.length := hbegin.length_le.trans hlong
  exact closes_of_not_mem hspace
    (List.suffix_of_suffix_length_le hsuffix (List.suffix_append front token) hle) hbegin

/-! ### Card numbers end in a digit -/

namespace DLPRule

variable {db : CharacterData}

/-- What follows the digits of a card number. -/
abbrev afterCard (db : CharacterData) : Pattern.Cont CodePoint :=
  fun prev text => (Re.boundary db).first prev text Pattern.done

theorem afterCard_eq {prev : Option CodePoint} {text w : PyStr}
    (h : afterCard db prev text = some w) : w = [] := by
  simp only [afterCard, Re.boundary, Pattern.first, Pattern.done] at h
  split at h
  · exact (Option.some.inj h).symm
  · cases h

/-- A digit stands before a boundary where a separator follows. -/
theorem afterCard_of_separator {c d : CodePoint} {text : PyStr} (hc : isDigit c = true)
    (hd : oneOfChars " -" d = true) : (afterCard db (some c) (d :: text)).isSome := by
  have hword : db.word d = false := by
    obtain ⟨e, he, hed⟩ := List.any_eq_true.mp hd
    obtain rfl := eq_of_beq hed
    have hcases : e = 0x20 ∨ e = 0x2D := by
      rwa [show py " -" = [0x20, 0x2D] by decide, List.mem_pair] at he
    rcases hcases with rfl | rfl
    · exact db.word_ascii _ (by decide)
    · exact db.word_ascii _ (by decide)
  simp [afterCard, Re.boundary, Pattern.first, db.word_of_isDigit c hc, hword, Pattern.done]

/-- What a card number's rounds consume, in their first digit and the rest. -/
theorem cardDigit_cases {prev : Option CodePoint} {text w : PyStr} {k : Pattern.Cont CodePoint}
    (h : cardDigit.first prev text k = some w) :
    ∃ c rest seps v after, text = c :: rest ∧ isDigit c = true ∧ w = c :: (seps ++ v) ∧
      rest = seps ++ after ∧ k (Pattern.lastOf (some c) seps) after = some v ∧
      (seps = [] ∨ ((∀ d ∈ seps, oneOfChars " -" d = true) ∧ k (some c) rest = none)) := by
  cases text with
  | nil => cases h
  | cons c rest =>
      simp only [cardDigit, Pattern.first] at h
      split at h
      case isFalse => cases h
      case isTrue hc =>
          obtain ⟨w, hw, rfl⟩ := Option.map_eq_some_iff.mp h
          cases hstop : k (some c) rest with
          | some v =>
              rw [← Pattern.first, Pattern.first_lazy hstop] at hw
              obtain rfl := Option.some.inj hw
              exact ⟨c, rest, [], v, rest, rfl, hc, rfl, rfl, hstop, Or.inl rfl⟩
          | none =>
              rw [← Pattern.first] at hw
              obtain ⟨seps, hseps, v, after, rfl, rfl, hv⟩ := Pattern.exists_of_first hw
              exact ⟨c, _, seps, v, after, rfl, hc, rfl, rfl, hv,
                Or.inr ⟨(Pattern.mem_rep_char hseps).2, hstop⟩⟩

/-- By induction on the rounds: what they match is empty or ends in a digit. A round
that took separators before the boundary would have found the boundary without them. -/
theorem getLast_of_cardRounds {fuel lo : ℕ} {hi : Option ℕ} {prev : Option CodePoint}
    {text w : PyStr}
    (h : Pattern.rounds cardDigit.first false (afterCard db) fuel lo hi prev text = some w) :
    (w = [] ∧ lo = 0) ∨ ∃ c, w.getLast? = some c ∧ isDigit c = true := by
  induction fuel generalizing lo hi prev text w with
  | zero =>
      rcases Pattern.rounds_cases h with ⟨hlo, hstop⟩ | ⟨fuel', hfuel, -⟩
      · exact Or.inl ⟨afterCard_eq hstop, hlo⟩
      · omega
  | succ fuel ih =>
      rcases Pattern.rounds_cases h with ⟨hlo, hstop⟩ | ⟨fuel', hfuel, -, hagain⟩
      · exact Or.inl ⟨afterCard_eq hstop, hlo⟩
      · obtain rfl := Nat.succ.inj hfuel
        obtain ⟨c, rest, seps, v, after, rfl, hc, rfl, rfl, hv, hseps⟩ := cardDigit_cases hagain
        right
        split at hv
        case isFalse => cases hv
        case isTrue =>
            rcases ih hv with ⟨rfl, hlo⟩ | ⟨d, hlast, hd⟩
            · cases seps with
              | nil => exact ⟨c, rfl, hc⟩
              | cons d seps =>
                  -- Here the rounds could stop, and did not at the digit itself.
                  rcases hseps with hnil | ⟨hsep, hnone⟩
                  · cases hnil
                  · have hstop : (afterCard db (some c) (d :: (seps ++ after))).isSome :=
                      afterCard_of_separator hc (hsep d List.mem_cons_self)
                    rw [hlo, if_pos (by simp), List.cons_append] at hnone
                    have hsome : (Pattern.rounds cardDigit.first false (afterCard db) fuel 0
                        (hi.map (· - 1)) (some c) (d :: (seps ++ after))).isSome :=
                      Pattern.rounds_isSome hstop
                    rw [hnone] at hsome
                    cases hsome
            · refine ⟨d, ?_, hd⟩
              have hne : v ≠ [] := by
                rintro rfl
                cases hlast
              rw [← List.cons_append, List.getLast?_append_of_ne_nil _ hne, hlast]

/-- **A detected card number ends in a digit.** -/
theorem getLast_of_creditCard {text s : PyStr}
    (h : (creditCardPattern db).search text = some s) :
    s = [] ∨ ∃ c, s.getLast? = some c ∧ isDigit c = true := by
  obtain ⟨before, after, -, hfirst⟩ := Pattern.exists_of_searchFrom h
  simp only [creditCardPattern, Re.boundary, Pattern.first] at hfirst
  split at hfirst
  case isFalse => cases hfirst
  case isTrue => exact (getLast_of_cardRounds hfirst).imp_left And.left

/-! ### The rules -/

theorem countP_isDigit_of_all {w : PyStr} (hw : ∀ c ∈ w, isDigit c = true) :
    w.countP isDigit = w.length :=
  List.countP_eq_length.mpr hw

theorem marked_of_awsAccessKey {s : PyStr} (hs : s ∈ (awsAccessKeyPattern db).language) :
    Marked s := by
  obtain ⟨_, -, _, h₁, rfl⟩ := Language.mem_mul.mp hs
  obtain ⟨u, hu, v, -, rfl⟩ := Language.mem_mul.mp h₁
  obtain rfl := Re.mem_text hu
  right; left
  exact List.mem_append_right _ (List.mem_append_left _ (by decide))

theorem privateKey_eq {s : PyStr} (hs : s ∈ privateKeyPattern.language) :
    ∃ v, s = py "-----BEGIN " ++ (v ++ py "PRIVATE KEY-----") := by
  obtain ⟨u, hu, _, h₁, rfl⟩ := Language.mem_mul.mp hs
  obtain ⟨v, -, w, hw, rfl⟩ := Language.mem_mul.mp h₁
  obtain rfl := Re.mem_text hu
  obtain rfl := Re.mem_text hw
  exact ⟨v, rfl⟩

/-- A bearer token: the word, what is between, and at least twenty characters without
white space. -/
theorem bearerToken_eq {s : PyStr} (hs : s ∈ (bearerTokenPattern db).language) :
    ∃ word gap token, s = word ++ (gap ++ token) ∧ word.map foldCase = py "bearer" ∧
      20 ≤ token.length ∧ ∀ c ∈ token, tokenChar c = true := by
  obtain ⟨_, hb, _, h₁, rfl⟩ := Language.mem_mul.mp hs
  obtain ⟨word, hword, _, h₂, rfl⟩ := Language.mem_mul.mp h₁
  obtain ⟨gap, -, _, h₃, rfl⟩ := Language.mem_mul.mp h₂
  obtain ⟨token, htoken, _, hb', rfl⟩ := Language.mem_mul.mp h₃
  obtain rfl := (Language.mem_one _).mp hb
  obtain rfl := (Language.mem_one _).mp hb'
  obtain ⟨hlen, hall⟩ := Pattern.mem_rep_char htoken
  exact ⟨word, gap, token, by simp, Re.map_foldCase_of_mem_textCI hword, hlen, hall⟩

theorem marked_of_email {s : PyStr} (hs : s ∈ emailPattern.language) : Marked s := by
  obtain ⟨_, -, _, h₁, rfl⟩ := Language.mem_mul.mp hs
  obtain ⟨u, hu, v, -, rfl⟩ := Language.mem_mul.mp h₁
  obtain rfl := Re.mem_text hu
  left
  exact List.mem_append_right _ (List.mem_append_left _ (by decide))

/-- A card number begins with a digit and has at least thirteen of them. -/
theorem creditCard_eq {s : PyStr} (hs : s ∈ (creditCardPattern db).language) :
    13 ≤ s.countP isDigit ∧ ∀ c ∈ s.head?, isDigit c = true := by
  obtain ⟨_, hb, _, h₁, rfl⟩ := Language.mem_mul.mp hs
  obtain ⟨number, ⟨n, hn, -, hpow⟩, _, hb', rfl⟩ := Language.mem_mul.mp h₁
  obtain rfl := (Language.mem_one _).mp hb
  obtain rfl := (Language.mem_one _).mp hb'
  rw [List.nil_append, List.append_nil]
  constructor
  · refine hn.trans (Pattern.le_of_mem_pow (fun u v => List.countP_append) (fun u hu => ?_) hpow)
    obtain ⟨_, ⟨c, hc, rfl⟩, seps, -, rfl⟩ := Language.mem_mul.mp hu
    simp [hc]
  · obtain ⟨m, rfl⟩ : ∃ m, n = m + 1 := ⟨n - 1, by omega⟩
    rw [pow_succ'] at hpow
    obtain ⟨u, hu, v, -, rfl⟩ := Language.mem_mul.mp hpow
    obtain ⟨_, ⟨c, hc, rfl⟩, seps, -, rfl⟩ := Language.mem_mul.mp hu
    intro d hd
    obtain rfl := Option.some.inj hd
    exact hc

theorem countP_of_usSsn {s : PyStr} (hs : s ∈ (usSsnPattern db).language) :
    8 < s.countP isDigit := by
  obtain ⟨_, -, _, h₁, rfl⟩ := Language.mem_mul.mp hs
  obtain ⟨area, harea, _, h₂, rfl⟩ := Language.mem_mul.mp h₁
  obtain ⟨_, -, _, h₃, rfl⟩ := Language.mem_mul.mp h₂
  obtain ⟨group, hgroup, _, h₄, rfl⟩ := Language.mem_mul.mp h₃
  obtain ⟨_, -, _, h₅, rfl⟩ := Language.mem_mul.mp h₄
  obtain ⟨serial, hserial, _, -, rfl⟩ := Language.mem_mul.mp h₅
  obtain ⟨hlen, hall⟩ := Pattern.mem_rep_char harea
  obtain ⟨hlen', hall'⟩ := Pattern.mem_rep_char hgroup
  obtain ⟨hlen'', hall''⟩ := Pattern.mem_rep_char hserial
  simp only [List.countP_append, countP_isDigit_of_all hall, countP_isDigit_of_all hall',
    countP_isDigit_of_all hall'']
  omega

end DLPRule

/-- No rule matches a separator. -/
theorem allows_separators (db : CharacterData) : ((defaultRules db).all fun rule =>
    separators.all fun c => !rule.pattern.allows c) = true := rfl

/-- A match without a space. -/
theorem SecretLike.of_spaceless {s : PyStr} (hlong : 8 < s.length)
    (hplain : ∀ c, isSeparator c = true → c ∉ s) (hmarked : Marked s) (hspace : 0x20 ∉ s) :
    SecretLike s where
  long := hlong
  plain := hplain
  marked := hmarked
  opens h := absurd h hspace
  closes _ := closes_of_not_mem hspace

/-- **What the default rules detect is secret-like**, if it is longer than eight
characters. -/
theorem secretLike_of_search {db : CharacterData} {rule : DLPRule}
    (hrule : rule ∈ defaultRules db) {text s : PyStr} (h : rule.pattern.search text = some s)
    (hlong : 8 < s.length) : SecretLike s := by
  have hs := Pattern.mem_language_of_search h
  -- No rule allows a separator anywhere; the marks and the edges are each rule's own.
  have hplain : ∀ c, isSeparator c = true → c ∉ s := by
    intro c hseparator
    obtain ⟨d, hc, hd⟩ := List.any_eq_true.mp hseparator
    obtain rfl := eq_of_beq hd
    have hall := List.all_eq_true.mp (List.all_eq_true.mp (allows_separators db) rule hrule) d hc
    exact Pattern.not_mem_of_allows hs (by simpa using hall)
  simp only [defaultRules, List.mem_cons, List.not_mem_nil, or_false] at hrule
  rcases hrule with rfl | rfl | rfl | rfl | rfl | rfl
  · exact .of_spaceless hlong hplain (DLPRule.marked_of_awsAccessKey hs)
      (Pattern.not_mem_of_allows hs rfl)
  · obtain ⟨v, rfl⟩ := DLPRule.privateKey_eq hs
    refine ⟨hlong, hplain, Or.inr (Or.inl ?_), fun _ c hc => ?_, fun w => ?_⟩
    · exact List.mem_append_right _ (List.mem_append_right _ (by decide))
    · obtain rfl := Option.some.inj hc
      decide
    · refine closes_of_getLast (c := 0x2D) ?_ (by decide)
      rw [← List.append_assoc, List.getLast?_append_of_ne_nil _ (by decide)]
      decide
  · obtain ⟨word, gap, token, rfl, hword, hlen, hall⟩ := DLPRule.bearerToken_eq hs
    refine ⟨hlong, hplain, Or.inr (Or.inr (Or.inr ?_)), fun _ c hc => ?_, fun w => ?_⟩
    · constructor
      · rw [List.map_append, hword]
        exact List.infix_append_left
      · refine hasRun_iff.mpr ⟨token, ?_, hlen, hall⟩
        exact (List.suffix_append gap token).isInfix.trans (List.suffix_append _ _).isInfix
    · cases word with
      | nil => cases hword
      | cons d word =>
          obtain rfl := Option.some.inj hc
          have hd : foldCase d = 0x62 := List.head_eq_of_cons_eq hword
          simp [opener, hd]
    · rw [← List.append_assoc]
      refine closes_of_tail (hlen.trans' (by decide)) fun hspace => ?_
      exact absurd (hall _ hspace) (by decide)
  · exact .of_spaceless hlong hplain (DLPRule.marked_of_email hs)
      (Pattern.not_mem_of_allows hs rfl)
  · obtain ⟨hcount, hhead⟩ := DLPRule.creditCard_eq hs
    refine ⟨hlong, hplain, Or.inr (Or.inr (Or.inl (by omega))), fun _ c hc => ?_, fun w => ?_⟩
    · simp [opener, hhead c hc]
    · rcases DLPRule.getLast_of_creditCard h with rfl | ⟨c, hlast, hc⟩
      · cases hlong
      · refine closes_of_getLast hlast fun hmem => ?_
        have hletter := List.all_eq_true.mp isDigit_afterName c hmem
        rw [hc] at hletter
        cases hletter
  · exact .of_spaceless hlong hplain (Or.inr (Or.inr (Or.inl (DLPRule.countP_of_usSsn hs))))
      (Pattern.not_mem_of_allows hs rfl)

end AgentSentinel
