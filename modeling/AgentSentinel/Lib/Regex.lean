import Mathlib.Computability.Language

/-!
# AgentSentinel.Lib.Regex

Regular expressions matched by backtracking, as the scripting languages have them.
Alternatives are tried in the order they are written, a greedy repetition tries one
more round before it stops and a lazy one stops before it tries another, so what a
search returns is not any match but the first in that order.

The matcher hands what is left to a continuation; the match that counts is the first
for which the continuation succeeds. Whatever it finds is a word of the pattern's
language (`exists_of_first`), and a lazy repetition takes no round where the
continuation already succeeds without one (`first_lazy`).
-/

namespace AgentSentinel.Lib

/-- A pattern. An assertion consumes nothing and reads the character before and the
character after. -/
inductive Pattern (α : Type*)
  | char (p : α → Bool)
  | assert (holds : Option α → Option α → Bool)
  | seq (p q : Pattern α)
  | alt (p q : Pattern α)
  | rep (lazy : Bool) (lo : ℕ) (hi : Option ℕ) (p : Pattern α)

namespace Pattern

variable {α : Type*}

/-- What has to match after a pattern: from the character before and the rest of the
text to what it consumes of it. -/
abbrev Cont (α : Type*) := Option α → List α → Option (List α)

/-- The rounds of a repetition, at most `fuel` many. A round that consumes nothing
fails, so the length of the text is fuel enough. -/
def rounds (body : Option α → List α → Cont α → Option (List α)) (lazy : Bool) (k : Cont α) :
    ℕ → ℕ → Option ℕ → Cont α
  | 0, lo, _, prev, text => if lo = 0 then k prev text else none
  | fuel + 1, lo, hi, prev, text =>
    let again :=
      if hi = some 0 then none
      else body prev text fun prev' rest =>
        if rest.length < text.length then
          rounds body lazy k fuel (lo - 1) (hi.map (· - 1)) prev' rest
        else none
    if lo ≠ 0 then again
    else if lazy then (k prev text).or again
    else again.or (k prev text)

/-- The first match of a pattern after which the continuation succeeds, with what the
continuation consumes. -/
def first : Pattern α → Option α → List α → Cont α → Option (List α)
  | char _, _, [], _ => none
  | char p, _, c :: text, k => if p c then (k (some c) text).map (c :: ·) else none
  | assert holds, prev, text, k => if holds prev text.head? then k prev text else none
  | seq p q, prev, text, k => p.first prev text fun prev' rest => q.first prev' rest k
  | alt p q, prev, text, k => (p.first prev text k).or (q.first prev text k)
  | rep lazy lo hi p, prev, text, k => rounds p.first lazy k text.length lo hi prev text

/-- The continuation of a whole pattern. -/
def done : Cont α := fun _ _ => some []

/-- The leftmost match in a text that follows the character `prev`. -/
def searchFrom (p : Pattern α) : Cont α
  | prev, [] => p.first prev [] done
  | prev, c :: text => (p.first prev (c :: text) done).or (p.searchFrom (some c) text)

/-- The leftmost match in a text. -/
def search (p : Pattern α) (text : List α) : Option (List α) := p.searchFrom none text

/-! ### Derived patterns -/

/-- `p?` -/
def opt (p : Pattern α) : Pattern α := rep false 0 (some 1) p

/-- `p*` -/
def star (p : Pattern α) : Pattern α := rep false 0 none p

/-- `p+` -/
def plus (p : Pattern α) : Pattern α := rep false 1 none p

/-- A literal text, its characters compared by `same`. -/
def lit (same : α → α → Bool) : List α → Pattern α
  | [] => assert fun _ _ => true
  | c :: s => seq (char (same c)) (lit same s)

/-- The patterns one after the other. -/
def chain : List (Pattern α) → Pattern α
  | [] => assert fun _ _ => true
  | [p] => p
  | p :: ps => seq p (chain ps)

/-- The patterns as alternatives, in this order. -/
def oneOf (p : Pattern α) : List (Pattern α) → Pattern α
  | [] => p
  | q :: qs => alt p (oneOf q qs)

/-! ### The language of a pattern -/

/-- The words a pattern matches where its assertions hold. -/
def language : Pattern α → Language α
  | char p => {w | ∃ c, p c = true ∧ w = [c]}
  | assert _ => 1
  | seq p q => p.language * q.language
  | alt p q => p.language + q.language
  | rep _ lo hi p => {w | ∃ n, lo ≤ n ∧ (∀ m ∈ hi, n ≤ m) ∧ w ∈ p.language ^ n}

/-- The character before the text that follows `u`. -/
def lastOf (prev : Option α) (u : List α) : Option α := u.foldl (fun _ c => some c) prev

theorem lastOf_append {prev : Option α} {u v : List α} :
    lastOf prev (u ++ v) = lastOf (lastOf prev u) v :=
  List.foldl_append

/-- What is consumed splits into a word of the language and what the continuation
consumes after it. -/
def Splits (L : Language α) (prev : Option α) (text : List α) (k : Cont α) (w : List α) : Prop :=
  ∃ u ∈ L, ∃ v rest, text = u ++ rest ∧ w = u ++ v ∧ k (lastOf prev u) rest = some v

theorem Splits.append {L M : Language α} {prev : Option α} {u v rest : List α} {k : Cont α}
    (hu : u ∈ L) (h : Splits M (lastOf prev u) rest k v) :
    Splits (L * M) prev (u ++ rest) k (u ++ v) := by
  obtain ⟨u', hu', v', rest', rfl, rfl, hv'⟩ := h
  refine ⟨u ++ u', Language.mem_mul.mpr ⟨u, hu, u', hu', rfl⟩, v', rest', ?_, ?_, ?_⟩
  · rw [List.append_assoc]
  · rw [List.append_assoc]
  · rw [lastOf_append, hv']

theorem splits_one {prev : Option α} {text w : List α} {k : Cont α} (h : k prev text = some w) :
    Splits 1 prev text k w :=
  ⟨[], Language.nil_mem_one, w, text, rfl, rfl, h⟩

/-- Rounds that consume something have stopped, or run the body once more. -/
theorem rounds_cases {body : Option α → List α → Cont α → Option (List α)} {lazy : Bool}
    {k : Cont α} {fuel lo : ℕ} {hi : Option ℕ} {prev : Option α} {text w : List α}
    (h : rounds body lazy k fuel lo hi prev text = some w) :
    (lo = 0 ∧ k prev text = some w) ∨
      ∃ fuel', fuel = fuel' + 1 ∧ hi ≠ some 0 ∧
        (body prev text fun prev' rest =>
          if rest.length < text.length then
            rounds body lazy k fuel' (lo - 1) (hi.map (· - 1)) prev' rest
          else none) = some w := by
  cases fuel with
  | zero =>
      unfold rounds at h
      split at h
      case isTrue hlo => exact Or.inl ⟨hlo, h⟩
      case isFalse => cases h
  | succ fuel =>
      unfold rounds at h
      by_cases hhi : hi = some 0
      · by_cases hlo : lo = 0
        · simp only [hhi, hlo, ne_eq, not_true_eq_false, if_true, if_false, Option.or_none,
            Option.none_or, ite_self] at h
          exact Or.inl ⟨hlo, h⟩
        · simp [hhi, hlo] at h
      · simp only [if_neg hhi] at h
        by_cases hlo : lo = 0
        · rw [if_neg (not_not.mpr hlo)] at h
          cases lazy with
          | false =>
              rcases Option.or_eq_some_iff.mp h with hagain | ⟨-, hstop⟩
              · exact Or.inr ⟨fuel, rfl, hhi, hagain⟩
              · exact Or.inl ⟨hlo, hstop⟩
          | true =>
              rcases Option.or_eq_some_iff.mp h with hstop | ⟨-, hagain⟩
              · exact Or.inl ⟨hlo, hstop⟩
              · exact Or.inr ⟨fuel, rfl, hhi, hagain⟩
        · rw [if_pos hlo] at h
          exact Or.inr ⟨fuel, rfl, hhi, h⟩

/-- By induction on the fuel: each round contributes one factor of the power. -/
theorem exists_of_rounds {body : Option α → List α → Cont α → Option (List α)} {L : Language α}
    (hbody : ∀ {prev text k w}, body prev text k = some w → Splits L prev text k w) {lazy : Bool}
    {k : Cont α} {fuel lo : ℕ} {hi : Option ℕ} {prev : Option α} {text w : List α}
    (h : rounds body lazy k fuel lo hi prev text = some w) :
    ∃ n, lo ≤ n ∧ (∀ m ∈ hi, n ≤ m) ∧ Splits (L ^ n) prev text k w := by
  induction fuel generalizing lo hi prev text w with
  | zero =>
      rcases rounds_cases h with ⟨hlo, hk⟩ | ⟨fuel', hfuel, -⟩
      · exact ⟨0, hlo.le, fun m _ => m.zero_le, by rw [pow_zero]; exact splits_one hk⟩
      · omega
  | succ fuel ih =>
      rcases rounds_cases h with ⟨hlo, hk⟩ | ⟨fuel', hfuel, hhi, hagain⟩
      · exact ⟨0, hlo.le, fun m _ => m.zero_le, by rw [pow_zero]; exact splits_one hk⟩
      · obtain rfl := Nat.succ.inj hfuel
        obtain ⟨u, hu, v, rest, rfl, rfl, hv⟩ := hbody hagain
        dsimp only at hv
        split at hv
        case isFalse => cases hv
        case isTrue =>
            obtain ⟨n, hlo, hle, hrest⟩ := ih hv
            refine ⟨n + 1, by omega, fun m hm => ?_, ?_⟩
            · have hpos : m ≠ 0 := by
                intro h0
                exact hhi (h0 ▸ hm)
              have hpred := hle (m - 1) (by rw [Option.mem_def.mp hm]; rfl)
              omega
            · rw [pow_succ']
              exact hrest.append hu

/-- **What the matcher consumes is a word of the pattern's language**, followed by what
the continuation consumes. -/
theorem exists_of_first {p : Pattern α} {prev : Option α} {text w : List α} {k : Cont α}
    (h : p.first prev text k = some w) : Splits p.language prev text k w := by
  induction p generalizing prev text w k with
  | char p =>
      cases text with
      | nil => cases h
      | cons c text =>
          simp only [first] at h
          split at h
          case isFalse => cases h
          case isTrue hc =>
              obtain ⟨v, hv, rfl⟩ := Option.map_eq_some_iff.mp h
              exact ⟨[c], ⟨c, hc, rfl⟩, v, text, rfl, rfl, hv⟩
  | assert holds =>
      simp only [first] at h
      split at h
      case isFalse => cases h
      case isTrue => exact splits_one h
  | seq p q ihp ihq =>
      obtain ⟨u, hu, v, rest, rfl, rfl, hv⟩ := ihp h
      exact (ihq hv).append hu
  | alt p q ihp ihq =>
      rcases Option.or_eq_some_iff.mp h with hp | ⟨-, hq⟩
      · obtain ⟨u, hu, hrest⟩ := ihp hp
        exact ⟨u, Or.inl hu, hrest⟩
      · obtain ⟨u, hu, hrest⟩ := ihq hq
        exact ⟨u, Or.inr hu, hrest⟩
  | rep lazy lo hi p ih =>
      obtain ⟨n, hlo, hhi, u, hu, hrest⟩ := exists_of_rounds (fun hb => ih hb) h
      exact ⟨u, ⟨n, hlo, hhi, hu⟩, hrest⟩

/-- A search returns what the pattern matches first at some place in the text. -/
theorem exists_of_searchFrom {p : Pattern α} {prev : Option α} {text w : List α}
    (h : p.searchFrom prev text = some w) :
    ∃ before after, text = before ++ after ∧
      p.first (lastOf prev before) after done = some w := by
  induction text generalizing prev with
  | nil => exact ⟨[], [], rfl, h⟩
  | cons c text ih =>
      rcases Option.or_eq_some_iff.mp h with hfirst | ⟨-, hlater⟩
      · exact ⟨[], c :: text, rfl, hfirst⟩
      · obtain ⟨before, after, rfl, hfirst⟩ := ih hlater
        exact ⟨c :: before, after, rfl, hfirst⟩

/-- What a search returns is a word of the pattern's language. -/
theorem mem_language_of_search {p : Pattern α} {text w : List α} (h : p.search text = some w) :
    w ∈ p.language := by
  obtain ⟨before, after, -, hfirst⟩ := exists_of_searchFrom h
  obtain ⟨u, hu, v, rest, -, rfl, hv⟩ := exists_of_first hfirst
  obtain rfl : [] = v := Option.some.inj hv
  rwa [List.append_nil]

/-- A lazy repetition that may stop at once does so where the continuation succeeds. -/
theorem first_lazy {p : Pattern α} {hi : Option ℕ} {prev : Option α} {text w : List α}
    {k : Cont α} (h : k prev text = some w) : (rep true 0 hi p).first prev text k = some w := by
  simp only [first]
  cases text.length with
  | zero => simp [rounds, h]
  | succ n => simp [rounds, h]

/-- Rounds that may stop succeed where the continuation does. -/
theorem rounds_isSome {body : Option α → List α → Cont α → Option (List α)} {lazy : Bool}
    {k : Cont α} {fuel : ℕ} {hi : Option ℕ} {prev : Option α} {text : List α}
    (h : (k prev text).isSome) : (rounds body lazy k fuel 0 hi prev text).isSome := by
  cases fuel with
  | zero => simpa [rounds] using h
  | succ fuel =>
      unfold rounds
      cases lazy with
      | false => simp [Option.isSome_or, h]
      | true => simp [Option.isSome_or, h]

/-! ### The character before -/

/-- The continuation reads of the character before only whether `f` holds of it. -/
def Cont.ReadsBefore (f : α → Bool) (k : Cont α) : Prop :=
  ∀ b b' rest, b.any f = b'.any f → k b rest = k b' rest

/-- The assertions of the pattern read of the character before only whether `f` holds of it. -/
def ReadsBefore (f : α → Bool) : Pattern α → Prop
  | char _ => True
  | assert holds => ∀ b b' after, b.any f = b'.any f → holds b after = holds b' after
  | seq p q => p.ReadsBefore f ∧ q.ReadsBefore f
  | alt p q => p.ReadsBefore f ∧ q.ReadsBefore f
  | rep _ _ _ p => p.ReadsBefore f

@[simp] theorem readsBefore_lit (f : α → Bool) (same : α → α → Bool) (s : List α) :
    (lit same s).ReadsBefore f := by
  induction s with
  | nil => exact fun _ _ _ _ => rfl
  | cons c s ih => exact ⟨trivial, ih⟩

@[simp] theorem readsBefore_chain {f : α → Bool} {ps : List (Pattern α)} :
    (chain ps).ReadsBefore f ↔ ∀ p ∈ ps, p.ReadsBefore f := by
  induction ps with
  | nil => exact iff_of_true (fun _ _ _ _ => rfl) (by simp)
  | cons p ps ih =>
      cases ps with
      | nil => simp [chain]
      | cons q ps =>
          rw [List.forall_mem_cons, ← ih]
          exact Iff.rfl

@[simp] theorem readsBefore_oneOf {f : α → Bool} {p : Pattern α} {ps : List (Pattern α)} :
    (oneOf p ps).ReadsBefore f ↔ ∀ q ∈ p :: ps, q.ReadsBefore f := by
  induction ps generalizing p with
  | nil => simp [oneOf]
  | cons q ps ih =>
      rw [List.forall_mem_cons, ← ih]
      exact Iff.rfl

theorem rounds_readsBefore {f : α → Bool} {body : Option α → List α → Cont α → Option (List α)}
    {lazy : Bool} {k : Cont α} {fuel lo : ℕ} {hi : Option ℕ}
    (hbody : ∀ {k : Cont α}, k.ReadsBefore f → Cont.ReadsBefore f fun b text => body b text k)
    (hk : k.ReadsBefore f) : Cont.ReadsBefore f (rounds body lazy k fuel lo hi) := by
  induction fuel generalizing lo hi with
  | zero =>
      intro b b' text hsame
      simp only [rounds, hk b b' text hsame]
  | succ fuel ih =>
      intro b b' text hsame
      have hrest : Cont.ReadsBefore f fun prev rest =>
          if rest.length < text.length then
            rounds body lazy k fuel (lo - 1) (hi.map (· - 1)) prev rest
          else none := by
        intro c c' rest hsame
        simp only [ih c c' rest hsame]
      have hagain := hbody hrest b b' text hsame
      simp only [rounds, hk b b' text hsame]
      simp only [hagain]

/-- What a pattern matches first does not depend on more of the character before. -/
theorem first_readsBefore {f : α → Bool} {p : Pattern α} (hp : p.ReadsBefore f) {k : Cont α}
    (hk : k.ReadsBefore f) : Cont.ReadsBefore f fun b text => p.first b text k := by
  induction p generalizing k with
  | char p =>
      intro b b' text _
      cases text <;> rfl
  | assert holds =>
      intro b b' text hsame
      simp only [first, hp b b' text.head? hsame, hk b b' text hsame]
  | seq p q ihp ihq => exact ihp hp.1 (ihq hp.2 hk)
  | alt p q ihp ihq =>
      intro b b' text hsame
      have hfirst := ihp hp.1 hk b b' text hsame
      have hsecond := ihq hp.2 hk b b' text hsame
      dsimp only at hfirst hsecond
      simp only [first, hfirst, hsecond]
  | rep lazy lo hi p ih =>
      intro b b' text hsame
      exact rounds_readsBefore (fun hk => ih hp hk) hk b b' text hsame

theorem searchFrom_readsBefore {f : α → Bool} {p : Pattern α} (hp : p.ReadsBefore f) :
    Cont.ReadsBefore f p.searchFrom := by
  have hdone : Cont.ReadsBefore f (done : Cont α) := fun _ _ _ _ => rfl
  intro b b' text hsame
  cases text with
  | nil => exact first_readsBefore hp hdone b b' [] hsame
  | cons c text =>
      have hfirst := first_readsBefore hp hdone b b' (c :: text) hsame
      dsimp only at hfirst
      rw [searchFrom, searchFrom, hfirst]

/-- A match that is found in the rest of a text is found in the text, or one before it. -/
theorem searchFrom_append_isSome {p : Pattern α} {prev : Option α} {u text : List α}
    (h : (p.searchFrom (lastOf prev u) text).isSome) : (p.searchFrom prev (u ++ text)).isSome := by
  induction u generalizing prev with
  | nil => exact h
  | cons c u ih =>
      rw [List.cons_append, searchFrom, Option.isSome_or, ih h, Bool.or_true]

/-! ### Reading words off a pattern -/

/-- The characters that occur in matches of the pattern. -/
def allows : Pattern α → α → Bool
  | char p, c => p c
  | assert _, _ => false
  | seq p q, c => p.allows c || q.allows c
  | alt p q, c => p.allows c || q.allows c
  | rep _ _ _ p, c => p.allows c

theorem allows_of_mem {p : Pattern α} {w : List α} {c : α} (hw : w ∈ p.language) (hc : c ∈ w) :
    p.allows c = true := by
  induction p generalizing w with
  | char p =>
      obtain ⟨d, hd, rfl⟩ := hw
      rwa [List.mem_singleton.mp hc]
  | assert holds =>
      obtain rfl := (Language.mem_one w).mp hw
      cases hc
  | seq p q ihp ihq =>
      obtain ⟨u, hu, v, hv, rfl⟩ := Language.mem_mul.mp hw
      simp only [allows, Bool.or_eq_true]
      exact (List.mem_append.mp hc).imp (ihp hu) (ihq hv)
  | alt p q ihp ihq =>
      simp only [allows, Bool.or_eq_true]
      exact ((Language.mem_add _ _ w).mp hw).imp (ihp · hc) (ihq · hc)
  | rep lazy lo hi p ih =>
      obtain ⟨n, -, -, hpow⟩ := hw
      obtain ⟨parts, rfl, -, hparts⟩ := Language.mem_pow.mp hpow
      obtain ⟨part, hpart, hmem⟩ := List.mem_flatten.mp hc
      exact ih (hparts part hpart) hmem

theorem not_mem_of_allows {p : Pattern α} {w : List α} {c : α} (hw : w ∈ p.language)
    (hc : p.allows c = false) : c ∉ w := by
  intro hmem
  rw [allows_of_mem hw hmem] at hc
  cases hc

/-- A measure that adds up over the parts is at least the number of parts. -/
theorem le_of_mem_pow {L : Language α} {f : List α → ℕ} (hf : ∀ u v, f (u ++ v) = f u + f v)
    (hL : ∀ u ∈ L, 1 ≤ f u) {n : ℕ} {w : List α} (hw : w ∈ L ^ n) : n ≤ f w := by
  induction n generalizing w with
  | zero => exact (f w).zero_le
  | succ n ih =>
      rw [pow_succ'] at hw
      obtain ⟨u, hu, v, hv, rfl⟩ := Language.mem_mul.mp hw
      have hfirst := hL u hu
      have hrest := ih hv
      rw [hf]
      omega

/-- A run of characters of one class. -/
theorem mem_rep_char {lazy : Bool} {lo : ℕ} {hi : Option ℕ} {p : α → Bool} {w : List α}
    (hw : w ∈ (rep lazy lo hi (char p)).language) :
    lo ≤ w.length ∧ ∀ c ∈ w, p c = true := by
  refine ⟨?_, fun c hc => allows_of_mem hw hc⟩
  obtain ⟨n, hlo, -, hpow⟩ := hw
  refine hlo.trans (le_of_mem_pow (fun u v => List.length_append) (fun u hu => ?_) hpow)
  obtain ⟨c, -, rfl⟩ := hu
  exact le_refl 1

theorem mem_lit {same : α → α → Bool} {s w : List α} :
    w ∈ (lit same s).language ↔ List.Forall₂ (fun c d => same c d = true) s w := by
  induction s generalizing w with
  | nil => exact (Language.mem_one w).trans List.forall₂_nil_left_iff.symm
  | cons c s ih =>
      rw [List.forall₂_cons_left_iff]
      constructor
      · intro h
        obtain ⟨u, ⟨d, hd, rfl⟩, v, hv, rfl⟩ := Language.mem_mul.mp h
        exact ⟨d, v, hd, ih.mp hv, rfl⟩
      · intro h
        obtain ⟨d, v, hd, hv, rfl⟩ := h
        exact Language.mem_mul.mpr ⟨[d], ⟨d, hd, rfl⟩, v, ih.mpr hv, rfl⟩

end Pattern

end AgentSentinel.Lib
