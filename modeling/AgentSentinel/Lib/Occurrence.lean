import Mathlib.Data.List.Infix

/-!
# AgentSentinel.Lib.Occurrence

Where a word occurs in texts that are put together from others. A word that occurs
in `a ++ b` lies in `a`, in `b` or across the seam between them, and a seam is closed
when a character there is none of the word's.
-/

namespace AgentSentinel.Lib

variable {α β : Type*}

/-- The word occurs in one of the texts. -/
def Occurs (s : List α) (ts : List (List α)) : Prop := ∃ t ∈ ts, s <:+: t

@[simp] theorem occurs_nil {s : List α} : ¬ Occurs s [] := by simp [Occurs]

@[simp] theorem occurs_cons {s t : List α} {ts : List (List α)} :
    Occurs s (t :: ts) ↔ s <:+: t ∨ Occurs s ts := by
  simp [Occurs]

@[simp] theorem occurs_append {s : List α} {ts us : List (List α)} :
    Occurs s (ts ++ us) ↔ Occurs s ts ∨ Occurs s us := by
  simp [Occurs, or_and_right, exists_or]

theorem occurs_flatMap {s : List α} {f : β → List (List α)} {l : List β} :
    Occurs s (l.flatMap f) ↔ ∃ x ∈ l, Occurs s (f x) := by
  simp only [Occurs, List.mem_flatMap]
  constructor
  · intro h
    obtain ⟨t, ⟨x, hx, ht⟩, hs⟩ := h
    exact ⟨x, hx, t, ht, hs⟩
  · intro h
    obtain ⟨x, hx, t, ht, hs⟩ := h
    exact ⟨t, ⟨x, hx, ht⟩, hs⟩

/-! ### Seams -/

/-- A word in a concatenation lies on one side or across the seam. -/
theorem infix_append_cases {s a b : List α} (h : s <:+: a ++ b) :
    s <:+: a ∨ s <:+: b ∨ ∃ u v, s = u ++ v ∧ u ≠ [] ∧ v ≠ [] ∧ u <:+ a ∧ v <+: b := by
  induction a with
  | nil => exact Or.inr (Or.inl h)
  | cons c a ih =>
      rcases List.infix_cons_iff.mp h with hbegin | hinfix
      · obtain ⟨rest, hrest⟩ := hbegin
        have hsplit : s ++ rest = (c :: a) ++ b := hrest
        rcases List.append_eq_append_iff.mp hsplit with ⟨more, ha, -⟩ | ⟨v, rfl, hb⟩
        · exact Or.inl ⟨[], more, ha.symm⟩
        · cases v with
          | nil => exact Or.inl ⟨[], [], by simp⟩
          | cons d v =>
              exact Or.inr (Or.inr ⟨c :: a, d :: v, rfl, by simp, by simp, List.suffix_rfl, rest,
                hb.symm⟩)
      · rcases ih hinfix with ha | hb | ⟨u, v, rfl, hu, hv, hua, hvb⟩
        · exact Or.inl (List.infix_cons ha)
        · exact Or.inr (Or.inl hb)
        · exact Or.inr (Or.inr ⟨u, v, rfl, hu, hv, hua.trans (List.suffix_cons c a), hvb⟩)

/-- A character the word does not have closes the seams on both its sides. -/
theorem infix_separator {s a b : List α} {c : α} (hc : c ∉ s) :
    s <:+: a ++ c :: b ↔ s <:+: a ∨ s <:+: b := by
  constructor
  · intro h
    rcases infix_append_cases h with ha | hb | ⟨u, v, rfl, -, hv, -, hvb⟩
    · exact Or.inl ha
    · rcases List.infix_cons_iff.mp hb with hbegin | hinfix
      · rcases List.prefix_cons_iff.mp hbegin with rfl | ⟨t, rfl, -⟩
        · exact Or.inl (List.nil_infix)
        · exact absurd List.mem_cons_self hc
      · exact Or.inr hinfix
    · rcases List.prefix_cons_iff.mp hvb with rfl | ⟨t, rfl, -⟩
      · exact absurd rfl hv
      · exact absurd (List.mem_append_right u List.mem_cons_self) hc
  · intro h
    rcases h with ha | hb
    · exact List.infix_append_of_infix_left ha
    · exact List.infix_append_of_infix_right (List.infix_cons hb)

/-- A text none of whose characters the word has closes the seam between the texts
around it. -/
theorem infix_append_of_disjoint {s a n b : List α} (hn : n ≠ []) (hs : ∀ c ∈ n, c ∉ s)
    (h : s <:+: a ++ (n ++ b)) : s <:+: a ∨ s <:+: b := by
  induction n generalizing a with
  | nil => exact absurd rfl hn
  | cons c n ih =>
      rcases (infix_separator (hs c List.mem_cons_self)).mp h with ha | hb
      · exact Or.inl ha
      · cases n with
        | nil => exact Or.inr hb
        | cons d n =>
            rcases ih (by simp) (fun e he => hs e (List.mem_cons_of_mem c he)) (a := []) hb
              with hnil | hb
            · exact Or.inl (List.infix_nil.mp hnil ▸ List.nil_infix)
            · exact Or.inr hb

/-- Joining texts adds no occurrence of a word when the separator starts with a
character the word does not have and the rest of it adds nothing before a text. -/
theorem infix_intercalate {s z : List α} {c : α} (hs : s ≠ []) (hc : c ∉ s)
    (hz : ∀ x, s <:+: z ++ x ↔ s <:+: x) {ts : List (List α)} :
    s <:+: List.intercalate (c :: z) ts ↔ Occurs s ts := by
  induction ts with
  | nil => simp [hs]
  | cons t ts ih =>
      cases ts with
      | nil => simp
      | cons u us =>
          rw [List.intercalate_cons_cons, List.append_assoc, List.cons_append, infix_separator hc,
            hz, ih]
          simp only [occurs_cons]

/-- A text occurs in every join that it is part of. -/
theorem infix_intercalate_of_mem {sep t : List α} {ts : List (List α)} (h : t ∈ ts) :
    t <:+: sep.intercalate ts := by
  induction ts with
  | nil => cases h
  | cons u us ih =>
      cases us with
      | nil =>
          obtain rfl := List.mem_singleton.mp h
          simp
      | cons v us =>
          rw [List.intercalate_cons_cons]
          rcases List.mem_cons.mp h with rfl | h
          · exact ⟨[], sep ++ sep.intercalate (v :: us), by simp⟩
          · exact (ih h).trans (List.suffix_append _ _).isInfix

/-- The pieces of a text occur in it. -/
theorem infix_of_mem_splitOn [DecidableEq α] {t piece : List α} {c : α}
    (h : piece ∈ t.splitOn c) : piece <:+: t := by
  have hjoin : [c].intercalate (t.splitOn c) = t := List.intercalate_splitOn c
  rw [← hjoin]
  exact infix_intercalate_of_mem h

/-- What is written for a stretch of a text occurs in what is written for the text. -/
theorem flatMap_infix {f : α → List β} {s t : List α} (h : s <:+: t) :
    s.flatMap f <:+: t.flatMap f := by
  obtain ⟨before, after, rfl⟩ := h
  exact ⟨before.flatMap f, after.flatMap f, by rw [List.flatMap_append, List.flatMap_append]⟩

/-! ### Pieces between separators -/

/-- The pieces of a text are the stretches without separators that lie between two of them,
or between one and an end of the text. -/
theorem mem_splitOnP_iff {p : α → Bool} {t piece : List α} : piece ∈ t.splitOnP p ↔
    (∀ c ∈ piece, p c = false) ∧ ∃ before after, t = before ++ piece ++ after ∧
      (∀ c ∈ before.getLast?, p c = true) ∧ ∀ c ∈ after.head?, p c = true := by
  constructor
  · -- Piece by piece: the first one ends at the first separator.
    induction hlength : t.length using Nat.strong_induction_on generalizing t with
    | _ n ih =>
        intro h
        have hfirst : ∀ c ∈ t.takeWhile (!p ·), p c = false := fun c hc => by
          simpa using List.all_eq_true.mp List.all_takeWhile c hc
        have hsplit : t = t.takeWhile (!p ·) ++ t.dropWhile (!p ·) :=
          List.takeWhile_append_dropWhile.symm
        generalize t.takeWhile (!p ·) = first at hfirst hsplit
        have hhead := List.head?_dropWhile_not (!p ·) t
        generalize t.dropWhile (!p ·) = rest at hsplit hhead
        subst hsplit
        cases rest with
        | nil =>
            rw [List.append_nil, List.splitOnP_eq_singleton hfirst, List.mem_singleton] at h
            subst h
            exact ⟨hfirst, [], [], by simp⟩
        | cons c rest =>
            have hc : p c = true := by simpa using hhead
            rw [List.splitOnP_append_cons_of_forall_mem hfirst c hc, List.mem_cons] at h
            rcases h with rfl | h
            · exact ⟨hfirst, [], c :: rest, by simp [hc]⟩
            · obtain ⟨hpiece, before, after, rfl, hbefore, hafter⟩ :=
                ih rest.length (by simp at hlength; omega) rfl h
              refine ⟨hpiece, first ++ c :: before, after, by simp, ?_, hafter⟩
              intro d hd
              rw [List.getLast?_append_cons] at hd
              cases before with
              | nil =>
                  obtain rfl := Option.some.inj hd
                  exact hc
              | cons e before =>
                  rw [List.getLast?_cons_cons] at hd
                  exact hbefore d hd
  · intro h
    obtain ⟨hpiece, before, after, rfl, hbefore, hafter⟩ := h
    have hmem : piece ∈ (piece ++ after).splitOnP p := by
      cases after with
      | nil => simp [List.splitOnP_eq_singleton hpiece]
      | cons c after =>
          rw [List.splitOnP_append_cons_of_forall_mem hpiece c (hafter c rfl)]
          exact List.mem_cons_self
    rcases List.eq_nil_or_concat before with rfl | ⟨init, d, rfl⟩
    · exact hmem
    · have hd : p d = true := hbefore d (by simp)
      rw [List.concat_eq_append, List.append_assoc, List.append_assoc, List.singleton_append,
        List.splitOnP_append_cons _ _ hd]
      exact List.mem_append_right _ hmem

/-! ### Runs -/

/-- The text has `n` characters of a class in a row. -/
def hasRun (p : α → Bool) (n : ℕ) (t : List α) : Bool :=
  t.tails.any fun u => decide (n ≤ (u.takeWhile p).length)

theorem hasRun_iff {p : α → Bool} {n : ℕ} {t : List α} :
    hasRun p n t = true ↔ ∃ run, run <:+: t ∧ n ≤ run.length ∧ ∀ c ∈ run, p c = true := by
  simp only [hasRun, List.any_eq_true, List.mem_tails, decide_eq_true_eq]
  constructor
  · intro h
    obtain ⟨u, hu, hn⟩ := h
    exact ⟨u.takeWhile p, (List.takeWhile_prefix p).isInfix.trans hu.isInfix, hn,
      fun c hc => List.all_eq_true.mp List.all_takeWhile c hc⟩
  · intro h
    obtain ⟨run, ⟨before, after, rfl⟩, hn, hall⟩ := h
    refine ⟨run ++ after, ⟨before, by simp⟩, ?_⟩
    rw [List.takeWhile_append_of_pos hall, List.length_append]
    omega

theorem hasRun_of_infix {p : α → Bool} {n : ℕ} {s t : List α} (h : s <:+: t)
    (hs : hasRun p n s = true) : hasRun p n t = true := by
  obtain ⟨run, hrun, hn⟩ := hasRun_iff.mp hs
  exact hasRun_iff.mpr ⟨run, hrun.trans h, hn⟩

end AgentSentinel.Lib
