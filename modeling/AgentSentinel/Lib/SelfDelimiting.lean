import Mathlib.Data.List.Basic

/-!
# AgentSentinel.Lib.SelfDelimiting

Texts that can be read in one way only. A text lays the codes of its parts one
after the other, and the parts can be told from it when every code shows by itself
where it ends. There are three ways to show it here: a reader that takes one code
off the front, a class of letters that the code is made of and that what follows
does not begin with, and lists whose items are separated and closed by letters of
their own.

A lemma compares two texts whose parts may be spelled differently, so that it also
says when texts of two writers can coincide.
-/

namespace AgentSentinel.Lib

variable {σ α : Type*}

/-! ### Codes with a reader -/

/-- `read` takes the code of every `a` off the front of any text. -/
def Reads (read : List σ → Option (α × List σ)) (code : α → List σ) : Prop :=
  ∀ a rest, read (code a ++ rest) = some (a, rest)

/-- Codes laid one after the other, up to where the reader finds no further one. -/
theorem Reads.flatMap_append_inj {read : List σ → Option (α × List σ)}
    {code code' : α → List σ} (h : Reads read code) (h' : Reads read code') {r s : List σ}
    (hr : read r = none) (hs : read s = none) {as bs : List α}
    (heq : as.flatMap code ++ r = bs.flatMap code' ++ s) : as = bs ∧ r = s := by
  induction as generalizing bs with
  | nil =>
      cases bs with
      | nil => exact ⟨rfl, heq⟩
      | cons b bs =>
          simp only [List.flatMap_nil, List.nil_append, List.flatMap_cons,
            List.append_assoc] at heq
          rw [heq, h'] at hr
          cases hr
  | cons a as ih =>
      simp only [List.flatMap_cons, List.append_assoc] at heq
      cases bs with
      | nil =>
          rw [List.flatMap_nil, List.nil_append] at heq
          rw [← heq, h] at hs
          cases hs
      | cons b bs =>
          simp only [List.flatMap_cons, List.append_assoc] at heq
          have hread := congrArg read heq
          rw [h, h', Option.some.injEq, Prod.mk.injEq] at hread
          obtain ⟨hab, hrest⟩ := hread
          obtain ⟨has, hrs⟩ := ih hrest
          exact ⟨by rw [hab, has], hrs⟩

/-! ### Words -/

variable {p : σ → Bool}

/-- The text does not begin with a letter of the class. -/
def Stops (p : σ → Bool) (rest : List σ) : Prop := ∀ c ∈ rest.head?, p c = false

theorem stops_cons {c : σ} {rest : List σ} (hc : p c = false) : Stops p (c :: rest) := by
  simpa [Stops] using hc

/-- A word of the class ends where its letters do. -/
theorem word_append_inj {u v r s : List σ} (hu : ∀ c ∈ u, p c = true)
    (hv : ∀ c ∈ v, p c = true) (hr : Stops p r) (hs : Stops p s) (heq : u ++ r = v ++ s) :
    u = v ∧ r = s := by
  have hnil : ∀ {t : List σ}, Stops p t → t.takeWhile p = [] := by
    intro t ht
    cases t with
    | nil => rfl
    | cons c t => rw [List.takeWhile_cons, ht c rfl]; rfl
  have htake := congrArg (List.takeWhile p) heq
  rw [List.takeWhile_append_of_pos hu, List.takeWhile_append_of_pos hv, hnil hr, hnil hs,
    List.append_nil, List.append_nil] at htake
  subst htake
  exact ⟨rfl, List.append_cancel_left heq⟩

/-! ### Separated lists -/

section Separated

variable {sep close : σ} {f g : α → List σ}

/-- The code of an item is there, and does not look like the end of the list. -/
def Opens (close : σ) (u : List σ) : Prop := ∃ c ∈ u.head?, c ≠ close

theorem Opens.ne_close {u r s : List σ} (hu : Opens close u) : u ++ r ≠ close :: s := by
  intro heq
  obtain ⟨c, hc, hne⟩ := hu
  cases u with
  | nil => cases hc
  | cons d u =>
      simp only [List.head?_cons, Option.mem_some_iff] at hc
      simp only [List.cons_append, List.cons.injEq] at heq
      exact hne (hc ▸ heq.1)

/-- Joining is laying every item but the first after a separator. -/
theorem intercalate_cons (u : List σ) (us : List (List σ)) :
    [sep].intercalate (u :: us) = u ++ us.flatMap (sep :: ·) := by
  induction us generalizing u with
  | nil => simp [List.intercalate]
  | cons v us ih =>
      rw [List.intercalate_cons_cons, ih]
      simp

/-- What follows an item begins with a separator or with the end of the list. -/
theorem stops_separated (hsep : p sep = false) (hclose : p close = false) (r : List σ)
    (xs : List α) : Stops p (xs.flatMap (fun x => sep :: f x) ++ close :: r) := by
  cases xs with
  | nil => exact stops_cons hclose
  | cons x xs => exact stops_cons hsep

theorem separated_append_inj (hne : sep ≠ close) (hsep : p sep = false)
    (hclose : p close = false) {xs ys : List α} {r s : List σ}
    (hitem : ∀ x ∈ xs, ∀ y ∈ ys, ∀ r s, Stops p r → Stops p s → f x ++ r = g y ++ s →
      x = y ∧ r = s)
    (heq : xs.flatMap (fun x => sep :: f x) ++ close :: r =
      ys.flatMap (fun y => sep :: g y) ++ close :: s) : xs = ys ∧ r = s := by
  induction xs generalizing ys with
  | nil =>
      cases ys with
      | nil => simpa using heq
      | cons y ys =>
          simp only [List.flatMap_nil, List.nil_append, List.flatMap_cons, List.cons_append,
            List.cons.injEq] at heq
          exact absurd heq.1.symm hne
  | cons x xs ih =>
      cases ys with
      | nil =>
          simp only [List.flatMap_nil, List.nil_append, List.flatMap_cons, List.cons_append,
            List.cons.injEq] at heq
          exact absurd heq.1 hne
      | cons y ys =>
          simp only [List.flatMap_cons, List.cons_append, List.cons.injEq, true_and,
            List.append_assoc] at heq
          obtain ⟨rfl, hrest⟩ := hitem x List.mem_cons_self y List.mem_cons_self _ _
            (stops_separated hsep hclose r xs) (stops_separated hsep hclose s ys) heq
          obtain ⟨rfl, hrs⟩ := ih (fun x hx y hy =>
            hitem x (List.mem_cons_of_mem _ hx) y (List.mem_cons_of_mem _ hy)) hrest
          exact ⟨rfl, hrs⟩

/-- A closed list of separated items tells its items, when each tells itself. -/
theorem intercalate_append_inj (hne : sep ≠ close) (hsep : p sep = false)
    (hclose : p close = false) {xs ys : List α} {r s : List σ}
    (hf : ∀ x ∈ xs, Opens close (f x)) (hg : ∀ y ∈ ys, Opens close (g y))
    (hitem : ∀ x ∈ xs, ∀ y ∈ ys, ∀ r s, Stops p r → Stops p s → f x ++ r = g y ++ s →
      x = y ∧ r = s)
    (heq : [sep].intercalate (xs.map f) ++ close :: r =
      [sep].intercalate (ys.map g) ++ close :: s) : xs = ys ∧ r = s := by
  cases xs with
  | nil =>
      cases ys with
      | nil => simpa using heq
      | cons y ys =>
          rw [List.map_cons, intercalate_cons, List.append_assoc] at heq
          exact absurd heq.symm (hg y List.mem_cons_self).ne_close
  | cons x xs =>
      cases ys with
      | nil =>
          rw [List.map_cons, intercalate_cons, List.append_assoc] at heq
          exact absurd heq (hf x List.mem_cons_self).ne_close
      | cons y ys =>
          simp only [List.map_cons, intercalate_cons, List.flatMap_map, List.append_assoc] at heq
          obtain ⟨rfl, hrest⟩ := hitem x List.mem_cons_self y List.mem_cons_self _ _
            (stops_separated hsep hclose r xs) (stops_separated hsep hclose s ys) heq
          obtain ⟨rfl, hrs⟩ := separated_append_inj hne hsep hclose (fun x hx y hy =>
            hitem x (List.mem_cons_of_mem _ hx) y (List.mem_cons_of_mem _ hy)) hrest
          exact ⟨rfl, hrs⟩

end Separated

end AgentSentinel.Lib
