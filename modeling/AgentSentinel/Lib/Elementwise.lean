import Mathlib.Data.List.Forall2
import Mathlib.Data.List.Sort

/-!
# AgentSentinel.Lib.Elementwise

Lists whose elements are related one by one, and what that says of the lists: that it
survives sorting, that it carries an order over, and that it may use where an element
comes from. A list that is computed element by element, where one may fail, is of this
kind, and two such computations that go alike for each element go alike for the list.
-/

namespace AgentSentinel.Lib

variable {α β γ δ : Type*}

/-- What related elements satisfy, each being in its list. -/
theorem forall₂_imp_mem {R S : α → β → Prop} {as : List α} {bs : List β}
    (h : List.Forall₂ R as bs) (hRS : ∀ a ∈ as, ∀ b ∈ bs, R a b → S a b) :
    List.Forall₂ S as bs := by
  induction h with
  | nil => exact .nil
  | cons hhead _ ih =>
      exact .cons (hRS _ List.mem_cons_self _ List.mem_cons_self hhead)
        (ih fun a ha b hb => hRS a (List.mem_cons_of_mem _ ha) b (List.mem_cons_of_mem _ hb))

/-- Lists that are related to one list in between are related through its elements. -/
theorem forall₂_comp {R : α → β → Prop} {S : β → γ → Prop} {as : List α} {bs : List β}
    {cs : List γ} (h : List.Forall₂ R as bs) (h' : List.Forall₂ S bs cs) :
    List.Forall₂ (fun a c => ∃ b, R a b ∧ S b c) as cs := by
  induction h generalizing cs with
  | nil =>
      cases h'
      exact .nil
  | cons hhead _ ih =>
      cases h' with
      | cons hhead' htail' => exact .cons ⟨_, hhead, hhead'⟩ (ih htail')

/-- What lies between related elements makes a list between the lists. -/
theorem exists_between {R : α → β → Prop} {S : β → γ → Prop} {as : List α} {cs : List γ}
    (h : List.Forall₂ (fun a c => ∃ b, R a b ∧ S b c) as cs) :
    ∃ bs, List.Forall₂ R as bs ∧ List.Forall₂ S bs cs := by
  induction h with
  | nil => exact ⟨[], .nil, .nil⟩
  | cons hhead _ ih =>
      obtain ⟨b, hab, hbc⟩ := hhead
      obtain ⟨bs, has, hcs⟩ := ih
      exact ⟨b :: bs, .cons hab has, .cons hbc hcs⟩

/-- Lists are related one by one when they are as long, and related at every place. -/
theorem forall₂_iff_getElem? {R : α → β → Prop} {as : List α} {bs : List β} :
    List.Forall₂ R as bs ↔ as.length = bs.length ∧
      ∀ (i : ℕ) a b, as[i]? = some a → bs[i]? = some b → R a b := by
  rw [List.forall₂_iff_get]
  refine and_congr_right fun _ => ?_
  constructor
  · intro h i a b ha hb
    obtain ⟨hi, rfl⟩ := List.getElem?_eq_some_iff.mp ha
    obtain ⟨hi', rfl⟩ := List.getElem?_eq_some_iff.mp hb
    exact h i hi hi'
  · intro h i hi hi'
    exact h i _ _ (List.getElem?_eq_getElem hi) (List.getElem?_eq_getElem hi')

/-- Sorting goes the same way on two lists whose elements are related and compare the
same. -/
theorem forall₂_insertionSort {R : α → β → Prop} {le : α → α → Prop}
    {le' : β → β → Prop} [DecidableRel le] [DecidableRel le']
    (hle : ∀ {a a' b b'}, R a b → R a' b' → (le a a' ↔ le' b b')) {as : List α} {bs : List β}
    (h : List.Forall₂ R as bs) :
    List.Forall₂ R (as.insertionSort le) (bs.insertionSort le') := by
  have hinsert : ∀ {a b as bs}, R a b → List.Forall₂ R as bs →
      List.Forall₂ R (as.orderedInsert le a) (bs.orderedInsert le' b) := by
    intro a b as bs hab htail
    induction htail with
    | nil => exact .cons hab .nil
    | @cons a' b' as bs hhead htail ih =>
        rw [List.orderedInsert, List.orderedInsert]
        by_cases hbefore : le a a'
        · rw [if_pos hbefore, if_pos ((hle hab hhead).mp hbefore)]
          exact .cons hab (.cons hhead htail)
        · rw [if_neg hbefore, if_neg fun h => hbefore ((hle hab hhead).mpr h)]
          exact .cons hhead ih
  induction h with
  | nil => exact .nil
  | cons hhead _ ih => exact hinsert hhead ih

/-- Two replacements that agree on pairs of elements agree on lists. -/
theorem map_eq_map_of_forall {f : α → γ} {g : β → γ} {k : α → δ} {l : β → δ}
    {as : List α} {bs : List β} (h : ∀ a ∈ as, ∀ b ∈ bs, f a = g b → k a = l b)
    (heq : as.map f = bs.map g) : as.map k = bs.map l := by
  induction as generalizing bs with
  | nil =>
      cases bs with
      | nil => rfl
      | cons b bs => cases heq
  | cons a as ih =>
      cases bs with
      | nil => cases heq
      | cons b bs =>
          rw [List.map_cons, List.map_cons, List.cons.injEq] at heq ⊢
          exact ⟨h a List.mem_cons_self b List.mem_cons_self heq.1,
            ih (fun a ha b hb => h a (List.mem_cons_of_mem _ ha) b (List.mem_cons_of_mem _ hb))
              heq.2⟩

/-- Lists are told by their images if their elements are. -/
theorem eq_of_map_eq_map {f : α → γ} {as bs : List α} (h : ∀ a ∈ as, ∀ b ∈ bs, f a = f b → a = b)
    (heq : as.map f = bs.map f) : as = bs := by
  simpa using map_eq_map_of_forall (k := id) (l := id) h heq

/-- Related elements are there for all of a list exactly when they are for each. -/
theorem exists_forall₂_iff {R : α → β → Prop} {p : β → Prop} {as : List α} :
    (∃ bs, List.Forall₂ R as bs ∧ ∀ b ∈ bs, p b) ↔ ∀ a ∈ as, ∃ b, R a b ∧ p b := by
  induction as with
  | nil => simp
  | cons a as ih =>
      rw [List.forall_mem_cons, ← ih]
      constructor
      · intro h
        obtain ⟨bs, hbs, hp⟩ := h
        obtain ⟨b, bs', hb, hbs', rfl⟩ := List.forall₂_cons_left_iff.mp hbs
        rw [List.forall_mem_cons] at hp
        exact ⟨⟨b, hb, hp.1⟩, bs', hbs', hp.2⟩
      · intro h
        obtain ⟨⟨b, hb, hpb⟩, bs, hbs, hp⟩ := h
        exact ⟨b :: bs, .cons hb hbs, List.forall_mem_cons.mpr ⟨hpb, hp⟩⟩

theorem exists_related_iff {R : α → β → Prop} {as : List α} :
    (∃ bs, List.Forall₂ R as bs) ↔ ∀ a ∈ as, ∃ b, R a b := by
  have hiff := @exists_forall₂_iff _ _ R (fun _ => True) as
  simpa using hiff

/-- Every element of the one list is related to an element of the other. -/
theorem exists_mem_of_forall₂ {R : α → β → Prop} {as : List α} {bs : List β}
    (h : List.Forall₂ R as bs) {a : α} (ha : a ∈ as) : ∃ b, R a b ∧ b ∈ bs :=
  exists_forall₂_iff.mp ⟨bs, h, fun _ hb => hb⟩ a ha

/-- What holds in order of the elements of one list holds of those related to them. -/
theorem pairwise_of_forall₂ {R : α → β → Prop} {S : β → β → Prop} {T : α → α → Prop}
    {as : List α} {bs : List β} (h : List.Forall₂ R as bs)
    (hST : ∀ {a b a' b'}, R a b → R a' b' → S b b' → T a a') (hbs : bs.Pairwise S) :
    as.Pairwise T := by
  induction h with
  | nil => exact .nil
  | cons hhead htail ih =>
      rw [List.pairwise_cons] at hbs
      refine List.pairwise_cons.mpr ⟨fun a' ha' => ?_, ih hbs.2⟩
      obtain ⟨b', hab', hb'⟩ := exists_mem_of_forall₂ htail ha'
      exact hST hhead hab' (hbs.1 b' hb')

/-- A recursion that goes through a list element by element finds what each of them has. -/
theorem traverse_eq_some {f : α → Option β} {g : List α → Option (List β)}
    (hnil : g [] = some [])
    (hcons : ∀ a as, g (a :: as) = (f a).bind fun b => (g as).bind fun bs => some (b :: bs))
    {as : List α} {bs : List β} :
    g as = some bs ↔ List.Forall₂ (fun a b => f a = some b) as bs := by
  induction as generalizing bs with
  | nil => simp [hnil, eq_comm]
  | cons a as ih =>
      simp only [hcons, Option.bind_eq_some_iff, Option.some.injEq, List.forall₂_cons_left_iff, ih]
      constructor
      · intro h
        obtain ⟨b, hb, bs', hbs, rfl⟩ := h
        exact ⟨b, bs', hb, hbs, rfl⟩
      · intro h
        obtain ⟨b, bs', hb, hbs, rfl⟩ := h
        exact ⟨b, hb, bs', hbs, rfl⟩

/-- A list of calls returns what each of them returns. -/
theorem mapM_eq_ok {ε α β : Type} {f : α → Except ε β} {as : List α} {bs : List β} :
    as.mapM f = .ok bs ↔ List.Forall₂ (fun a b => f a = .ok b) as bs := by
  induction as generalizing bs with
  | nil => simp [pure, Except.pure, eq_comm]
  | cons a as ih =>
      rw [List.mapM_cons, List.forall₂_cons_left_iff]
      simp only [← ih]
      cases f a with
      | error e => simp [bind, Except.bind]
      | ok b =>
          cases as.mapM f with
          | error e => simp [bind, Except.bind]
          | ok bs => simp [bind, Except.bind, pure, Except.pure, eq_comm]

/-! ### A value that may be missing -/

theorem isSome_eq_of_rel {R : α → β → Prop} {a : Option α} {b : Option β}
    (h : Option.Rel R a b) : a.isSome = b.isSome := by
  cases h <;> rfl

theorem rel_some_left {R : α → β → Prop} {x : α} {b : Option β} :
    Option.Rel R (some x) b ↔ ∃ y, b = some y ∧ R x y := by
  constructor
  · intro h
    cases h with
    | some hxy => exact ⟨_, rfl, hxy⟩
  · rintro ⟨y, rfl, hxy⟩
    exact .some hxy

/-! ### Computations that go alike -/

/-- Two calls that fail alike, or return what is related. -/
inductive GoAlike {ε : Type*} (R : α → β → Prop) : Except ε α → Except ε β → Prop
  | fail (e : ε) : GoAlike R (.error e) (.error e)
  | done {a : α} {b : β} (h : R a b) : GoAlike R (.ok a) (.ok b)

namespace GoAlike

/-- What goes like a call that returns an empty list returns one. -/
theorem iff_ok_nil {ε : Type*} {R : α → β → Prop} {x : Except ε (List α)} :
    GoAlike (List.Forall₂ R) x (.ok []) ↔ x = .ok [] := by
  constructor
  · intro h
    cases h with
    | done hnil => rw [List.forall₂_nil_right_iff.mp hnil]
  · rintro rfl
    exact .done .nil

/-- Sequences go alike when their first parts do, and their rests after related results. -/
theorem bind {ε α β γ δ : Type} {R : α → β → Prop} {S : γ → δ → Prop} {x : Except ε α}
    {y : Except ε β} {f : α → Except ε γ} {g : β → Except ε δ} (h : GoAlike R x y)
    (hrest : ∀ a b, R a b → GoAlike S (f a) (g b)) : GoAlike S (x >>= f) (y >>= g) := by
  cases h with
  | fail e => exact .fail e
  | done hab => exact hrest _ _ hab

/-- Lists of calls go alike when the calls do, one by one. -/
theorem mapM {ε α β γ : Type} {R : β → γ → Prop} {f : α → Except ε β} {g : α → Except ε γ}
    {as : List α} (h : ∀ a ∈ as, GoAlike R (f a) (g a)) :
    GoAlike (List.Forall₂ R) (as.mapM f) (as.mapM g) := by
  induction as with
  | nil => exact .done .nil
  | cons a as ih =>
      rw [List.forall_mem_cons] at h
      rw [List.mapM_cons, List.mapM_cons]
      refine h.1.bind fun b c hbc => (ih h.2).bind fun bs cs hrest => ?_
      exact .done (.cons hbc hrest)

end GoAlike

end AgentSentinel.Lib
