import Mathlib.Data.List.Nodup

/-!
# AgentSentinel.Lib.Traversal

Traversals of trees of any kind, given by the parts of a node with the step that leads to
each. A context is handed down, and what is found at a node is listed with the address of the
node, before what is found below it.
-/

namespace AgentSentinel.Lib.Traversal

variable {τ σ Γ β : Type*}

section Addresses

variable (parts : τ → List (σ × τ)) (enter : Γ → τ → Γ)

/-- The node at an address. -/
inductive At : τ → List σ → τ → Prop
  | here (t : τ) : At t [] t
  | step {t c u : τ} {s : σ} {p : List σ} (hpart : (s, c) ∈ parts t) (hat : At c p u) :
      At t (s :: p) u

/-- The address passes through the node `f` and leaves it by the step `s`. -/
def GoesThrough (t : τ) (p : List σ) (f : τ) (s : σ) : Prop :=
  ∃ q rest, p = q ++ s :: rest ∧ At parts t q f

/-- The node at an address and the context that is handed down to it. -/
inductive Carries : Γ → τ → List σ → Γ → τ → Prop
  | here (γ : Γ) (t : τ) : Carries γ t [] γ t
  | step {γ γ' : Γ} {t c u : τ} {s : σ} {p : List σ} (hpart : (s, c) ∈ parts t)
      (hcarries : Carries (enter γ t) c p γ' u) : Carries γ t (s :: p) γ' u

/-- What is found below a part, with the step that leads there. -/
def under (part : σ × τ) (found : List (List σ × β)) : List (List σ × β) :=
  found.map fun r => (part.1 :: r.1, r.2)

/-- `visit` lists what `own` finds at a node and then what it finds in its parts. -/
def IsPreorder (own : Γ → τ → List β) (visit : Γ → τ → List (List σ × β)) : Prop :=
  ∀ γ t, visit γ t = (own γ t).map (fun b => ([], b)) ++
    (parts t).flatMap fun part => under part (visit (enter γ t) part.2)

end Addresses

variable {parts : τ → List (σ × τ)} {enter : Γ → τ → Γ} {own : Γ → τ → List β}
  {visit : Γ → τ → List (List σ × β)} {γ γ' : Γ} {t u : τ} {p : List σ} {b : β}

theorem at_nil_iff : At parts t [] u ↔ u = t := by
  constructor
  · intro h
    cases h
    rfl
  · rintro rfl
    exact .here u

theorem at_cons_iff {s : σ} : At parts t (s :: p) u ↔ ∃ c, (s, c) ∈ parts t ∧ At parts c p u := by
  constructor
  · intro h
    cases h with
    | step hpart hat => exact ⟨_, hpart, hat⟩
  · rintro ⟨c, hpart, hat⟩
    exact .step hpart hat

theorem Carries.at (h : Carries parts enter γ t p γ' u) : At parts t p u := by
  induction h with
  | here γ t => exact .here t
  | step hpart _ ih => exact .step hpart ih

/-- Some context is handed down to every node. -/
theorem At.carries (enter : Γ → τ → Γ) (γ : Γ) (h : At parts t p u) :
    ∃ γ', Carries parts enter γ t p γ' u := by
  induction h generalizing γ with
  | here t => exact ⟨γ, .here γ t⟩
  | step hpart _ ih =>
    obtain ⟨γ', hcarries⟩ := ih (enter γ _)
    exact ⟨γ', .step hpart hcarries⟩

/-- What is found below a step is found below the part that it leads to. -/
theorem mem_flatMap_under {below : σ × τ → List (List σ × β)} {l : List (σ × τ)} {s : σ} :
    (s :: p, b) ∈ (l.flatMap fun part => under part (below part)) ↔
      ∃ c, (s, c) ∈ l ∧ (p, b) ∈ below (s, c) := by
  simp [under]

/-- What a traversal lists is what is found at the nodes, each in its context. -/
theorem mem_visit_iff (hvisit : IsPreorder parts enter own visit) :
    (p, b) ∈ visit γ t ↔ ∃ γ' u, Carries parts enter γ t p γ' u ∧ b ∈ own γ' u := by
  induction p generalizing γ t with
  | nil =>
    rw [hvisit γ t]
    constructor
    · intro h
      have hown : b ∈ own γ t := by simpa [under] using h
      exact ⟨γ, t, .here γ t, hown⟩
    · rintro ⟨γ', u, ⟨⟩, hown⟩
      exact List.mem_append_left _ (List.mem_map_of_mem hown)
  | cons s p ih =>
    rw [hvisit γ t]
    constructor
    · intro h
      have hbelow := (List.mem_append.mp h).resolve_left (by simp)
      obtain ⟨c, hpart, hmem⟩ := mem_flatMap_under.mp hbelow
      obtain ⟨γ', u, hcarries, hown⟩ := ih.mp hmem
      exact ⟨γ', u, .step hpart hcarries, hown⟩
    · rintro ⟨γ', u, hcarries, hown⟩
      cases hcarries with
      | step hpart hcarries =>
        have hmem := ih.mpr ⟨γ', u, hcarries, hown⟩
        exact List.mem_append_right _ (mem_flatMap_under.mpr ⟨_, hpart, hmem⟩)

/-! ### What an address passes through -/

theorem not_goesThrough_nil {f : τ} {s : σ} : ¬ GoesThrough parts t [] f s := by
  rintro ⟨q, rest, hp, -⟩
  simp at hp

theorem goesThrough_cons {f : τ} {s s' : σ} (hpart : (s, u) ∈ parts t)
    (hunique : ∀ c, (s, c) ∈ parts t → c = u) :
    GoesThrough parts t (s :: p) f s' ↔ (f = t ∧ s' = s) ∨ GoesThrough parts u p f s' := by
  constructor
  · rintro ⟨q, rest, hp, hat⟩
    cases hat with
    | here =>
      obtain ⟨rfl, rfl⟩ := List.cons.inj hp
      exact .inl ⟨rfl, rfl⟩
    | step hpart' hat =>
      obtain ⟨rfl, rfl⟩ := List.cons.inj hp
      rw [hunique _ hpart'] at hat
      exact .inr ⟨_, rest, rfl, hat⟩
  · rintro (⟨rfl, rfl⟩ | ⟨q, rest, rfl, hat⟩)
    · exact ⟨[], p, rfl, .here _⟩
    · exact ⟨s :: q, rest, rfl, .step hpart hat⟩

/-- With different steps a step leads to one part. -/
theorem part_unique {c : τ} {s : σ} (hsteps : ((parts t).map Prod.fst).Nodup)
    (h : (s, c) ∈ parts t) (h' : (s, u) ∈ parts t) : c = u := by
  have hsame : (s, c) = (s, u) := List.inj_on_of_nodup_map hsteps h h' rfl
  exact (Prod.ext_iff.mp hsame).2

/-- With different steps an address leads to one node. -/
theorem At.unique {u' : τ} (hsteps : ∀ t, ((parts t).map Prod.fst).Nodup) (h : At parts t p u)
    (h' : At parts t p u') : u = u' := by
  induction h with
  | here t =>
    cases h'
    rfl
  | step hpart _ ih =>
    cases h' with
    | step hpart' hat' =>
      obtain rfl := part_unique (hsteps _) hpart' hpart
      exact ih hat'

/-- A property that a context has from some node on holds below such a node. -/
theorem Carries.context_iff {Q : Γ → Prop} {g : τ → Prop}
    (hsteps : ∀ t, ((parts t).map Prod.fst).Nodup)
    (henter : ∀ γ t, Q (enter γ t) ↔ Q γ ∨ g t) (h : Carries parts enter γ t p γ' u) :
    Q γ' ↔ Q γ ∨ ∃ f s, GoesThrough parts t p f s ∧ g f := by
  induction h with
  | here γ t => simp [not_goesThrough_nil]
  | @step γ γ' t c u s p hpart _ ih =>
    have hunique : ∀ c', (s, c') ∈ parts t → c' = c := fun c' h' =>
      part_unique (hsteps t) h' hpart
    have hthrough : (∃ f s', GoesThrough parts t (s :: p) f s' ∧ g f) ↔
        g t ∨ ∃ f s', GoesThrough parts c p f s' ∧ g f := by
      simp only [goesThrough_cons hpart hunique]
      constructor
      · rintro ⟨f, s', ⟨rfl, -⟩ | hbelow, hf⟩
        · exact .inl hf
        · exact .inr ⟨f, s', hbelow, hf⟩
      · rintro (hf | ⟨f, s', hbelow, hf⟩)
        · exact ⟨t, s, .inl ⟨rfl, rfl⟩, hf⟩
        · exact ⟨f, s', .inr hbelow, hf⟩
    rw [ih, henter, hthrough, or_assoc]

/-! ### One address at a time -/

variable [DecidableEq σ]

theorem filter_under_of_ne {part : σ × τ} {found : List (List σ × β)} {s : σ}
    (h : part.1 ≠ s) : ((under part found).filter fun r => r.1 = s :: p) = [] := by
  rw [List.filter_eq_nil_iff]
  intro r hr
  obtain ⟨r', -, rfl⟩ := List.mem_map.mp hr
  simp [h]

theorem filter_under {part : σ × τ} {found : List (List σ × β)} :
    ((under part found).filter fun r => r.1 = part.1 :: p) =
      under part (found.filter fun r => r.1 = p) := by
  unfold under
  rw [List.filter_map]
  congr 2
  ext r
  simp

/-- Of the parts with different steps only one contributes to an address. -/
theorem filter_flatMap_under {below : σ × τ → List (List σ × β)} {l : List (σ × τ)}
    {part : σ × τ} (hsteps : (l.map Prod.fst).Nodup) (hpart : part ∈ l) :
    ((l.flatMap fun q => under q (below q)).filter fun r => r.1 = part.1 :: p) =
      under part ((below part).filter fun r => r.1 = p) := by
  induction l with
  | nil => cases hpart
  | cons q l ih =>
    obtain ⟨hfirst, hrest⟩ := List.nodup_cons.mp hsteps
    rw [List.flatMap_cons, List.filter_append]
    rcases List.mem_cons.mp hpart with rfl | hpart
    -- The other parts are reached by other steps.
    · have hnone : ((l.flatMap fun q => under q (below q)).filter
          fun r => r.1 = part.1 :: p) = [] := by
        rw [List.filter_flatMap]
        refine List.flatMap_eq_nil_iff.mpr fun q hq => filter_under_of_ne fun heq => hfirst ?_
        exact heq ▸ List.mem_map_of_mem hq
      rw [filter_under, hnone, List.append_nil]
    · have hne : q.1 ≠ part.1 := fun heq => hfirst (heq ▸ List.mem_map_of_mem hpart)
      rw [filter_under_of_ne hne, List.nil_append, ih hrest hpart]

/-- What a traversal lists for a node is what is found there, once. -/
theorem filter_visit (hvisit : IsPreorder parts enter own visit)
    (hsteps : ∀ t, ((parts t).map Prod.fst).Nodup) (h : Carries parts enter γ t p γ' u) :
    ((visit γ t).filter fun r => r.1 = p) = (own γ' u).map fun b => (p, b) := by
  induction h with
  | here γ t =>
    have hbelow : (((parts t).flatMap fun part => under part (visit (enter γ t) part.2)).filter
        fun r => r.1 = []) = [] := by
      rw [List.filter_eq_nil_iff]
      intro r hr
      obtain ⟨part, -, hr⟩ := List.mem_flatMap.mp hr
      obtain ⟨r', -, rfl⟩ := List.mem_map.mp hr
      simp
    rw [hvisit, List.filter_append, hbelow, List.append_nil, List.filter_eq_self]
    simp
  | @step γ γ' t c u s p hpart _ ih =>
    -- What is found at `t` has the empty address.
    have hown : (((own γ t).map fun b => (([] : List σ), b)).filter
        fun r => r.1 = s :: p) = [] := by
      rw [List.filter_eq_nil_iff]
      simp
    have hone : (((parts t).flatMap fun q => under q (visit (enter γ t) q.2)).filter
          fun r => r.1 = s :: p) = under (s, c) ((visit (enter γ t) c).filter fun r => r.1 = p) :=
      filter_flatMap_under (hsteps t) hpart
    rw [hvisit, List.filter_append, hown, List.nil_append, hone, ih, under, List.map_map]
    rfl

end AgentSentinel.Lib.Traversal
