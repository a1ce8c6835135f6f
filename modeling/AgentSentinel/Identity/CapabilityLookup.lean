import AgentSentinel.Lib.EarlyExit
import AgentSentinel.Models.Identity

/-!
# AgentSentinel.Identity.CapabilityLookup

What the lookup of a capability answers, over all lists of grants. The grants of the name
asked for are tried in order, so a grant that cannot be compared with the current time only
shows when no grant before it has answered the question.
-/

namespace AgentSentinel

open Lib

namespace CapabilityGrant

/-- The grant has an expiry, and it has passed. -/
def Expired (cap : CapabilityGrant) (now : ℤ) : Prop :=
  ∃ micros offset, cap.expiresAt = some (.aware micros offset) ∧ micros < now

/-- The grant has an expiry without a time zone, which is no point in time. -/
def Naive (cap : CapabilityGrant) : Prop := ∃ micros, cap.expiresAt = some (.naive micros)

/-- The grant gives the capability: under that name, not expired, for the scope requested. -/
structure Gives (cap : CapabilityGrant) (now : ℤ) (name : PyStr) (scope : Option PyStr) :
    Prop where
  name_eq : cap.name = name
  not_expired : ¬ cap.Expired now
  scope_eq : ∀ s ∈ scope, cap.scope = py "*" ∨ cap.scope = s

/-- What the loop asks of one grant. -/
def answers (now : PyDatetime) (name : PyStr) (scope : Option PyStr) (cap : CapabilityGrant) :
    Result Bool :=
  if cap.name ≠ name then .ok false
  else (cap.expired now).map fun expired => !expired && cap.covers scope

variable {cap : CapabilityGrant} {now : ℤ} {name : PyStr} {scope : Option PyStr}

theorem covers_scope_iff :
    cap.covers scope = true ↔ ∀ s ∈ scope, cap.scope = py "*" ∨ cap.scope = s := by
  cases scope <;> simp [covers]

theorem answers_of_naive (now : ℤ) (scope : Option PyStr) (hname : cap.name = name)
    (h : cap.Naive) : Raised (cap.answers (.aware now 0) name scope) := by
  obtain ⟨micros, hexpires⟩ := h
  refine ⟨⟨.typeError, py "can't compare offset-naive and offset-aware datetimes"⟩, ?_⟩
  simp [answers, hname, expired, hexpires, PyDatetime.lt, Except.map]

/-- A grant that can be compared with the current time is judged right. -/
theorem answers_of_not_naive (now : ℤ) (scope : Option PyStr)
    (h : ¬ (cap.name = name ∧ cap.Naive)) :
    ∃ b, cap.answers (.aware now 0) name scope = .ok b ∧
      (b = true ↔ cap.Gives now name scope) := by
  by_cases hname : cap.name = name
  · have hgives : cap.Gives now name scope ↔ ¬ cap.Expired now ∧ cap.covers scope = true := by
      rw [covers_scope_iff]
      exact ⟨fun hg => ⟨hg.not_expired, hg.scope_eq⟩, fun hg => ⟨hname, hg.1, hg.2⟩⟩
    rw [hgives]
    cases hexpires : cap.expiresAt with
    | none => exact ⟨_, by simp [answers, hname, expired, hexpires, Except.map]; rfl,
        by simp [Expired, hexpires]⟩
    | some t =>
        cases t with
        | naive micros => exact absurd ⟨hname, micros, hexpires⟩ h
        | aware micros offset =>
            exact ⟨_, by simp [answers, hname, expired, hexpires, PyDatetime.lt, Except.map]; rfl,
              by simp [Expired, hexpires]⟩
  · refine ⟨false, if_pos hname, iff_of_false (by simp) fun hgives => ?_⟩
    exact hname hgives.name_eq

theorem gives_of_answers (h : cap.answers (.aware now 0) name scope = .ok true) :
    cap.Gives now name scope := by
  by_cases hnaive : cap.name = name ∧ cap.Naive
  · obtain ⟨e, hraised⟩ := answers_of_naive now scope hnaive.1 hnaive.2
    cases h.symm.trans hraised
  · obtain ⟨b, hb, hgives⟩ := answers_of_not_naive now scope hnaive
    exact hgives.mp (Except.ok.inj (hb.symm.trans h))

/-- A grant that gives the capability does not let the loop go on. -/
theorem answers_of_gives (h : cap.Gives now name scope) :
    cap.answers (.aware now 0) name scope ≠ .ok false := by
  intro hno
  by_cases hnaive : cap.name = name ∧ cap.Naive
  · obtain ⟨e, hraised⟩ := answers_of_naive now scope hnaive.1 hnaive.2
    cases hno.symm.trans hraised
  · obtain ⟨b, hb, hgives⟩ := answers_of_not_naive now scope hnaive
    rw [hgives.mpr h] at hb
    cases hno.symm.trans hb

end CapabilityGrant

/-- The loop of `has_capability` is one that a grant ends by giving the capability. -/
theorem hasCapabilityIn_eq (now : PyDatetime) (name : PyStr) (scope : Option PyStr)
    (caps : List CapabilityGrant) : hasCapabilityIn now name scope caps =
      earlyExit false (CapabilityGrant.answers now name scope) caps := by
  induction caps with
  | nil => rfl
  | cons cap caps ih =>
      unfold hasCapabilityIn earlyExit
      rw [ih]
      by_cases hname : cap.name = name
      · cases hexpired : cap.expired now with
        | error e => simp [CapabilityGrant.answers, hname, hexpired, Except.map]
        | ok expired =>
            cases expired <;> cases hcovers : cap.covers scope <;>
              simp [CapabilityGrant.answers, hname, hexpired, hcovers, Except.map]
      · simp [CapabilityGrant.answers, hname]

namespace Identity

variable {identity : Identity} {now : ℤ} {name : PyStr} {scope : Option PyStr}

/-- The lookup at the current time returns, and its answer is right. -/
def LookupExact (identity : Identity) (now : ℤ) (name : PyStr) (scope : Option PyStr) : Prop :=
  ∃ held, identity.hasCapability (.aware now 0) name scope = .ok held ∧
    (held = true ↔ ∃ cap ∈ identity.capabilities, cap.Gives now name scope)

/-- **The lookup is exact** unless it comes to a grant of the name with a naive expiry before
any grant gives the capability. -/
theorem lookupExact_iff : identity.LookupExact now name scope ↔
    ∀ before cap after, identity.capabilities = before ++ cap :: after → cap.name = name →
      cap.Naive → ∃ c ∈ before, c.Gives now name scope := by
  unfold LookupExact hasCapability
  rw [hasCapabilityIn_eq]
  constructor
  · intro h before cap after hcaps hname hnaive
    obtain ⟨held, hheld, -⟩ := h
    obtain ⟨e, hraised⟩ :=
      CapabilityGrant.answers_of_naive now scope hname hnaive
    rw [hcaps] at hheld
    -- The loop has to be left before it comes to the naive grant, and not by raising.
    cases hbefore : earlyExit false (CapabilityGrant.answers (.aware now 0) name scope) before with
    | error e' =>
        rw [earlyExit_append_leave (by simp [hbefore]), hbefore] at hheld
        cases hheld
    | ok b =>
        cases b with
        | false =>
            rw [earlyExit_append_go_on hbefore, earlyExit_leave (by simp [hraised]), hraised]
              at hheld
            cases hheld
        | true =>
            obtain ⟨_, c, _, rfl, -, hc⟩ := (earlyExit_eq_iff (by simp)).mp hbefore
            exact ⟨c, by simp, CapabilityGrant.gives_of_answers hc⟩
  · intro h
    cases hloop : earlyExit false (CapabilityGrant.answers (.aware now 0) name scope)
        identity.capabilities with
    | error e =>
        obtain ⟨before, cap, after, hcaps, hbefore, hcap⟩ :=
          (earlyExit_eq_iff (r := .error e) (by simp)).mp hloop
        have hnaive : cap.name = name ∧ cap.Naive := by
          by_contra hno
          obtain ⟨b, hb, -⟩ := CapabilityGrant.answers_of_not_naive now scope hno
          cases hb.symm.trans hcap
        obtain ⟨c, hc, hgives⟩ := h before cap after hcaps hnaive.1 hnaive.2
        exact absurd (hbefore c hc) (CapabilityGrant.answers_of_gives hgives)
    | ok held =>
        refine ⟨held, rfl, ?_⟩
        constructor
        · rintro rfl
          obtain ⟨_, c, _, hcaps, -, hc⟩ := (earlyExit_eq_iff (by simp)).mp hloop
          exact ⟨c, by simp [hcaps], CapabilityGrant.gives_of_answers hc⟩
        · intro hgiven
          obtain ⟨c, hc, hgives⟩ := hgiven
          by_contra hfalse
          rw [Bool.not_eq_true] at hfalse
          subst hfalse
          exact CapabilityGrant.answers_of_gives hgives (earlyExit_eq_going_iff.mp hloop c hc)

/-- An identity with one grant, which has a naive expiry. -/
def naiveHolder : Identity :=
  { (default : Identity) with
    capabilities := [{ name := py "payments.write", expiresAt := some (.naive 0) }] }

/-- Asking for that capability raises. -/
theorem naive_expiry_raises : ¬ ∀ (identity : Identity) (now : ℤ) (name : PyStr)
    (scope : Option PyStr), identity.LookupExact now name scope := by
  intro h
  obtain ⟨held, hheld, -⟩ := h naiveHolder 0 (py "payments.write") none
  cases hheld

end Identity

end AgentSentinel
