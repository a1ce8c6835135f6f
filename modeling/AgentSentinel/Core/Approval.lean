import AgentSentinel.Lib.Noninterference
import AgentSentinel.Models.Decision
import AgentSentinel.Utils.Canonical

/-!
# AgentSentinel.Core.Approval

The human-in-the-loop approval workflow and its in-memory backend.

A reviewer's ruling should be final: the first one on an item stands, a resolve that
comes too late fails, and nobody's ruling touches another item. The backend refuses
only a resolve of an item it does not know. It looks neither at the ruling an item
already has nor at the time the item expires, so what is proved is that rulings are
final in exactly the runs in which no resolve comes too late.
-/

namespace AgentSentinel

open Lib

/-- An action awaiting human review. -/
structure PendingApproval where
  id : UUID
  action : Action
  initialDecision : Decision
  createdAt : PyDatetime
  expiresAt : Option PyDatetime := none
  resolvedAt : Option PyDatetime := none
  resolution : Option DecisionVerdict := none
  resolver : Option PyStr := none
  notes : Option PyStr := none

/-- What a reviewer has put on an item. -/
structure Ruling where
  resolution : DecisionVerdict
  resolver : Option PyStr
  notes : Option PyStr
  resolvedAt : Option PyDatetime
  deriving DecidableEq

namespace PendingApproval

variable (item : PendingApproval)

/-- The ruling on an item that has a resolution. -/
def ruling : Option Ruling :=
  item.resolution.map fun resolution =>
    { resolution, resolver := item.resolver, notes := item.notes, resolvedAt := item.resolvedAt }

/-- The item's time is over. -/
def Expired (now : PyDatetime) : Prop :=
  ∃ t, item.expiresAt = some t ∧ t.lt now = .ok true

end PendingApproval

/-- The default backend: the items, each under its own identifier. -/
structure InMemoryApprovalBackend where
  items : UUID → Option PendingApproval
  filed : ∀ {id item}, items id = some item → item.id = id

namespace InMemoryApprovalBackend

/-- `InMemoryApprovalBackend()`. -/
def empty : InMemoryApprovalBackend := ⟨fun _ => none, nofun⟩

/-- `self._items[item_id] = item` for an item with this identifier. -/
def file (backend : InMemoryApprovalBackend) (itemId : UUID) (item : PendingApproval)
    (hid : item.id = itemId) : InMemoryApprovalBackend where
  items := Function.update backend.items itemId (some item)
  filed := by
    intro id filedItem h
    by_cases hsame : id = itemId
    · subst hsame
      rw [Function.update_self] at h
      exact Option.some.inj h ▸ hid
    · rw [Function.update_of_ne hsame] at h
      exact backend.filed h

variable (backend : InMemoryApprovalBackend)

def enqueue (item : PendingApproval) : InMemoryApprovalBackend := backend.file item.id item rfl

/-- `self._items[item_id]` raises on an identifier that is not there. -/
def keyError (itemId : UUID) : PyExc :=
  ⟨.other (py "KeyError"), py "UUID('" ++ uuidText itemId ++ py "')"⟩

/-- `resolve`; `now` is what the clock says while it runs. -/
def resolve (itemId : UUID) (verdict : DecisionVerdict) (resolver : PyStr)
    (notes : Option PyStr) (now : PyDatetime) :
    Result PendingApproval × InMemoryApprovalBackend :=
  match h : backend.items itemId with
  | none => (.error (keyError itemId), backend)
  | some item =>
    let resolved := { item with
      resolution := some verdict
      resolver := some resolver
      notes
      resolvedAt := some now }
    (.ok resolved, backend.file itemId resolved (backend.filed h : item.id = itemId))

def get (itemId : UUID) : Option PendingApproval := backend.items itemId

/-! ### What a resolve does -/

variable {backend} {itemId : UUID} {verdict : DecisionVerdict} {resolver : PyStr}
  {notes : Option PyStr} {now : PyDatetime}

/-- An unknown item is refused, and nothing is written. -/
theorem resolve_unknown (h : backend.items itemId = none) :
    backend.resolve itemId verdict resolver notes now = (.error (keyError itemId), backend) := by
  unfold resolve
  split
  · rfl
  · next item hitem => cases h.symm.trans hitem

/-- A known item takes whatever ruling comes, and it alone. -/
theorem resolve_known {item : PendingApproval} (h : backend.items itemId = some item) :
    ∃ resolved, (backend.resolve itemId verdict resolver notes now).1 = .ok resolved ∧
      resolved.ruling = some ⟨verdict, some resolver, notes, some now⟩ ∧
      (backend.resolve itemId verdict resolver notes now).2.items =
        Function.update backend.items itemId (some resolved) := by
  unfold resolve
  split
  · next hitem => cases h.symm.trans hitem
  · exact ⟨_, rfl, rfl, rfl⟩

/-- Resolving one item changes no other. -/
theorem resolve_frame {other : UUID} (hother : other ≠ itemId) :
    (backend.resolve itemId verdict resolver notes now).2.items other = backend.items other := by
  cases h : backend.items itemId with
  | none => rw [resolve_unknown h]
  | some item =>
      obtain ⟨resolved, -, -, hitems⟩ := resolve_known h
      rw [hitems, Function.update_of_ne hother]

/-! ### Runs of the backend -/

/-- The operations of the protocol `ApprovalBackend`, with the clock of a resolve. -/
inductive Operation
  | enqueue (item : PendingApproval)
  | resolve (itemId : UUID) (verdict : DecisionVerdict) (resolver : PyStr)
      (notes : Option PyStr) (now : PyDatetime)
  | get (itemId : UUID)

/-- The backend answering one operation after the other. -/
def serve : Server InMemoryApprovalBackend Operation (Result (Option PendingApproval))
  | backend, .enqueue item => (.ok none, backend.enqueue item)
  | backend, .resolve itemId verdict resolver notes now =>
    let (resolved, backend) := backend.resolve itemId verdict resolver notes now
    (resolved.map some, backend)
  | backend, .get itemId => (.ok (backend.get itemId), backend)

/-- An item is enqueued under an identifier no other item has. -/
def Fresh (backend : InMemoryApprovalBackend) : Operation → Prop
  | .enqueue item => backend.items item.id = none
  | _ => True

/-- The ruling on the item with this identifier. -/
def ruling (backend : InMemoryApprovalBackend) (itemId : UUID) : Option Ruling :=
  (backend.items itemId).bind PendingApproval.ruling

/-- Every ruling of the first state stands in the second. -/
def Stand (before after : InMemoryApprovalBackend) : Prop :=
  ∀ itemId ruling, before.ruling itemId = some ruling → after.ruling itemId = some ruling

/-- Once given, a ruling stands for the rest of the run. -/
def Final (backend : InMemoryApprovalBackend) (ops : List Operation) : Prop :=
  ∀ pre post, ops = pre ++ post → Stand (serve.after backend pre) (serve.after backend ops)

/-- The item is known, and either has a resolution or has expired. -/
def Settled (backend : InMemoryApprovalBackend) (itemId : UUID) (now : PyDatetime) : Prop :=
  ∃ item, backend.items itemId = some item ∧ (item.resolution.isSome = true ∨ item.Expired now)

/-- A resolve of an unknown or settled item fails and changes nothing, and no resolve
changes another item than its own. -/
def Refuses (backend : InMemoryApprovalBackend) : Operation → Prop
  | .resolve itemId verdict resolver notes now =>
    (backend.items itemId = none ∨ backend.Settled itemId now →
      Raised (backend.resolve itemId verdict resolver notes now).1 ∧
        (backend.resolve itemId verdict resolver notes now).2.items = backend.items) ∧
    ∀ other, other ≠ itemId →
      (backend.resolve itemId verdict resolver notes now).2.items other = backend.items other
  | _ => True

/-- A resolve does not come too late. -/
def InTime (backend : InMemoryApprovalBackend) : Operation → Prop
  | .resolve itemId _ _ _ now => ¬ backend.Settled itemId now
  | _ => True

variable {op : Operation} {item : PendingApproval}

theorem Stand.refl (backend : InMemoryApprovalBackend) : Stand backend backend :=
  fun _ _ h => h

theorem Stand.trans {first second third : InMemoryApprovalBackend} (h₁ : Stand first second)
    (h₂ : Stand second third) : Stand first third :=
  fun itemId ruling h => h₂ itemId ruling (h₁ itemId ruling h)

/-- Writing an item under an identifier that has no ruling leaves all rulings standing. -/
theorem stand_of_update {written : InMemoryApprovalBackend} (hnone : backend.ruling itemId = none)
    (hitems : written.items = Function.update backend.items itemId (some item)) :
    Stand backend written := by
  intro id ruling h
  have hid : id ≠ itemId := by
    rintro rfl
    cases hnone.symm.trans h
  rwa [InMemoryApprovalBackend.ruling, hitems, Function.update_of_ne hid]

/-- One operation that comes in time leaves the rulings standing. -/
theorem stand_serve (hfresh : backend.Fresh op) (hin : backend.InTime op) :
    Stand backend (serve backend op).2 := by
  cases op with
  | enqueue item =>
      have hnone : backend.ruling item.id = none := by
        simp [InMemoryApprovalBackend.ruling, show backend.items item.id = none from hfresh]
      exact stand_of_update hnone rfl
  | resolve itemId verdict resolver notes now =>
      cases h : backend.items itemId with
      | none =>
          rw [show (serve backend (.resolve itemId verdict resolver notes now)).2 = backend from
            congrArg Prod.snd (resolve_unknown h)]
          exact Stand.refl backend
      | some item =>
          obtain ⟨resolved, -, -, hitems⟩ := resolve_known h
          have hnone : backend.ruling itemId = none := by
            by_contra hruled
            refine hin ⟨item, h, Or.inl ?_⟩
            simpa [InMemoryApprovalBackend.ruling, h, PendingApproval.ruling,
              Option.isSome_iff_ne_none] using hruled
          exact stand_of_update hnone hitems
  | get itemId => exact Stand.refl backend

/-- The backend gives a late resolve what it asks for, and is sound on every other one. -/
theorem refuses_iff_inTime : backend.Refuses op ↔ backend.InTime op := by
  cases op with
  | enqueue item => exact Iff.rfl
  | get itemId => exact Iff.rfl
  | resolve itemId verdict resolver notes now =>
      constructor
      · intro hrefuses hsettled
        obtain ⟨e, he⟩ := (hrefuses.1 (Or.inr hsettled)).1
        obtain ⟨item, hitem, -⟩ := hsettled
        obtain ⟨resolved, hok, -⟩ := resolve_known hitem
        cases hok.symm.trans he
      · intro hin
        refine ⟨fun hnone => ?_, fun other hother => resolve_frame hother⟩
        have hunknown := hnone.resolve_right hin
        rw [resolve_unknown hunknown]
        exact ⟨⟨_, rfl⟩, rfl⟩

/-- **Finality.** In a run without late resolves every ruling stands. -/
theorem final_of_inTime {ops : List Operation} (hfresh : serve.Along Fresh backend ops)
    (hin : serve.Along InTime backend ops) : Final backend ops := by
  rintro pre post rfl
  rw [Server.after_append]
  exact (Server.along_append.mp (hfresh.and hin)).2.stable Stand.refl Stand.trans
    fun _ _ h => stand_serve h.1 h.2

/-- From a new backend on, approval is final and late resolves fail exactly in the runs
that have no late resolves. -/
theorem resolution_final_iff {ops : List Operation} (hfresh : serve.Along Fresh empty ops) :
    Final empty ops ∧ serve.Along Refuses empty ops ↔ serve.Along InTime empty ops := by
  constructor
  · intro h
    exact h.2.imp fun _ _ => refuses_iff_inTime.mp
  · intro hin
    exact ⟨final_of_inTime hfresh hin, hin.imp fun _ _ => refuses_iff_inTime.mpr⟩

/-- An action somebody has to look at, and what the pipeline said about it. -/
def parked : PendingApproval where
  id := 0
  action := default
  initialDecision := {
    actionId := 0
    verdict := .escalate
    explanation := {
      summary := []
      triggeredRuleIds := []
      riskFactors := []
      riskScore := ⟨0, by norm_num⟩
      recommendedRemediation := none
      references := [] }
    latencyMs := none
    degraded := false }
  createdAt := .aware 0 0

/-- The item is parked and denied by one reviewer. -/
def denied : List Operation :=
  [.enqueue parked, .resolve 0 .deny (py "alice") none (.aware 1 0)]

/-- Another reviewer allows it after that. -/
def overruled : List Operation := denied ++ [.resolve 0 .allow (py "bob") none (.aware 2 0)]

theorem resolution_final_denied :
    Final empty denied ∧ serve.Along Refuses empty denied := by
  have hfresh : serve.Along Fresh empty denied := ⟨rfl, trivial, trivial⟩
  refine (resolution_final_iff hfresh).mpr ⟨trivial, ?_, trivial⟩
  rintro ⟨item, hitem, hlate⟩
  obtain rfl : parked = item := Option.some.inj hitem
  rcases hlate with h | ⟨t, h, -⟩ <;> cases h

/-- The second ruling replaces the first. -/
theorem resolution_overruled : ¬ ∀ ops, serve.Along Fresh empty ops →
    Final empty ops ∧ serve.Along Refuses empty ops := by
  intro h
  obtain ⟨hfinal, -⟩ := h overruled ⟨rfl, trivial, trivial, trivial⟩
  have hallow : (serve.after empty overruled).ruling 0 =
      some ⟨.deny, some (py "alice"), none, some (.aware 1 0)⟩ :=
    hfinal denied _ rfl 0 _ (by decide)
  revert hallow
  decide

end InMemoryApprovalBackend

/-! ### The workflow -/

/-- Coordinates escalations on the in-memory backend. -/
structure ApprovalWorkflow where
  backend : InMemoryApprovalBackend := .empty

namespace ApprovalWorkflow

variable (workflow : ApprovalWorkflow)

/-- `submit`; `built` is what `PendingApproval(action=action, initial_decision=decision)`
returns or raises. -/
def submit (built : Result PendingApproval) : Result PendingApproval × ApprovalWorkflow :=
  match built with
  | .error e => (.error e, workflow)
  | .ok item => (.ok item, ⟨workflow.backend.enqueue item⟩)

def resolve (itemId : UUID) (verdict : DecisionVerdict) (resolver : PyStr)
    (notes : Option PyStr) (now : PyDatetime) : Result PendingApproval × ApprovalWorkflow :=
  let (resolved, backend) := workflow.backend.resolve itemId verdict resolver notes now
  (resolved, ⟨backend⟩)

def get (itemId : UUID) : Option PendingApproval := workflow.backend.get itemId

end ApprovalWorkflow

end AgentSentinel
