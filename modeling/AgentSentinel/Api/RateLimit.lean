import AgentSentinel.Api.Dependencies
import AgentSentinel.Lib.TokenBucket
import AgentSentinel.Lib.Transition
import Mathlib.Data.Rat.Defs

/-!
# AgentSentinel.Api.RateLimit

The rate limiter in front of the routes. Its buckets are keyed by the header as it comes,
while `get_tenant` serves an empty header as the default tenant, so that one tenant can have
two buckets. The documented bound holds of every tenant that is kept to one. Times and tokens
are rationals where the code has doubles.
-/

namespace AgentSentinel

open Lib

/-- The limiter: token buckets by what the header says. -/
structure TenantRateLimiter where
  rpm : ℤ
  burst : ℤ
  buckets : PyDict (TokenBucket ℚ)

namespace TenantRateLimiter

/-- `request.headers.get("x-tenant-id", "default")`. -/
def bucketKey (xTenantId : Option PyStr) : PyStr := xTenantId.getD (py "default")

/-- The key of a request says which tenant it is served as. -/
theorem servedAs_bucketKey (xTenantId : Option PyStr) :
    servedAs (some (bucketKey xTenantId)) = servedAs xTenantId := by
  cases xTenantId with
  | none => decide
  | some tenantId => rfl

/-- `_bucket`: the bucket of a key, a full one where there is none. -/
def bucket (limiter : TenantRateLimiter) (key : PyStr) (now : ℚ) : TokenBucket ℚ :=
  match limiter.buckets.get key with
  | some b => b
  | none => .full limiter.burst (limiter.rpm / 60) now

/-- `dispatch` up to the call of the route. The bucket is looked up, or created, at
`created`, and the token is taken at `now`. -/
def dispatch (limiter : TenantRateLimiter) (xTenantId : Option PyStr) (created now : ℚ) :
    Bool × TenantRateLimiter :=
  let key := bucketKey xTenantId
  let taken := (limiter.bucket key created).take now
  (taken.1, { limiter with buckets := limiter.buckets.set key taken.2 })

/-! ### One bucket -/

variable {limiter : TenantRateLimiter} {key : PyStr} {created : ℚ} {times : List ℚ}

theorem bucket_of_new (hnew : limiter.buckets.get key = none) :
    limiter.bucket key created = .full limiter.burst (limiter.rpm / 60) created := by
  simp [bucket, hnew]

/-- What is asked of a bucket through calls of `take` at the given times, each for the one token
of its default argument. -/
structure Bounded (b : TokenBucket ℚ) (times : List ℚ) : Prop where
  /-- After any number of the calls there is no debt and no overflow. -/
  tokens : ∀ n, 0 ≤ (b.takeAll (times.take n)).2.tokens ∧
    (b.takeAll (times.take n)).2.tokens ≤ b.capacity
  /-- A call that is rejected takes no tokens, and without it the same others succeed. -/
  rejected : ∀ before now later, times = before ++ now :: later →
    ((b.takeAll before).2.take now).1 = false →
      (b.takeAll before).2.tokens ≤ ((b.takeAll before).2.take now).2.tokens ∧
      (b.takeAll times).1 = (b.takeAll (before ++ later)).1
  /-- No window of time sees more successful calls than the capacity and its refill. -/
  window : ∀ a T, 0 ≤ T →
    (TokenBucket.within (b.takeAll times).1 a (a + T) : ℚ) ≤ b.capacity + b.refill * T

theorem Bounded.of_accounts {b : TokenBucket ℚ} (hnone : b.Accounts []) (hrefill : 0 ≤ b.refill)
    (horder : (b.last :: times).Pairwise (· ≤ ·)) : Bounded b times := by
  have haccounts (part : List ℚ) (hpart : part.Sublist times) :
      (b.takeAll part).2.Accounts (b.takeAll part).1 :=
    hnone.takeAll hrefill (horder.sublist (hpart.cons_cons _))
  constructor
  · intro n
    have h := haccounts _ (List.take_sublist n times)
    exact ⟨h.tokens_nonneg, h.tokens_le.trans_eq TokenBucket.takeAll_capacity⟩
  · rintro before now later rfl hrejected
    have h := haccounts before (List.sublist_append_left before _)
    have hlast : (b.takeAll before).2.last ≤ now := by
      rw [← List.cons_append] at horder
      exact (List.pairwise_append.mp horder).2.2 _ TokenBucket.takeAll_last_mem now (by simp)
    constructor
    · rw [TokenBucket.take_of_rejected hrejected]
      exact TokenBucket.le_refilled h.tokens_le (by rwa [TokenBucket.takeAll_refill]) hlast
    · exact TokenBucket.takeAll_of_rejected hrefill (List.pairwise_cons.mp horder).2 hrejected
  · intro a T hT
    have h := (haccounts times (List.Sublist.refl times)).window a (a + T)
      (le_add_of_nonneg_right hT)
    rw [TokenBucket.takeAll_capacity, TokenBucket.takeAll_refill, add_sub_cancel_left] at h
    rwa [mul_comm b.refill T]

/-- **One bucket**, from its creation by `_bucket` through any calls in the order of the
clock. -/
theorem bucket_bounded (hrpm : 0 ≤ limiter.rpm) (hburst : 0 ≤ limiter.burst)
    (hnew : limiter.buckets.get key = none) (horder : (created :: times).Pairwise (· ≤ ·)) :
    Bounded (limiter.bucket key created) times := by
  have hcapacity : (0 : ℚ) ≤ limiter.burst := by exact_mod_cast hburst
  have hrefill : (0 : ℚ) ≤ limiter.rpm / 60 := by positivity
  rw [bucket_of_new hnew]
  exact .of_accounts (TokenBucket.accounts_full hcapacity hrefill created) hrefill horder

/-- One call a second: of two calls within a second the second one is rejected. -/
theorem bucket_bounded_second :
    Bounded ((⟨60, 1, .empty⟩ : TenantRateLimiter).bucket (py "default") 0) [0, 1 / 2, 1, 1] :=
  bucket_bounded (by decide) (by decide) rfl (by norm_num)

end TenantRateLimiter

/-- A request that got past the limiter, and what `get_tenant` has answered it. -/
structure Passage where
  xTenantId : Option PyStr
  time : ℚ
  answer : Option (Except HTTPException TenantConfig)

namespace Passage

/-- What the limiter has seen of a request. -/
def arrival (p : Passage) : PyStr × ℚ := (TenantRateLimiter.bucketKey p.xTenantId, p.time)

/-- The request was served as `tenant`. -/
def servedFor (p : Passage) (tenant : PyStr) : Bool :=
  match p.answer with
  | some (.ok config) => config.tenantId == tenant
  | _ => false

/-- What `get_tenant` serves a request as is decided by the header. -/
theorem servedAs_of_servedFor {p : Passage} {tenants : TenantManager} {tenant : PyStr}
    (hanswer : p.answer = some (getTenant p.xTenantId tenants))
    (hserved : p.servedFor tenant = true) : servedAs p.xTenantId = tenant := by
  unfold servedFor at hserved
  cases hget : getTenant p.xTenantId tenants with
  | error e => simp [hanswer, hget] at hserved
  | ok config =>
      rw [← tenantId_of_getTenant hget]
      simpa [hanswer, hget] using hserved

end Passage

/-- The times at which requests got past the limiter under a key. -/
def passTimes (key : PyStr) (arrivals : List (PyStr × ℚ)) : List ℚ :=
  (arrivals.filter fun a => a.1 = key).map Prod.snd

@[simp] theorem passTimes_cons (key : PyStr) (a : PyStr × ℚ) (arrivals : List (PyStr × ℚ)) :
    passTimes key (a :: arrivals) =
      if a.1 = key then a.2 :: passTimes key arrivals else passTimes key arrivals := by
  by_cases h : a.1 = key <;> simp [passTimes, h]

theorem passTimes_eq_nil {key : PyStr} {arrivals : List (PyStr × ℚ)}
    (h : ∀ a ∈ arrivals, a.1 ≠ key) : passTimes key arrivals = [] := by
  simpa [passTimes] using fun k t hmem => h (k, t) hmem

/-- The limiter with the clock it reads, the tenants of the service and the requests that
got past it, the latest first. -/
structure ServiceWorld where
  clock : ℚ
  limiter : TenantRateLimiter
  tenants : TenantManager
  passages : List Passage

inductive ServiceEvent
  /-- Time passes. -/
  | advance (dt : ℚ)
  /-- A tenant is registered. -/
  | register (config : TenantConfig)
  /-- A request reaches the limiter, which takes `dt` to get to the token. -/
  | request (xTenantId : Option PyStr) (dt : ℚ)
  /-- `get_tenant` runs for one of the requests that passed. -/
  | resolve (i : ℕ)

namespace ServiceWorld

def step (w : ServiceWorld) : ServiceEvent → Option ServiceWorld
  | .advance dt => if 0 ≤ dt then some { w with clock := w.clock + dt } else none
  | .register config => some { w with tenants := w.tenants.register config }
  | .request xTenantId dt =>
    if 0 ≤ dt then
      let now := w.clock + dt
      let dispatched := w.limiter.dispatch xTenantId w.clock now
      some { w with
        clock := now
        limiter := dispatched.2
        passages := if dispatched.1 then ⟨xTenantId, now, none⟩ :: w.passages else w.passages }
    else none
  | .resolve i =>
    match w.passages[i]? with
    | some ⟨xTenantId, time, none⟩ =>
      some { w with
        passages := w.passages.set i ⟨xTenantId, time, some (getTenant xTenantId w.tenants)⟩ }
    | _ => none

/-- The runs of a limiter with the given configuration, which starts without buckets. -/
def runs (rpm burst : ℤ) : TransitionSystem ServiceWorld ServiceEvent where
  init w := w.limiter = ⟨rpm, burst, .empty⟩ ∧ w.passages = []
  step w e w' := w.step e = some w'

/-- The requests that passed between `a` and `e` and were served as `tenant`. -/
def servedBetween (w : ServiceWorld) (tenant : PyStr) (a e : ℚ) : ℕ :=
  w.passages.countP fun p => p.servedFor tenant ∧ a ≤ p.time ∧ p.time ≤ e

/-- A request for the tenant comes under the key of the bucket that the tenant has, if it
has one. -/
def OneBucket (tenant : PyStr) (w : ServiceWorld) : ServiceEvent → Prop
  | .request xTenantId _ => servedAs xTenantId = tenant →
      ∀ b ∈ w.limiter.buckets.entries, servedAs (some b.1) = tenant →
        b.1 = TenantRateLimiter.bucketKey xTenantId
  | _ => True

instance (tenant : PyStr) (w : ServiceWorld) : DecidablePred (OneBucket tenant w) := fun e => by
  cases e <;> unfold OneBucket <;> infer_instance

variable {rpm burst : ℤ} {tenant : PyStr} {w w' : ServiceWorld}

/-- A bucket of the limiter as the requests that passed under its key leave it. -/
structure InOrder (rpm burst : ℤ) (clock : ℚ) (passes : List ℚ) (b : TokenBucket ℚ) : Prop where
  capacity : b.capacity = burst
  refill : b.refill = rpm / 60
  past : b.last ≤ clock
  accounts : b.Accounts passes

/-- Waiting changes no bucket. -/
theorem InOrder.later {clock clock' : ℚ} {passes : List ℚ} {b : TokenBucket ℚ}
    (h : InOrder rpm burst clock passes b) (hclock : clock ≤ clock') :
    InOrder rpm burst clock' passes b :=
  { h with past := h.past.trans hclock }

theorem InOrder.take {clock now : ℚ} {passes : List ℚ} {b : TokenBucket ℚ} (hrpm : 0 ≤ rpm)
    (h : InOrder rpm burst clock passes b) (hnow : clock ≤ now) :
    InOrder rpm burst now (if (b.take now).1 then now :: passes else passes) (b.take now).2 where
  capacity := (b.take_capacity now).trans h.capacity
  refill := (b.take_refill now).trans h.refill
  past := (b.take_last now).le
  accounts := by
    have hrefill : 0 ≤ b.refill := by
      rw [h.refill]
      positivity
    exact h.accounts.take hrefill (h.past.trans hnow)

/-- What holds of the limiter and of the requests that passed it. -/
structure Accounted (rpm burst : ℤ) (w : ServiceWorld) : Prop where
  rpm_eq : w.limiter.rpm = rpm
  burst_eq : w.limiter.burst = burst
  bucket : ∀ key b, w.limiter.buckets.get key = some b →
    InOrder rpm burst w.clock (passTimes key (w.passages.map Passage.arrival)) b
  arrived : ∀ p ∈ w.passages,
    (w.limiter.buckets.get (TenantRateLimiter.bucketKey p.xTenantId)).isSome = true
  answered : ∀ p ∈ w.passages, ∀ tenant, p.servedFor tenant = true →
    servedAs p.xTenantId = tenant

/-- The bucket a request finds is in order, also where it is a new one. -/
theorem Accounted.found (hrpm : 0 ≤ rpm) (hburst : 0 ≤ burst) (h : w.Accounted rpm burst)
    (key : PyStr) : InOrder rpm burst w.clock
      (passTimes key (w.passages.map Passage.arrival)) (w.limiter.bucket key w.clock) := by
  unfold TenantRateLimiter.bucket
  cases hget : w.limiter.buckets.get key with
  | some b => exact h.bucket key b hget
  | none =>
      have hnone : passTimes key (w.passages.map Passage.arrival) = [] := by
        refine passTimes_eq_nil fun a ha hkey => ?_
        obtain ⟨p, hp, rfl⟩ := List.mem_map.mp ha
        have hfound := h.arrived p hp
        rw [show TenantRateLimiter.bucketKey p.xTenantId = key from hkey, hget] at hfound
        cases hfound
      rw [hnone, h.rpm_eq, h.burst_eq]
      refine ⟨rfl, rfl, le_refl _, TokenBucket.accounts_full ?_ ?_ _⟩
      · exact_mod_cast hburst
      · positivity

theorem Accounted.step (hrpm : 0 ≤ rpm) (hburst : 0 ≤ burst) {e : ServiceEvent}
    (h : w.Accounted rpm burst) (hstep : w.step e = some w') : w'.Accounted rpm burst := by
  cases e with
  | advance dt =>
      obtain ⟨hdt, hw⟩ := Option.ite_none_right_eq_some.mp hstep
      obtain rfl := Option.some.inj hw
      have hlater : w.clock ≤ w.clock + dt := le_add_of_nonneg_right hdt
      exact { h with bucket := fun key b hb => (h.bucket key b hb).later hlater }
  | register config =>
      obtain rfl := Option.some.inj hstep
      exact { h with }
  | request xTenantId dt =>
      obtain ⟨hdt, hw⟩ := Option.ite_none_right_eq_some.mp hstep
      obtain rfl := Option.some.inj hw
      have hnow : w.clock ≤ w.clock + dt := le_add_of_nonneg_right hdt
      have htaken := (h.found hrpm hburst (TenantRateLimiter.bucketKey xTenantId)).take hrpm hnow
      revert htaken
      generalize hb : (w.limiter.bucket (TenantRateLimiter.bucketKey xTenantId) w.clock).take
        (w.clock + dt) = taken
      intro htaken
      obtain ⟨passed, b'⟩ := taken
      simp only [TenantRateLimiter.dispatch, hb]
      -- What is counted under a key changes under this one only.
      have hpasses (key : PyStr) : passTimes key ((if passed = true then
            ⟨xTenantId, w.clock + dt, none⟩ :: w.passages else w.passages).map Passage.arrival) =
          if key = TenantRateLimiter.bucketKey xTenantId ∧ passed = true then
            (w.clock + dt) :: passTimes key (w.passages.map Passage.arrival)
          else passTimes key (w.passages.map Passage.arrival) := by
        cases passed <;> simp [Passage.arrival, eq_comm]
      refine ⟨h.rpm_eq, h.burst_eq, fun key b hget => ?_, fun p hp => ?_, fun p hp => ?_⟩
      · rw [hpasses key]
        rw [PyDict.get_set] at hget
        split at hget
        · next hkey =>
            rw [← Option.some.inj hget, hkey]
            simpa using htaken
        · next hkey =>
            have hother : ¬ (key = TenantRateLimiter.bucketKey xTenantId ∧ passed = true) :=
              fun hboth => hkey hboth.1
            rw [if_neg hother]
            exact (h.bucket key b hget).later hnow
      · rw [PyDict.get_set]
        split
        · rfl
        · next hkey =>
            cases passed with
            | false => exact h.arrived p hp
            | true =>
                rcases List.mem_cons.mp hp with rfl | hp
                · exact absurd rfl hkey
                · exact h.arrived p hp
      · cases passed with
        | false => exact h.answered p hp
        | true =>
            rcases List.mem_cons.mp hp with rfl | hp
            · intro tenant hserved
              cases hserved
            · exact h.answered p hp
  | resolve i =>
      simp only [ServiceWorld.step] at hstep
      split at hstep
      · next xTenantId time hi =>
          obtain rfl := Option.some.inj hstep
          have hpasses : (w.passages.set i
              ⟨xTenantId, time, some (getTenant xTenantId w.tenants)⟩).map Passage.arrival =
                w.passages.map Passage.arrival := by
            have hsame : w.passages.set i ⟨xTenantId, time, none⟩ = w.passages := by
              obtain ⟨hlt, hget⟩ := List.getElem?_eq_some_iff.mp hi
              rw [← hget, List.set_getElem_self]
            calc (w.passages.set i ⟨xTenantId, time, some (getTenant xTenantId w.tenants)⟩).map
                  Passage.arrival
                = (w.passages.set i ⟨xTenantId, time, none⟩).map Passage.arrival := by
                  rw [List.map_set, List.map_set]
                  rfl
              _ = w.passages.map Passage.arrival := by rw [hsame]
          refine ⟨h.rpm_eq, h.burst_eq, fun key b hget => ?_, fun p hp => ?_, fun p hp => ?_⟩
          · rw [hpasses]
            exact h.bucket key b hget
          · rcases List.mem_or_eq_of_mem_set hp with hp | rfl
            · exact h.arrived p hp
            · exact h.arrived ⟨xTenantId, time, none⟩ (List.mem_of_getElem? hi)
          · rcases List.mem_or_eq_of_mem_set hp with hp | rfl
            · exact h.answered p hp
            · intro tenant hserved
              exact Passage.servedAs_of_servedFor rfl hserved
      · cases hstep

theorem accounted_of_reachable (hrpm : 0 ≤ rpm) (hburst : 0 ≤ burst)
    (h : (runs rpm burst).Reachable w) : w.Accounted rpm burst := by
  refine h.invariant (fun w hinit => ?_) fun w e w' _ ih hstep => ih.step hrpm hburst hstep
  obtain ⟨hlimiter, hnone⟩ := hinit
  constructor
  · rw [hlimiter]
  · rw [hlimiter]
  · intro key b hget
    rw [hlimiter] at hget
    cases hget
  · simp [hnone]
  · simp [hnone]

/-- The tenant has one key at most. -/
def OneKey (tenant : PyStr) (w : ServiceWorld) : Prop :=
  ∃ key, ∀ b ∈ w.limiter.buckets.entries, servedAs (some b.1) = tenant → b.1 = key

theorem OneKey.step {e : ServiceEvent} (h : w.OneKey tenant) (hone : w.OneBucket tenant e)
    (hstep : w.step e = some w') : w'.OneKey tenant := by
  obtain ⟨key, hkey⟩ := h
  cases e with
  | advance dt =>
      obtain ⟨-, hw⟩ := Option.ite_none_right_eq_some.mp hstep
      obtain rfl := Option.some.inj hw
      exact ⟨key, hkey⟩
  | register config =>
      obtain rfl := Option.some.inj hstep
      exact ⟨key, hkey⟩
  | request xTenantId dt =>
      obtain ⟨-, hw⟩ := Option.ite_none_right_eq_some.mp hstep
      obtain rfl := Option.some.inj hw
      refine ⟨if servedAs xTenantId = tenant then TenantRateLimiter.bucketKey xTenantId else key,
        fun b hb hserved => ?_⟩
      have hget := PyDict.get_eq_some_iff.mpr hb
      simp only [TenantRateLimiter.dispatch, PyDict.get_set] at hget
      split at hget
      · next hnew =>
          rw [hnew, TenantRateLimiter.servedAs_bucketKey] at hserved
          rw [if_pos hserved, hnew]
      · have hold := PyDict.get_eq_some_iff.mp hget
        split
        · next hasked => exact hone hasked b hold hserved
        · exact hkey b hold hserved
  | resolve i =>
      simp only [ServiceWorld.step] at hstep
      split at hstep
      · obtain rfl := Option.some.inj hstep
        exact ⟨key, hkey⟩
      · cases hstep

/-- Of a tenant with one key, no more requests are served than passed under it. -/
theorem OneKey.servedBetween_le (h : w.OneKey tenant) (haccounted : w.Accounted rpm burst) :
    ∃ key, ∀ a e, w.servedBetween tenant a e ≤
      TokenBucket.within (passTimes key (w.passages.map Passage.arrival)) a e := by
  obtain ⟨key, hkey⟩ := h
  refine ⟨key, fun a e => ?_⟩
  rw [servedBetween, TokenBucket.within, passTimes, List.countP_map, List.countP_filter,
    List.countP_map]
  refine List.countP_mono_left fun p hp hserved => ?_
  simp only [Bool.and_eq_true, decide_eq_true_eq, Function.comp] at hserved ⊢
  obtain ⟨hserved, hin⟩ := hserved
  obtain ⟨b, hb⟩ := Option.isSome_iff_exists.mp (haccounted.arrived p hp)
  refine ⟨hin, hkey _ (PyDict.get_eq_some_iff.mp hb) ?_⟩
  rw [TenantRateLimiter.servedAs_bucketKey]
  exact haccounted.answered p hp tenant hserved

/-- A tenant other than the default one has no second key. -/
theorem oneBucket_of_ne_default (h : tenant ≠ py "default") (w : ServiceWorld)
    (e : ServiceEvent) : w.OneBucket tenant e := by
  have hkey (xTenantId : Option PyStr) (hserved : servedAs xTenantId = tenant) :
      xTenantId = some tenant := by
    unfold servedAs at hserved
    split at hserved
    · exact absurd hserved.symm h
    · exact absurd hserved.symm h
    · rw [hserved]
  cases e with
  | request xTenantId dt =>
      intro hasked b _ hserved
      rw [hkey xTenantId hasked, Option.some.inj (hkey (some b.1) hserved)]
      rfl
  | _ => trivial

/-- **The bound.** While a tenant is kept to one bucket, no window of time sees more of its
requests served than the burst and the rate allow. -/
theorem tenant_rate_bounded (hrpm : 0 ≤ rpm) (hburst : 0 ≤ burst) (tenant : PyStr)
    (h : ((runs rpm burst).restrict (OneBucket tenant)).Reachable w) {a T : ℚ} (hT : 0 ≤ T) :
    (w.servedBetween tenant a (a + T) : ℚ) ≤ burst + rpm / 60 * T := by
  have haccounted := accounted_of_reachable hrpm hburst h.of_restrict
  have hone : w.OneKey tenant := by
    refine h.invariant (fun w hinit => ⟨[], fun b hb => ?_⟩) fun w e w' _ ih hstep =>
      ih.step hstep.2 hstep.1
    rw [hinit.1] at hb
    cases hb
  obtain ⟨key, hkey⟩ := hone.servedBetween_le haccounted
  have hbucket := haccounted.found hrpm hburst key
  have hwindow := hbucket.accounts.window a (a + T) (le_add_of_nonneg_right hT)
  rw [hbucket.capacity, hbucket.refill, add_sub_cancel_left] at hwindow
  calc (w.servedBetween tenant a (a + T) : ℚ)
      ≤ TokenBucket.within (passTimes key (w.passages.map Passage.arrival)) a (a + T) := by
        exact_mod_cast hkey a (a + T)
    _ ≤ burst + T * (rpm / 60) := hwindow
    _ = burst + rpm / 60 * T := by ring

/-- A fresh limiter in front of a service with the default tenant. -/
def fresh (rpm burst : ℤ) : ServiceWorld := ⟨0, ⟨rpm, burst, .empty⟩, .withDefault, []⟩

/-- With one request a minute the second of two is turned away, and the first served. -/
theorem tenant_rate_bounded_default : ∃ w,
    ((runs 1 1).restrict (OneBucket (py "default"))).Reachable w ∧
      w.servedBetween (py "default") 0 (0 + 30) = 1 ∧
      (w.servedBetween (py "default") 0 (0 + 30) : ℚ) ≤ (1 : ℤ) + (1 : ℤ) / 60 * 30 := by
  have hrun : (([.request none 1, .resolve 0, .request (some (py "default")) 1] :
      List ServiceEvent).foldlM (fun w e => if OneBucket (py "default") w e then w.step e else none)
        (fresh 1 1)).map (fun w => w.servedBetween (py "default") 0 (0 + 30)) = some 1 := by
    decide +kernel
  obtain ⟨w, hw, hserved⟩ := Option.map_eq_some_iff.mp hrun
  have hreachable : ((runs 1 1).restrict (OneBucket (py "default"))).Reachable w :=
    .replay_restrict (fun _ _ _ h => h) ⟨rfl, rfl⟩ _ hw
  exact ⟨w, hreachable, hserved,
    tenant_rate_bounded (by decide) (by decide) (py "default") hreachable (by norm_num)⟩

/-- A request without the header and one with an empty one take a token each, from two
buckets, and are both served as the default tenant. -/
theorem empty_header_doubles : ¬ ∀ (rpm burst : ℤ) (tenant : PyStr) (w : ServiceWorld) (a T : ℚ),
    0 ≤ rpm → 0 ≤ burst → (runs rpm burst).Reachable w → 0 ≤ T →
      (w.servedBetween tenant a (a + T) : ℚ) ≤ burst + rpm / 60 * T := by
  intro h
  have hrun : (([.request none 0, .request (some []) 0, .resolve 0, .resolve 1] :
      List ServiceEvent).foldlM ServiceWorld.step (fresh 60 1)).map
        (fun w => w.servedBetween (py "default") 0 (0 + 0)) = some 2 := by
    decide +kernel
  obtain ⟨w, hw, hserved⟩ := Option.map_eq_some_iff.mp hrun
  have hreachable : (runs 60 1).Reachable w :=
    .replay (fun _ _ _ h => h) (.init ⟨rfl, rfl⟩) _ hw
  have hbound := h 60 1 (py "default") w 0 0 (by decide) (by decide) hreachable (le_refl 0)
  rw [hserved] at hbound
  norm_num at hbound

end ServiceWorld

end AgentSentinel
