import AgentSentinel.Lib.Trim
import AgentSentinel.Python.Value

/-!
# AgentSentinel.Api.BearerAuth

The bearer-token middleware. It compares the token a request presents with the configured
one in constant time, by a comparison that only takes ASCII strings.

Without these, and without a token that whitespace surrounds, it does what it is for: a
request gets past it if its path is public or it presents the token, and is refused
otherwise.
-/

namespace AgentSentinel

open Lib

/-- A `JSONResponse`. -/
structure JsonResponse where
  statusCode : ℕ
  content : PyDict PyStr

/-- What `dispatch` does with a request that it does not raise on: hand it on with
`call_next`, or answer it. -/
inductive AuthAnswer
  | forward
  | respond (response : JsonResponse)

/-- `hmac.compare_digest` on two strings. -/
def compareDigest (a b : PyStr) : Result Bool :=
  if a.all (· < 0x80) ∧ b.all (· < 0x80) then .ok (a == b)
  else .error ⟨.typeError, py "comparing strings with non-ASCII characters is not supported"⟩

namespace BearerAuth

/-- `_PUBLIC_PATHS` -/
def publicPaths : List PyStr :=
  [py "/healthz", py "/livez", py "/readyz", py "/metrics", py "/docs", py "/openapi.json",
    py "/redoc"]

def isPublic (path : PyStr) : Bool := publicPaths.contains path || path.startsWith (py "/static/")

def serviceUnconfigured : JsonResponse where
  statusCode := 503
  content := (PyDict.empty.set (py "error") (py "service_unconfigured")).set (py "detail")
    (py "SENTINEL_API_TOKEN not set")

def unauthorized : JsonResponse where
  statusCode := 401
  content := PyDict.empty.set (py "error") (py "unauthorized")

/-- `"Bearer "` -/
def scheme : PyStr := py "Bearer "

/-- `auth.removeprefix("Bearer ").strip()`, for a header that begins so. -/
def presented (auth : PyStr) : PyStr := PyStr.strip (auth.drop scheme.length)

/-- `dispatch`, with the configured token, the path of the request and its `authorization`
header. -/
def dispatch (token path : PyStr) (authorization : Option PyStr) : Result AuthAnswer :=
  if isPublic path then .ok .forward
  else if token.isEmpty then .ok (.respond serviceUnconfigured)
  else
    let auth := authorization.getD []
    if !auth.startsWith scheme then .ok (.respond unauthorized)
    else do
      let same ← compareDigest (presented auth) token
      return if same then .forward else .respond unauthorized

/-! ### What it is for -/

/-- The header presents the token: the scheme, and the token with whitespace around it. -/
def Presents (token : PyStr) (authorization : Option PyStr) : Prop :=
  ∃ auth ∈ authorization, ∃ rest, auth = scheme ++ rest ∧ PaddedTo PyStr.isSpace token rest

/-- Authentication is exact and total on a request: the middleware returns, forwards a
request that needs authentication if and only if a token is configured and presented, and
otherwise answers that it is unauthorized or that the service is not configured. -/
def Authenticates (token path : PyStr) (authorization : Option PyStr) : Prop :=
  ∃ answer, dispatch token path authorization = .ok answer ∧
    (isPublic path = false →
      (answer = .forward ↔ token ≠ [] ∧ Presents token authorization) ∧
      (answer = .forward ∨ ∃ response, answer = .respond response ∧
        (response.statusCode = 401 ∨ response.statusCode = 503)))

variable {token path auth : PyStr} {authorization : Option PyStr}

theorem compareDigest_ascii {a b : PyStr} (ha : a.all (· < 0x80) = true)
    (hb : b.all (· < 0x80) = true) : compareDigest a b = .ok (a == b) :=
  if_pos ⟨ha, hb⟩

theorem compareDigest_returns_iff {a b : PyStr} :
    (∃ same, compareDigest a b = .ok same) ↔
      a.all (· < 0x80) = true ∧ b.all (· < 0x80) = true := by
  unfold compareDigest
  split
  · next h => exact iff_of_true ⟨_, rfl⟩ h
  · next h => exact iff_of_false (by simp) h

/-- What is presented is the token exactly where the token is there with whitespace around
it, and has none of its own. -/
theorem presented_eq_iff (token : PyStr) (hscheme : scheme <+: auth) :
    presented auth = token ↔ Trimmed PyStr.isSpace token ∧ Presents token (some auth) := by
  obtain ⟨rest, rfl⟩ := hscheme
  have hrest : presented (scheme ++ rest) = trim PyStr.isSpace rest := by
    rw [presented, List.drop_left]
    rfl
  have hpresents : Presents token (some (scheme ++ rest)) ↔ PaddedTo PyStr.isSpace token rest := by
    simp [Presents]
  rw [hrest, trim_eq_iff, hpresents]

theorem not_presents_of_not_scheme (h : ¬ scheme <+: authorization.getD []) :
    ¬ Presents token authorization := by
  intro hpresents
  obtain ⟨auth, hauth, rest, rfl, -⟩ := hpresents
  obtain rfl := Option.mem_def.mp hauth
  exact h (List.prefix_append scheme rest)

/-- A request that comes as far as the comparison. -/
theorem dispatch_of_scheme (hpublic : isPublic path = false) (htoken : token ≠ [])
    (hscheme : scheme <+: auth) : dispatch token path (some auth) =
      (compareDigest (presented auth) token).map fun same =>
        if same then .forward else .respond unauthorized := by
  have hstarts : auth.startsWith scheme = true := PyStr.startsWith_iff.mpr hscheme
  simp only [dispatch, hpublic, Bool.false_eq_true, if_false, List.isEmpty_iff, htoken,
    Option.getD_some, hstarts, Bool.not_true]
  cases compareDigest (presented auth) token <;> rfl

theorem authenticates_of_unconfigured (hpublic : isPublic path = false) :
    Authenticates [] path authorization := by
  refine ⟨.respond serviceUnconfigured, ?_, fun _ => ⟨by simp, Or.inr ⟨_, rfl, Or.inr rfl⟩⟩⟩
  simp [dispatch, hpublic]

theorem authenticates_of_not_scheme (hpublic : isPublic path = false) (htoken : token ≠ [])
    (hscheme : ¬ scheme <+: authorization.getD []) : Authenticates token path authorization := by
  have hstarts : (authorization.getD []).startsWith scheme = false := by
    rw [← Bool.not_eq_true, PyStr.startsWith_iff]
    exact hscheme
  refine ⟨.respond unauthorized, ?_, fun _ => ⟨?_, Or.inr ⟨_, rfl, Or.inl rfl⟩⟩⟩
  · simp [dispatch, hpublic, htoken, hstarts]
  · simp [not_presents_of_not_scheme hscheme]

/-- The comparison decides as it should on ASCII strings, unless whitespace that belongs to
the token has been stripped. -/
theorem authenticates_iff_of_scheme (hpublic : isPublic path = false) (htoken : token ≠ [])
    (hscheme : scheme <+: auth) : Authenticates token path (some auth) ↔
      (presented auth).all (· < 0x80) = true ∧ token.all (· < 0x80) = true ∧
        (Trimmed PyStr.isSpace token ∨ ¬ Presents token (some auth)) := by
  have hsame := presented_eq_iff token hscheme
  unfold Authenticates
  rw [dispatch_of_scheme hpublic htoken hscheme]
  by_cases hascii : (presented auth).all (· < 0x80) = true ∧ token.all (· < 0x80) = true
  · rw [compareDigest_ascii hascii.1 hascii.2, and_iff_right hascii.1, and_iff_right hascii.2]
    by_cases heq : presented auth = token
    · refine iff_of_true ⟨.forward, ?_, fun _ => ⟨?_, Or.inl rfl⟩⟩ (Or.inl (hsame.mp heq).1)
      · simp [heq, Except.map]
      · simp [htoken, (hsame.mp heq).2]
    · have hmap : (Except.ok (presented auth == token) : Result Bool).map (fun same =>
          if same then AuthAnswer.forward else .respond unauthorized) =
            .ok (.respond unauthorized) := by
        simp [heq, Except.map]
      rw [hmap]
      constructor
      · intro h
        obtain ⟨answer, hanswer, hexact⟩ := h
        obtain rfl := Except.ok.inj hanswer
        obtain ⟨hforward, -⟩ := hexact hpublic
        simp only [reduceCtorEq, false_iff, not_and] at hforward
        exact Or.inr (hforward htoken)
      · intro h
        refine ⟨_, rfl, fun _ => ⟨?_, Or.inr ⟨_, rfl, Or.inl rfl⟩⟩⟩
        have hnot : ¬ Presents token (some auth) := by
          rcases h with htrimmed | hnot
          · exact fun hpresents => heq (hsame.mpr ⟨htrimmed, hpresents⟩)
          · exact hnot
        simp [hnot]
  · refine iff_of_false (fun h => ?_) fun h => hascii ⟨h.1, h.2.1⟩
    obtain ⟨answer, hanswer, -⟩ := h
    obtain ⟨same, hcompare, -⟩ := map_eq_ok.mp hanswer
    exact hascii (compareDigest_returns_iff.mp ⟨same, hcompare⟩)

/-- **Authentication is exact and total** but where the header begins with the scheme and
something in it or in the token is not ASCII, or presents a token that whitespace of its
own surrounds. -/
theorem authenticates_iff : Authenticates token path authorization ↔
    isPublic path = true ∨ token = [] ∨ ¬ scheme <+: authorization.getD [] ∨
      ((presented (authorization.getD [])).all (· < 0x80) = true ∧ token.all (· < 0x80) = true ∧
        (Trimmed PyStr.isSpace token ∨ ¬ Presents token authorization)) := by
  cases hpublic : isPublic path with
  | true => simp [Authenticates, dispatch, hpublic]
  | false =>
      by_cases htoken : token = []
      · subst htoken
        simp [authenticates_of_unconfigured hpublic]
      · by_cases hscheme : scheme <+: authorization.getD []
        · cases authorization with
          | none => exact absurd (List.prefix_nil.mp hscheme) (by decide)
          | some auth =>
              rw [Option.getD_some] at hscheme ⊢
              rw [authenticates_iff_of_scheme hpublic htoken hscheme]
              simp [htoken, hscheme]
        · simp [hscheme, authenticates_of_not_scheme hpublic htoken hscheme]

/-- A header with a letter outside ASCII makes the comparison raise. -/
theorem non_ascii_raises : ¬ ∀ (token path : PyStr) (authorization : Option PyStr),
    Authenticates token path authorization := by
  intro h
  have hexact := h (py "secret") (py "/v1/evaluate") (some (py "Bearer secrét"))
  rw [authenticates_iff_of_scheme (by decide) (by decide) (by decide)] at hexact
  exact absurd hexact.1 (by decide)

end BearerAuth

end AgentSentinel
