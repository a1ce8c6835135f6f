import Mathlib.Data.List.DropRight
import AgentSentinel.Python.Exceptions
import AgentSentinel.Python.Float

/-!
# AgentSentinel.Python.UrlParse

`urllib.parse.urlparse`, as far as its path. A URL is taken apart from the left: scheme,
network location, fragment, query, and the parameters of the last path segment.

Whether a network location in brackets is an address, and whether one outside ASCII
changes under normalization, is decided elsewhere in the library and may raise.
-/

namespace AgentSentinel

/-- `urlsplit`'s result. -/
structure SplitResult where
  scheme : PyStr
  netloc : PyStr
  path : PyStr
  query : PyStr
  fragment : PyStr

namespace UrlParse

/-- `s.split(c, 1)`, with an empty second part where there is no `c`. -/
def cut (s : PyStr) (c : CodePoint) : PyStr × PyStr :=
  (s.takeWhile (· ≠ c), (s.dropWhile (· ≠ c)).drop 1)

def isLetter (c : CodePoint) : Bool := (0x41 ≤ c && c ≤ 0x5A) || (0x61 ≤ c && c ≤ 0x7A)

/-- `scheme_chars`. -/
def isSchemeChar (c : CodePoint) : Bool :=
  isLetter c || (0x30 ≤ c && c ≤ 0x39) || decide (c ∈ py "+-.")

/-- What is stripped from the left, and what is removed everywhere. -/
def clean (url : PyStr) : PyStr :=
  (url.dropWhile (· ≤ 0x20)).filter (· ∉ py "\t\r\n")

def splitScheme (url : PyStr) : PyStr × PyStr :=
  match url.span (· ≠ 0x3A) with
  | (c :: head, _ :: rest) =>
    if isLetter c ∧ (c :: head).all isSchemeChar then (lowerAscii (c :: head), rest)
    else ([], url)
  | _ => ([], url)

def splitNetloc (url : PyStr) : PyStr × PyStr :=
  if url.startsWith (py "//") then (url.drop 2).span (· ∉ py "/?#")
  else ([], url)

/-- The checks of a network location. -/
def checked (checkNetloc : PyStr → Result Unit) (netloc : PyStr) : Result Unit :=
  let opened := decide (0x5B ∈ netloc)
  let closed := decide (0x5D ∈ netloc)
  if opened ≠ closed then .error ⟨.valueError, py "Invalid IPv6 URL"⟩
  else if opened ∨ netloc.any (0x80 ≤ ·) then checkNetloc netloc
  else .ok ()

def urlsplit (checkNetloc : PyStr → Result Unit) (url : PyStr) : Result SplitResult := do
  let (scheme, url) := splitScheme (clean url)
  let (netloc, url) := splitNetloc url
  checked checkNetloc netloc
  let (url, fragment) := cut url 0x23
  let (path, query) := cut url 0x3F
  return { scheme, netloc, path, query, fragment }

/-- `uses_params`. -/
def usesParams : List PyStr :=
  [[], py "ftp", py "hdl", py "prospero", py "http", py "imap", py "https", py "shttp",
    py "rtsp", py "rtsps", py "rtspu", py "sip", py "sips", py "mms", py "sftp", py "tel"]

/-- The path without the parameters of its last segment. -/
def dropParams (path : PyStr) : PyStr :=
  let segment := path.rtakeWhile (· ≠ 0x2F)
  path.rdropWhile (· ≠ 0x2F) ++ segment.takeWhile (· ≠ 0x3B)

/-- `urlparse(url).path`. -/
def path (checkNetloc : PyStr → Result Unit) (url : PyStr) : Result PyStr := do
  let parts ← urlsplit checkNetloc url
  return if usesParams.contains parts.scheme then dropParams parts.path else parts.path

end UrlParse

end AgentSentinel
