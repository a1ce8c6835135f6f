import AgentSentinel.Core.PolicyEngine
import AgentSentinel.Utils.JsonDumps

/-!
# AgentSentinel.Core.ArgsContains

What `args_contains` finds. It searches the text of `json.dumps`, in which the strings of the
arguments have their quotes, their backslashes and everything that is no printable character of
ASCII escaped: a needle is found where it occurs in what the encoder makes of a string.
-/

namespace AgentSentinel

open Lib

variable {rt : PyRuntime} {m : PyDict Value} {action : Action} {val : Value}
  {before after : List Value} {needle s : PyStr}

/-- Some string of the arguments has `s` in it. -/
def ArgumentsContain (action : Action) (s : PyStr) : Prop :=
  ∃ text, action.arguments.toValue.HoldsText text ∧ s <:+: text

/-- A search that comes to a needle that occurs finds one. -/
theorem anyNeedle_found {haystack : PyStr} (hbefore : ∀ w ∈ before, ∃ s, w = .str s)
    (hneedle : needle <:+: haystack) :
    anyNeedle haystack (before ++ .str needle :: after) = .ok true := by
  induction before with
  | nil => simp [anyNeedle, hneedle]
  | cons w before ih =>
      rw [List.forall_mem_cons] at hbefore
      obtain ⟨⟨s, rfl⟩, hrest⟩ := hbefore
      rw [List.cons_append, anyNeedle, ih hrest]
      split <;> rfl

/-- A string that the arguments contain occurs in their text as the encoder spells it. -/
theorem escape_infix_of_contain {haystack : PyStr} (h : ArgumentsContain action s)
    (hdumps : Json.dumps rt .default action.arguments.toValue = .ok haystack) :
    Json.escape true s <:+: haystack := by
  obtain ⟨text, hholds, hs⟩ := h
  have hdefault : JsonOptions.default.ensureAscii = true := rfl
  have hspelled := Json.escape_infix_of_holdsText hholds hdumps
  rw [hdefault] at hspelled
  exact (Json.escape_infix hs).trans hspelled

/-- **What is found.** A needle with only strings before it is found in arguments that contain
a string in whose escaped form it occurs; and printable characters of ASCII other than quotes
and backslashes are not escaped. -/
theorem argsContains_finds {haystack : PyStr}
    (hval : m.getNonNull (py "args_contains") = some val)
    (hneedles : ensureList val = before ++ .str needle :: after)
    (hbefore : ∀ w ∈ before, ∃ s, w = .str s)
    (hdumps : Json.dumps rt .default action.arguments.toValue = .ok haystack)
    (hcontain : ArgumentsContain action s) :
    (needle <:+: Json.escape true s → checkArgsContains rt m action = .ok true) ∧
      ((∀ c ∈ s, Json.Verbatim c) → Json.escape true s = s) := by
  refine ⟨fun hneedle => ?_, Json.escape_verbatim⟩
  rw [checkArgsContains, whenGiven, hval]
  simp only [hdumps, hneedles]
  exact anyNeedle_found hbefore (hneedle.trans (escape_infix_of_contain hcontain hdumps))

/-! ### Rules and actions with one entry -/

/-- An action with one argument. -/
def actionWith (key : PyStr) (v : Value) : Action :=
  { (default : Action) with arguments := PyDict.empty.set key v }

/-- A dictionary that looks for these needles. -/
def searching (needles : List Value) : PyDict Value :=
  PyDict.empty.set (py "args_contains") (.list needles)

theorem getNonNull_searching (needles : List Value) :
    (searching needles).getNonNull (py "args_contains") = some (.list needles) := by
  simp [searching, PyDict.getNonNull, Value.isNone]

theorem contain_actionWith {key text : PyStr} {v : Value} (h : v.HoldsText text)
    (hs : s <:+: text) : ArgumentsContain (actionWith key v) s :=
  ⟨text, .dict (List.mem_singleton_self _) h, hs⟩

theorem argsContains_finds_command :
    checkArgsContains default (searching [.str (py "rm -rf")])
      (actionWith (py "command") (.str (py "sudo rm -rf /"))) = .ok true := by
  have hinfix : py "rm -rf" <:+: py "sudo rm -rf /" := by decide
  have hdumps : Json.dumps default .default
      (actionWith (py "command") (.str (py "sudo rm -rf /"))).arguments.toValue =
        .ok (py "\x7b\"command\": \"sudo rm -rf /\"\x7d") := by decide
  have hneedles : ensureList (.list [.str (py "rm -rf")]) = [] ++ .str (py "rm -rf") :: [] := rfl
  have hfinds := argsContains_finds (getNonNull_searching _) hneedles (by simp) hdumps
    (contain_actionWith (.here _) hinfix)
  exact hfinds.1 (by decide)

/-! ### What is not found -/

/-- The condition as one may read it: a needle that the arguments contain is found. -/
def FindsContained (rt : PyRuntime) (m : PyDict Value) (action : Action) : Prop :=
  ∀ vals needle, m.getNonNull (py "args_contains") = some (.list vals) → .str needle ∈ vals →
    ArgumentsContain action needle → checkArgsContains rt m action = .ok true

/-- `"é"` -/
def eAcute : PyStr := [0xE9]

theorem not_findsContained {vals : List Value} {key text needle : PyStr} {v : Value}
    (hneedle : .str needle ∈ vals) (h : v.HoldsText text) (hs : needle <:+: text)
    (hmissed : checkArgsContains rt (searching vals) (actionWith key v) ≠ .ok true) :
    ¬ FindsContained rt (searching vals) (actionWith key v) := fun hfinds =>
  hmissed (hfinds vals needle (getNonNull_searching vals) hneedle (contain_actionWith h hs))

/-- A letter outside ASCII is escaped in the text and not found in the argument that it is.
A needle that is no string, and keys without an order, raise before anything is found. -/
theorem contained_missed :
    ¬ FindsContained default (searching [.str eAcute]) (actionWith (py "name") (.str eAcute)) ∧
    ¬ FindsContained default (searching [.int 1, .str (py "rm")])
      (actionWith (py "command") (.str (py "rm"))) ∧
    ¬ FindsContained default (searching [.str (py "rm")])
      (actionWith (py "steps") (.dict [(.int 1, .none), (.str (py "b"), .str (py "rm"))])) := by
  exact ⟨not_findsContained (List.mem_singleton_self _) (.here _) List.infix_rfl (by decide),
    not_findsContained (.tail _ (.head _)) (.here _) List.infix_rfl (by decide),
    not_findsContained (List.mem_singleton_self _)
      (.dict (.tail _ (.head _)) (.here _)) List.infix_rfl (by decide)⟩

end AgentSentinel
