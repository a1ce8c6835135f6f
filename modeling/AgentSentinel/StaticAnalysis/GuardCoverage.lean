import AgentSentinel.StaticAnalysis.GuardChecker

/-!
# AgentSentinel.StaticAnalysis.GuardCoverage

Which calls the guard scanner reports, as a matter of where a call stands in the syntax tree.
The scanner is a traversal that hands its stack down, and the flag of a function is on the
stack for all of its parts: its body, and also its decorators, its defaults and its
annotations.
-/

namespace AgentSentinel

open Lib Lib.Traversal

namespace Ast

/-! ### Parts and addresses -/

/-- The nodes of a field that is a list, from the place `i` on. -/
def numbered (part : ℕ → Part) (i : ℕ) : List Ast → List (Part × Ast)
  | [] => []
  | node :: nodes => (part i, node) :: numbered part (i + 1) nodes

/-- The child nodes of a node in the order of its fields. -/
def parts : Ast → List (Part × Ast)
  | .name _ => []
  | .attr value _ => [(.value, value)]
  | .call _ _ func args keywords =>
    (.func, func) :: (numbered .arg 0 args ++ numbered .keyword 0 keywords)
  | .functionDef _ args body decoratorList returns typeParams =>
    (.args, args) :: (numbered .body 0 body ++ (numbered .decorator 0 decoratorList ++
      ((returns.toList.map fun node => (.returns, node)) ++ numbered .typeParam 0 typeParams)))
  | .other children => numbered .child 0 children

theorem map_fst_numbered (part : ℕ → Part) (i : ℕ) (nodes : List Ast) :
    (numbered part i nodes).map Prod.fst = (List.range' i nodes.length).map part := by
  induction nodes generalizing i with
  | nil => rfl
  | cons node nodes ih => simp [numbered, ih, List.range'_succ]

theorem nodup_numbered {part : ℕ → Part} (hpart : Function.Injective part) (i : ℕ)
    (nodes : List Ast) : ((numbered part i nodes).map Prod.fst).Nodup := by
  rw [map_fst_numbered]
  exact List.Nodup.map hpart List.nodup_range'

/-- Different parts of a node are reached by different steps. -/
theorem nodup_parts (node : Ast) : (node.parts.map Prod.fst).Nodup := by
  have harg := nodup_numbered (fun i j h => Part.arg.inj h)
  have hkeyword := nodup_numbered (fun i j h => Part.keyword.inj h)
  have hbody := nodup_numbered (fun i j h => Part.body.inj h)
  have hdecorator := nodup_numbered (fun i j h => Part.decorator.inj h)
  have htypeParam := nodup_numbered (fun i j h => Part.typeParam.inj h)
  have hchild := nodup_numbered (fun i j h => Part.child.inj h)
  cases node with
  | name id => exact List.nodup_nil
  | attr value attr => exact List.nodup_singleton _
  | call line column func args keywords =>
    simp only [parts, List.map_cons, List.map_append, List.nodup_cons, List.nodup_append, harg,
      hkeyword]
    simp [map_fst_numbered]
  | functionDef isAsync args body decoratorList returns typeParams =>
    simp only [parts, List.map_cons, List.map_append, List.nodup_cons, List.nodup_append, hbody,
      hdecorator, htypeParam]
    cases returns <;> grind [map_fst_numbered]
  | other children => exact hchild 0 children

/-! ### Names and attribute chains -/

/-- What a chain of attribute accesses starts from. -/
def root : Ast → Ast
  | .attr value _ => root value
  | node => node

/-- The attributes that a chain of accesses reads, from the root on. -/
def attributes : Ast → List Identifier
  | .attr value field => attributes value ++ [field]
  | _ => []

/-- Identifiers joined by dots. -/
def spell (first : Identifier) (rest : List Identifier) : PyStr :=
  rest.foldl (fun base name => base ++ py "." ++ name) first

/-- The spelling of a name or of a chain of attribute accesses rooted at a name. -/
def spelling (node : Ast) : Option PyStr :=
  match root node with
  | .name id => some (spell id (attributes node))
  | _ => none

/-- The spelling of the attributes read from a computed value. -/
def computedSpelling (node : Ast) : Option PyStr :=
  match root node, attributes node with
  | .name _, _ => none
  | _, [] => none
  | _, first :: rest => some (spell first rest)

theorem spell_concat (first : Identifier) (rest : List Identifier) (name : Identifier) :
    spell first (rest ++ [name]) = spell first rest ++ py "." ++ name := by
  simp [spell]

theorem spell_ne_nil (first : Identifier) (rest : List Identifier) : spell first rest ≠ [] := by
  induction rest using List.reverseRecOn with
  | nil => exact first.property
  | append_singleton rest name ih =>
    rw [spell_concat]
    simp [ih]

theorem spelling_of_computedSpelling {node : Ast} {name : PyStr}
    (h : computedSpelling node = some name) : spelling node = none := by
  unfold computedSpelling at h
  unfold spelling
  split at h
  · cases h
  · cases h
  · split
    · simp_all
    · rfl

/-- `_dotted` gives the spelling of a chain rooted at a name, and for a chain rooted at
anything else the spelling of its attributes alone. -/
theorem dotted_eq (node : Ast) : dotted node = (spelling node).or (computedSpelling node) := by
  induction node using root.induct with
  | case1 value field ih =>
    have hroot : root (.attr value field) = root value := rfl
    have hattributes : attributes (.attr value field) = attributes value ++ [field] := rfl
    rw [dotted, ih]
    unfold spelling computedSpelling
    rw [hroot, hattributes]
    -- What the chain of `value` starts from and reads decides both sides.
    generalize root value = start
    generalize attributes value = names
    have hsingle : spell field [] = field := rfl
    cases start with
    | name id => simp [spell_concat, spell_ne_nil]
    | _ => cases names <;> simp [spell_concat, spell_ne_nil, hsingle]
  | case2 node hnode =>
    cases node with
    | name id => rfl
    | attr value field => exact absurd rfl (hnode value field)
    | call line column func args keywords => rfl
    | functionDef isAsync args body decoratorList returns typeParams => rfl
    | other children => rfl

end Ast

namespace GuardScanner

variable {path : PyStr} {stack stack' : List Bool} {node tree : Ast} {p : NodeAddress}

/-! ### The scanner as a traversal -/

theorem visitAll_eq (part : ℕ → Part) (i : ℕ) (nodes : List Ast) :
    visitAll path stack part i nodes =
      (Ast.numbered part i nodes).flatMap fun q => under q (visit path stack q.2) := by
  induction nodes generalizing i with
  | nil => rfl
  | cons node nodes ih => rw [visitAll, Ast.numbered, List.flatMap_cons, ih]

/-- `visit_FunctionDef` and `visit_AsyncFunctionDef` push the flag of the function. -/
def enter (stack : List Bool) : Ast → List Bool
  | .functionDef _ _ _ decoratorList _ _ => stack ++ [hasGuardDecorator decoratorList]
  | _ => stack

/-- What is appended at the node itself. -/
def own (path : PyStr) (stack : List Bool) : Ast → List GuardViolation
  | .call line column func _ _ => violationOf path stack line column func
  | _ => []

theorem isPreorder_visit (path : PyStr) :
    IsPreorder Ast.parts enter (own path) (visit path) := by
  intro stack node
  cases node with
  | name id => rfl
  | attr value attr => simp [visit, Ast.parts, own, enter]
  | call line column func args keywords =>
    simp only [visit, Ast.parts, own, enter, visitAll_eq, List.flatMap_cons, List.flatMap_append,
      List.append_assoc]
  | functionDef isAsync args body decoratorList returns typeParams =>
    cases returns with
    | none =>
      simp [visit, visitOptional, Ast.parts, own, enter, visitAll_eq]
    | some node =>
      simp [visit, visitOptional, Ast.parts, own, enter, visitAll_eq]
  | other children => simp [visit, Ast.parts, own, enter, visitAll_eq]

/-! ### What is reported -/

/-- A call of `func` at an address. -/
def CallAt (tree : Ast) (p : NodeAddress) (func : Ast) : Prop :=
  ∃ line column args keywords, At Ast.parts tree p (.call line column func args keywords)

theorem CallAt.unique {func func' : Ast} (h : CallAt tree p func) (h' : CallAt tree p func') :
    func = func' := by
  obtain ⟨_, _, _, _, hat⟩ := h
  obtain ⟨_, _, _, _, hat'⟩ := h'
  have hsame := hat.unique Ast.nodup_parts hat'
  injection hsame

/-- A function with a guard decorator. -/
def Guarded : Ast → Prop
  | .functionDef _ _ _ decoratorList _ _ => hasGuardDecorator decoratorList = true
  | _ => False

/-- The node is part of a function with a guard decorator. -/
def InGuarded (tree : Ast) (p : NodeAddress) : Prop :=
  ∃ f s, GoesThrough Ast.parts tree p f s ∧ Guarded f

/-- The node is in the body of a function with a guard decorator. -/
def InGuardedBody (tree : Ast) (p : NodeAddress) : Prop :=
  ∃ f i, GoesThrough Ast.parts tree p f (.body i) ∧ Guarded f

/-- `_dotted` gives the callee a sensitive name. -/
def TakenForSensitive (func : Ast) : Prop := ∃ name ∈ sensitiveNames, dotted func = some name

/-- The callee is a dotted name, and a sensitive one. -/
def Sensitive (func : Ast) : Prop := ∃ name ∈ sensitiveNames, func.spelling = some name

theorem any_enter (stack : List Bool) (node : Ast) :
    (enter stack node).any id = true ↔ stack.any id = true ∨ Guarded node := by
  cases node <;> simp [enter, Guarded]

/-- At a node a flag of the stack is set exactly where the node is part of a function with a
guard decorator. -/
theorem any_stack_iff (h : Carries Ast.parts enter [false] tree p stack node) :
    stack.any id = true ↔ InGuarded tree p := by
  have hiff := h.context_iff (Q := fun stack => stack.any id = true) Ast.nodup_parts any_enter
  simpa [InGuarded] using hiff

theorem violationOf_eq {line column : ℤ} {func : Ast} {callee : PyStr}
    (hdotted : dotted func = some callee) (hsensitive : callee ∈ sensitiveNames)
    (hstack : stack.any id = false) : violationOf path stack line column func =
      [⟨path, line, column, callee, py "unguarded sensitive call: " ++ callee⟩] := by
  have hempty : callee.isEmpty = false := by
    have hnil : ([] : PyStr) ∉ sensitiveNames := by decide
    rw [List.isEmpty_eq_false_iff]
    rintro rfl
    exact hnil hsensitive
  unfold violationOf
  simp [hdotted, hempty, hstack, hsensitive]

theorem violationOf_eq_nil {line column : ℤ} {func : Ast}
    (h : ¬ (TakenForSensitive func ∧ stack.any id = false)) :
    violationOf path stack line column func = [] := by
  unfold violationOf
  split
  · rename_i callee hdotted
    rw [if_neg]
    intro hall
    simp only [Bool.and_eq_true, Bool.not_eq_true', List.contains_iff_mem] at hall
    exact h ⟨⟨callee, hall.1.2, hdotted⟩, hall.2⟩
  · rfl

/-- What is reported for a call: one violation where its callee is taken for sensitive and it
is not part of a function with a guard decorator, else none. -/
theorem countP_reports (path : PyStr) {func : Ast} (hcall : CallAt tree p func) :
    (TakenForSensitive func ∧ ¬ InGuarded tree p →
      (reports path tree).countP (fun r => r.1 = p) = 1) ∧
    (¬ (TakenForSensitive func ∧ ¬ InGuarded tree p) →
      (reports path tree).countP (fun r => r.1 = p) = 0) := by
  obtain ⟨line, column, args, keywords, hat⟩ := hcall
  obtain ⟨stack, hcarries⟩ := hat.carries enter [false]
  have hfilter := filter_visit (isPreorder_visit path) Ast.nodup_parts hcarries
  have hstack : stack.any id = false ↔ ¬ InGuarded tree p := by
    rw [← any_stack_iff hcarries, Bool.not_eq_true]
  rw [List.countP_eq_length_filter, reports, hfilter, List.length_map, own, ← hstack]
  constructor
  · rintro ⟨⟨callee, hsensitive, hdotted⟩, hnone⟩
    rw [violationOf_eq hdotted hsensitive hnone]
    rfl
  · intro h
    rw [violationOf_eq_nil h]
    rfl

/-- A report is about a call, and its violation gives the place and the callee of the call. -/
theorem report_eq {r : Report} (h : r ∈ reports path tree) :
    ∃ line column func args keywords callee,
      At Ast.parts tree r.1 (.call line column func args keywords) ∧
      dotted func = some callee ∧
      r.2 = ⟨path, line, column, callee, py "unguarded sensitive call: " ++ callee⟩ := by
  obtain ⟨stack, node, hcarries, hown⟩ := (mem_visit_iff (isPreorder_visit path)).mp h
  cases node with
  | call line column func args keywords =>
    simp only [own, violationOf] at hown
    split at hown
    · rename_i callee hdotted
      split at hown
      · exact ⟨line, column, func, args, keywords, callee, hcarries.at, hdotted,
          List.mem_singleton.mp hown⟩
      · cases hown
    · cases hown
  | _ => cases hown

/-- A call is reported exactly where its callee is taken for sensitive, outside functions
with a guard decorator. -/
theorem reported_iff (path : PyStr) {func : Ast} (hcall : CallAt tree p func) :
    (∃ v, (p, v) ∈ reports path tree) ↔ TakenForSensitive func ∧ ¬ InGuarded tree p := by
  obtain ⟨hone, hnone⟩ := countP_reports path hcall
  constructor
  · rintro ⟨v, hv⟩
    by_contra h
    exact absurd (List.countP_eq_zero.mp (hnone h) (p, v) hv) (by simp)
  · intro h
    have hpos : 0 < (reports path tree).countP (fun r => r.1 = p) := by rw [hone h]; decide
    obtain ⟨r, hr, heq⟩ := List.countP_pos_iff.mp hpos
    obtain rfl : r.1 = p := by simpa using heq
    exact ⟨r.2, hr⟩

/-- The scanner accepts a module exactly where every call whose callee is taken for sensitive
is part of a function with a guard decorator. -/
theorem violations_eq_nil_iff : violations path tree = [] ↔
    ∀ p func, CallAt tree p func → TakenForSensitive func → InGuarded tree p := by
  rw [violations, List.map_eq_nil_iff, List.eq_nil_iff_forall_not_mem]
  constructor
  · intro h p func hcall htaken
    by_contra hunguarded
    obtain ⟨v, hv⟩ := (reported_iff path hcall).mpr ⟨htaken, hunguarded⟩
    exact h (p, v) hv
  · intro h r hr
    obtain ⟨line, column, func, args, keywords, -, hat, -⟩ := report_eq hr
    have hcall : CallAt tree r.1 func := ⟨line, column, args, keywords, hat⟩
    obtain ⟨htaken, hunguarded⟩ := (reported_iff path hcall).mp ⟨r.2, hr⟩
    exact hunguarded (h r.1 func hcall htaken)

theorem Sensitive.taken {func : Ast} (h : Sensitive func) : TakenForSensitive func := by
  obtain ⟨name, hname, hspelling⟩ := h
  exact ⟨name, hname, by rw [Ast.dotted_eq, hspelling]; rfl⟩

/-- Every sensitive call outside the bodies of guarded functions is reported exactly once,
exactly where no such call stands in another part of a guarded function: its decorators, its
arguments with their defaults and annotations, its return annotation. -/
theorem missesNone_iff (path : PyStr) (tree : Ast) :
    (∀ p func, CallAt tree p func → Sensitive func → ¬ InGuardedBody tree p →
        (reports path tree).countP (fun r => r.1 = p) = 1) ↔
      ∀ p func, CallAt tree p func → Sensitive func → InGuarded tree p →
        InGuardedBody tree p := by
  constructor
  · intro h p func hcall hsensitive hguarded
    by_contra hbody
    have hcount := (countP_reports path hcall).2 fun hreported =>
      hreported.2 hguarded
    rw [h p func hcall hsensitive hbody] at hcount
    cases hcount
  · intro h p func hcall hsensitive hbody
    have hunguarded : ¬ InGuarded tree p := fun hguarded =>
      hbody (h p func hcall hsensitive hguarded)
    exact (countP_reports path hcall).1 ⟨hsensitive.taken, hunguarded⟩

/-- What is reported is a sensitive call outside guarded functions, exactly where no such call
reads the spelling of a sensitive name from a computed value. -/
theorem neverGuesses_iff (path : PyStr) (tree : Ast) :
    (∀ r ∈ reports path tree, ∃ func, CallAt tree r.1 func ∧ Sensitive func ∧
        ¬ InGuarded tree r.1) ↔
      ∀ p func, CallAt tree p func → ¬ InGuarded tree p →
        ∀ name ∈ sensitiveNames, func.computedSpelling ≠ some name := by
  constructor
  -- Such a call would be reported, and it is the only call at its address.
  · intro h p func hcall hunguarded name hname hcomputed
    have htaken : TakenForSensitive func :=
      ⟨name, hname, by
        rw [Ast.dotted_eq, Ast.spelling_of_computedSpelling hcomputed, hcomputed]
        rfl⟩
    obtain ⟨v, hv⟩ := (reported_iff path hcall).mpr ⟨htaken, hunguarded⟩
    obtain ⟨func', hcall', ⟨name', -, hspelling⟩, -⟩ := h (p, v) hv
    obtain rfl := hcall'.unique hcall
    rw [Ast.spelling_of_computedSpelling hcomputed] at hspelling
    cases hspelling
  · intro h r hr
    obtain ⟨line, column, func, args, keywords, -, hat, -⟩ := report_eq hr
    have hcall : CallAt tree r.1 func := ⟨line, column, args, keywords, hat⟩
    obtain ⟨⟨name, hname, hdotted⟩, hunguarded⟩ := (reported_iff path hcall).mp ⟨r.2, hr⟩
    refine ⟨func, hcall, ?_, hunguarded⟩
    rw [Ast.dotted_eq] at hdotted
    cases hspelling : func.spelling with
    | some spelled =>
      rw [hspelling] at hdotted
      exact ⟨name, hname, hspelling.trans hdotted⟩
    | none =>
      rw [hspelling] at hdotted
      exact absurd hdotted (h r.1 func hcall hunguarded name hname)

/-! ### A missed call and a guessed one -/

/-- `@guard def f(x=open("a")): pass` -/
def guardedDefault : Ast :=
  .other [.functionDef false
    (.other [.other [], .call 2 8 (.name ⟨py "open", by decide⟩) [.other []] []]) [.other []]
    [.name ⟨py "guard", by decide⟩] none []]

/-- The call in a default of a guarded function is outside its body, and is not reported. -/
theorem default_missed : ∃ p func, CallAt guardedDefault p func ∧ Sensitive func ∧
    ¬ InGuardedBody guardedDefault p ∧
    (reports (py "m.py") guardedDefault).countP (fun r => r.1 = p) = 0 := by
  have hcall : CallAt guardedDefault [.child 0, .args, .child 1] (.name ⟨py "open", by decide⟩) :=
    ⟨2, 8, _, _, .step (.head _) (.step (.head _) (.step (.tail _ (.head _)) (.here _)))⟩
  refine ⟨_, _, hcall, ⟨py "open", by decide, rfl⟩, ?_,
    (countP_reports (py "m.py") hcall).2 fun h => h.2 ?_⟩
  -- The address goes through the arguments and through no body.
  · rintro ⟨f, i, ⟨q, rest, hp, -⟩, -⟩
    have hbody : Part.body i ∈ [Part.child 0, .args, .child 1] := by
      rw [hp]
      simp
    simp at hbody
  · exact ⟨_, .args, ⟨[.child 0], [.child 1], rfl, .step (.head _) (.here _)⟩, by
      unfold Guarded
      decide⟩

/-- `Path("x").open()` -/
def methodCall : Ast :=
  .other [.other [.call 1 0
    (.attr (.call 1 0 (.name ⟨py "Path", by decide⟩) [.other []] []) ⟨py "open", by decide⟩) [] []]]

/-- A method of a computed value is reported under the name of a sensitive function. -/
theorem method_reported : ∃ r ∈ reports (py "m.py") methodCall,
    ∀ func, CallAt methodCall r.1 func → ¬ Sensitive func := by
  have hcall : CallAt methodCall [.child 0, .child 0] (.attr (.call 1 0
      (.name ⟨py "Path", by decide⟩) [.other []] []) ⟨py "open", by decide⟩) :=
    ⟨1, 0, _, _, .step (.head _) (.step (.head _) (.here _))⟩
  have hreports : reports (py "m.py") methodCall = [([.child 0, .child 0],
      ⟨py "m.py", 1, 0, py "open", py "unguarded sensitive call: open"⟩)] := rfl
  refine ⟨_, by rw [hreports]; exact List.mem_singleton_self _, ?_⟩
  rintro func hfunc ⟨name, -, hspelling⟩
  obtain rfl := hfunc.unique hcall
  cases hspelling

end GuardScanner

end AgentSentinel
