import AgentSentinel.Lib.Traversal
import AgentSentinel.Python.Str

/-!
# AgentSentinel.StaticAnalysis.GuardChecker

The AST guard checker: a node visitor that keeps a stack of flags, one for each enclosing
function, and reports the calls of sensitive functions where no flag is set. The interpreter's
recursion limit, which trees nested about a thousand deep run into, is outside the model.
-/

namespace AgentSentinel

open Lib

/-! ### Syntax trees -/

/-- What the parser takes for an identifier; it is never empty. -/
abbrev Identifier := { name : PyStr // name ≠ [] }

/-- Python syntax trees as far as the scanner tells their nodes apart. `args` of a function
is its `arguments` node, which holds the defaults and the annotations. Any other node (a
module, a statement, an expression, an argument) is its child nodes in the order of its
fields; the expression contexts, which have no parts, are left out. -/
inductive Ast
  | name (id : Identifier)
  | attr (value : Ast) (attr : Identifier)
  | call (line column : ℤ) (func : Ast) (args keywords : List Ast)
  | functionDef (isAsync : Bool) (args : Ast) (body decoratorList : List Ast)
      (returns : Option Ast) (typeParams : List Ast)
  | other (children : List Ast)

/-- The steps from a node to its child nodes: a field, with the place in a field that is a
list. -/
inductive Part
  | value
  | func
  | arg (i : ℕ)
  | keyword (i : ℕ)
  | args
  | body (i : ℕ)
  | decorator (i : ℕ)
  | returns
  | typeParam (i : ℕ)
  | child (i : ℕ)
  deriving DecidableEq

/-- Nodes are referred to by the steps that lead to them from the root. -/
abbrev NodeAddress := List Part

/-- `_dotted` -/
def dotted : Ast → Option PyStr
  | .name id => some id
  | .attr value attr =>
    match dotted value with
    | some base => if base.isEmpty then some attr else some (base ++ py "." ++ attr)
    | none => some attr
  | _ => none

/-- `_SENSITIVE_NAMES` -/
def sensitiveNames : List PyStr :=
  [py "subprocess.Popen", py "subprocess.run", py "subprocess.call", py "os.system", py "os.exec",
    py "os.execv", py "os.execvp", py "os.fork", py "os.kill", py "eval", py "exec", py "compile",
    py "shutil.rmtree", py "socket.socket", py "open"]

structure GuardViolation where
  path : PyStr
  line : ℤ
  column : ℤ
  callee : PyStr
  message : PyStr
  deriving DecidableEq

namespace GuardScanner

/-- The name of a decorator, or of the function that a decorator calls. -/
def decoratorName : Ast → Option PyStr
  | .call _ _ func _ _ => dotted func
  | dec => dotted dec

/-- `name.split(".")[-1]` -/
def lastSegment (name : PyStr) : PyStr := (name.split '.').getLastD []

/-- `_has_guard_decorator` -/
def hasGuardDecorator (decoratorList : List Ast) : Bool :=
  decoratorList.any fun dec =>
    (decoratorName dec).any fun name => !name.isEmpty && lastSegment name == py "guard"

/-- What `visit_Call` appends to the violations before it goes on to the parts of the call. -/
def violationOf (path : PyStr) (stack : List Bool) (line column : ℤ) (func : Ast) :
    List GuardViolation :=
  match dotted func with
  | some callee =>
    if !callee.isEmpty && sensitiveNames.contains callee && !stack.any id then
      [{ path, line, column, callee, message := py "unguarded sensitive call: " ++ callee }]
    else []
  | none => []

/-- A violation with the node it is about. -/
abbrev Report := NodeAddress × GuardViolation

mutual

/-- `visit`, with `_guarded_stack` as `stack`: what is appended to the violations while the
visitor is at a node and below it. -/
def visit (path : PyStr) (stack : List Bool) : Ast → List Report
  | .name _ => []
  | .attr value _ => Traversal.under (.value, value) (visit path stack value)
  | .call line column func args keywords =>
    (violationOf path stack line column func).map (fun v => ([], v)) ++
      Traversal.under (.func, func) (visit path stack func) ++
      visitAll path stack .arg 0 args ++ visitAll path stack .keyword 0 keywords
  | .functionDef _ args body decoratorList returns typeParams =>
    let stack := stack ++ [hasGuardDecorator decoratorList]
    Traversal.under (.args, args) (visit path stack args) ++ visitAll path stack .body 0 body ++
      visitAll path stack .decorator 0 decoratorList ++ visitOptional path stack .returns returns ++
      visitAll path stack .typeParam 0 typeParams
  | .other children => visitAll path stack .child 0 children

/-- The nodes in a field that is a list, from the place `i` on. -/
def visitAll (path : PyStr) (stack : List Bool) (part : ℕ → Part) (i : ℕ) :
    List Ast → List Report
  | [] => []
  | node :: nodes =>
    Traversal.under (part i, node) (visit path stack node) ++
      visitAll path stack part (i + 1) nodes

/-- The node in a field that may be `None`. -/
def visitOptional (path : PyStr) (stack : List Bool) (part : Part) : Option Ast → List Report
  | none => []
  | some node => Traversal.under (part, node) (visit path stack node)

end

/-- The violations of a module, each with its node. -/
def reports (path : PyStr) (tree : Ast) : List Report := visit path [false] tree

/-- `scanner.violations` after `scanner.visit(tree)`. -/
def violations (path : PyStr) (tree : Ast) : List GuardViolation :=
  (reports path tree).map Prod.snd

end GuardScanner

end AgentSentinel
