import AgentSentinel.Lib.Traversal
import AgentSentinel.Python.Str

/-!
# AgentSentinel.Python.Pathlib

POSIX paths as `pathlib` has them, and the trees they name. A path is its root and the names
that follow it; `rglob` lists what stands below a directory, each with its path from there.
-/

namespace AgentSentinel

open Lib

/-! ### Paths -/

/-- A part of a path that is a name: the separator splits names, and the parser drops empty
ones and `"."`. -/
abbrev PathName :=
  { name : PyStr // name ≠ [] ∧ Fin.ofNat 0x110000 '/'.toNat ∉ name ∧ name ≠ py "." }

/-- What a path starts from; two slashes are a root of their own. -/
inductive PathRoot
  | relative
  | slash
  | twoSlashes
  deriving DecidableEq

structure PyPath where
  root : PathRoot
  names : List PathName
  deriving DecidableEq

namespace PyPath

/-- `p.joinpath(*rel)` for names. -/
def joinpath (p : PyPath) (rel : List PathName) : PyPath := { p with names := p.names ++ rel }

/-- The path of names from no root. -/
def ofNames (rel : List PathName) : PyPath := { root := .relative, names := rel }

/-- `p.root` -/
def rootText (p : PyPath) : PyStr :=
  match p.root with
  | .relative => []
  | .slash => py "/"
  | .twoSlashes => py "//"

/-- `p.parts`, in which a root is the first part. -/
def parts (p : PyPath) : List PyStr :=
  if p.rootText.isEmpty then p.names.map Subtype.val
  else p.rootText :: p.names.map Subtype.val

/-- `str(p)` -/
def text (p : PyPath) : PyStr :=
  let s := p.rootText ++ (py "/").join (p.names.map Subtype.val)
  if s.isEmpty then py "." else s

/-- `p.name` -/
def name (p : PyPath) : PyStr := (p.names.getLast?.map Subtype.val).getD []

/-- `p.suffix`: the last dot of the name and what follows, where neither it nor what comes
before is empty. -/
def suffix (p : PyPath) : PyStr :=
  let after := (p.name.reverse.takeWhile (· != Fin.ofNat 0x110000 '.'.toNat)).length
  if 0 < after && after + 1 < p.name.length then p.name.drop (p.name.length - after - 1) else []

/-- A path from no root has the names for parts. -/
theorem parts_ofNames (rel : List PathName) : (ofNames rel).parts = rel.map Subtype.val := rfl

/-- Joining adds the parts of what is joined. -/
theorem parts_joinpath (p : PyPath) (rel : List PathName) :
    (p.joinpath rel).parts = p.parts ++ (ofNames rel).parts := by
  have hroot : (p.joinpath rel).rootText = p.rootText := rfl
  have hnames : (p.joinpath rel).names = p.names ++ rel := rfl
  rw [parts_ofNames, parts, parts, hroot, hnames, List.map_append]
  split <;> simp

end PyPath

/-! ### Directory trees -/

/-- What a path names, as a directory walk finds it: a file, or a directory with its entries
in the order of its listing. -/
inductive FileTree (κ : Type)
  | file (content : κ)
  | dir (entries : List (PathName × FileTree κ))

namespace FileTree

variable {κ : Type}

/-- The entries of a directory. -/
def entries : FileTree κ → List (PathName × FileTree κ)
  | .file _ => []
  | .dir entries => entries

/-- The node stands in the tree under the path. -/
abbrev Below (tree : FileTree κ) (rel : List PathName) (node : FileTree κ) : Prop :=
  Traversal.At entries tree rel node

/-- The entries of one listing that a suffix pattern matches. -/
def globbed (suffix : PyStr) (listing : List (PathName × FileTree κ)) :
    List (List PathName × FileTree κ) :=
  (listing.filter fun e => suffix.isSuffixOf e.1.val).map fun e => ([e.1], e.2)

mutual

/-- `rglob("*" + suffix)`, with the paths from the directory on: the entries of the directory
first, then directory by directory what stands below. A directory of a matching name is
listed too. -/
def rglob (suffix : PyStr) : FileTree κ → List (List PathName × FileTree κ)
  | .file _ => []
  | .dir listing => globbed suffix listing ++ rglobAll suffix listing

def rglobAll (suffix : PyStr) : List (PathName × FileTree κ) → List (List PathName × FileTree κ)
  | [] => []
  | (name, node) :: listing =>
    Traversal.under (name, node) (rglob suffix node) ++ rglobAll suffix listing

end

variable {suffix : PyStr} {tree node : FileTree κ} {rel : List PathName}

theorem rglobAll_eq (listing : List (PathName × FileTree κ)) :
    rglobAll suffix listing =
      listing.flatMap fun e => Traversal.under e (rglob suffix e.2) := by
  induction listing with
  | nil => rfl
  | cons e listing ih => rw [rglobAll, List.flatMap_cons, ih]

theorem rglob_eq (tree : FileTree κ) : rglob suffix tree =
    globbed suffix tree.entries ++
      tree.entries.flatMap fun e => Traversal.under e (rglob suffix e.2) := by
  cases tree with
  | file content => rfl
  | dir listing => rw [rglob, rglobAll_eq, entries]

/-- A walk lists what stands below the directory under a path whose last name matches. -/
theorem mem_rglob_iff : (rel, node) ∈ rglob suffix tree ↔
    Below tree rel node ∧ ∃ name ∈ rel.getLast?, suffix <:+ name.val := by
  induction rel generalizing tree with
  | nil =>
    rw [rglob_eq]
    simp [globbed, Traversal.under]
  | cons name rel ih =>
    have hglobbed : (name :: rel, node) ∈ globbed suffix tree.entries ↔
        rel = [] ∧ (name, node) ∈ tree.entries ∧ suffix <:+ name.val := by
      simp only [globbed, List.mem_map, List.mem_filter, List.isSuffixOf_iff_suffix, Prod.mk.injEq,
        List.cons.injEq, Prod.exists]
      grind
    rw [rglob_eq, List.mem_append, hglobbed, Traversal.mem_flatMap_under, Below,
      Traversal.at_cons_iff]
    simp only [ih]
    cases rel with
    | nil => simp [Traversal.at_nil_iff]
    | cons next rel =>
      rw [List.getLast?_cons_cons]
      simp only [reduceCtorEq, false_and, false_or, ← and_assoc, exists_and_right, Below]

end FileTree

end AgentSentinel
