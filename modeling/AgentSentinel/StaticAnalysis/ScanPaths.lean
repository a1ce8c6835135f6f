import AgentSentinel.Lib.Elementwise
import AgentSentinel.Python.Exceptions
import AgentSentinel.Python.Pathlib
import AgentSentinel.StaticAnalysis.GuardCoverage

/-!
# AgentSentinel.StaticAnalysis.ScanPaths

The walk of the guard checker over the trees it is given, and what the place of a tree does to
its result. The names of the skipped directories are looked for in the whole path of a file,
which starts with the path that the tree was given by.
-/

namespace AgentSentinel

open Lib

/-! ### The walk -/

/-- What reading and parsing a file comes to. Of what `scan_file` does not catch the class
counts. -/
inductive PySource
  | unreadable (kind : ExcKind)
  | malformed (lineno offset : Option ℤ) (msg : PyStr)
  | module (tree : Ast)

namespace GuardChecker

/-- `scan_file`, which raises for a directory as for a file it cannot read. -/
def scanFile (path : PyPath) : FileTree PySource → Except ExcKind (List GuardViolation)
  | .dir _ => .error (.other (py "IsADirectoryError"))
  | .file (.unreadable kind) => .error kind
  | .file (.malformed lineno offset msg) =>
    .ok [{ path := path.text, line := lineno.getD 0, column := offset.getD 0,
           callee := py "<parse error>", message := py "syntax error: " ++ msg }]
  | .file (.module tree) => .ok (GuardScanner.violations path.text tree)

/-- The names of the directories that are skipped by default. -/
def skippedNames : List PyStr :=
  [py ".venv", py "venv", py "build", py "dist", py "tests"]

/-- `any(s in parts for s in (...))` -/
def isSkipped (p : PyPath) : Bool := skippedNames.any fun s => p.parts.contains s

/-- What one turn of the loop of `scan_paths` adds. A disk says what a path names. -/
def scanRoot (disk : PyPath → Option (FileTree PySource)) (root : PyPath) :
    Except ExcKind (List GuardViolation) :=
  match disk root with
  | none => .ok []
  | some (.file source) =>
    if root.suffix = py ".py" then scanFile root (.file source) else .ok []
  | some (.dir listing) => do
    let files := (FileTree.rglob (py ".py") (.dir listing)).filter fun f =>
      !isSkipped (root.joinpath f.1)
    let found ← files.mapM fun f => scanFile (root.joinpath f.1) f.2
    .ok found.flatten

def scanPaths (disk : PyPath → Option (FileTree PySource)) (paths : List PyPath) :
    Except ExcKind (List GuardViolation) := do
  let found ← paths.mapM (scanRoot disk)
  .ok found.flatten

/-- A line that `main` prints. -/
def report (v : GuardViolation) : PyStr :=
  v.path ++ py ":" ++ intText v.line ++ py ":" ++ intText v.column ++ py ": " ++ v.message

/-- `main` after the parsing of its arguments: the lines it prints and the exit code. -/
def main (disk : PyPath → Option (FileTree PySource)) (quiet : Bool) (paths : List PyPath) :
    Except ExcKind (List PyStr × ℕ) := do
  let violations ← scanPaths disk paths
  .ok (if quiet then [] else violations.map report, if violations.isEmpty then 0 else 1)

end GuardChecker

/-! ### The path of a file in what is reported for it -/

namespace GuardScanner

variable {path path' : PyStr} {stack : List Bool}

/-- The same report for a file at another path. -/
def relabel (path : PyStr) (r : Report) : Report := (r.1, { r.2 with path })

theorem map_relabel_under {part : Part × Ast} {found : List Report} :
    (Traversal.under part found).map (relabel path) =
      Traversal.under part (found.map (relabel path)) := by
  simp [Traversal.under, relabel]

mutual

/-- The path of the file is only copied into the reports. -/
theorem map_relabel_visit (stack : List Bool) (node : Ast) :
    (visit path stack node).map (relabel path') = visit path' stack node := by
  cases node with
  | name id => rfl
  | attr value attr => rw [visit, visit, map_relabel_under, map_relabel_visit]
  | call line column func args keywords =>
    have hown : ((violationOf path stack line column func).map fun v => (([] : NodeAddress), v)).map
        (relabel path') = (violationOf path' stack line column func).map fun v => ([], v) := by
      unfold violationOf
      split
      · split <;> rfl
      · rfl
    rw [visit, visit, List.map_append, List.map_append, List.map_append, hown, map_relabel_under,
      map_relabel_visit, map_relabel_visitAll, map_relabel_visitAll]
  | functionDef isAsync args body decoratorList returns typeParams =>
    simp only [visit, List.map_append, map_relabel_under, map_relabel_visit _ args,
      map_relabel_visitAll, map_relabel_visitOptional]
  | other children => rw [visit, visit, map_relabel_visitAll]

theorem map_relabel_visitAll (stack : List Bool) (part : ℕ → Part) (i : ℕ) (nodes : List Ast) :
    (visitAll path stack part i nodes).map (relabel path') =
      visitAll path' stack part i nodes := by
  cases nodes with
  | nil => rfl
  | cons node nodes =>
    rw [visitAll, visitAll, List.map_append, map_relabel_under, map_relabel_visit,
      map_relabel_visitAll]

theorem map_relabel_visitOptional (stack : List Bool) (part : Part) (node : Option Ast) :
    (visitOptional path stack part node).map (relabel path') =
      visitOptional path' stack part node := by
  cases node with
  | none => rfl
  | some node => rw [visitOptional, visitOptional, map_relabel_under, map_relabel_visit]

end

theorem violations_relabel (path path' : PyStr) (tree : Ast) :
    violations path' tree = (violations path tree).map fun v => { v with path := path' } := by
  have hvisit : visit path' [false] tree = (visit path [false] tree).map (relabel path') :=
    (map_relabel_visit [false] tree).symm
  rw [violations, reports, hvisit, List.map_map, violations, reports, List.map_map]
  rfl

end GuardScanner

/-! ### The same tree at two places -/

namespace GuardChecker

open GuardScanner

variable {disk disk' : PyPath → Option (FileTree PySource)} {root root' : PyPath}
  {rel : List PathName} {node tree : FileTree PySource}
  {listing : List (PathName × FileTree PySource)}

/-- The same violation in files that stand under the same path from two roots. -/
def SameUpToRoot (root root' : PyPath) (v v' : GuardViolation) : Prop :=
  ∃ rel, v.path = (root.joinpath rel).text ∧ v' = { v with path := (root'.joinpath rel).text }

/-- A file that is to be scanned: it stands below the directory under a name of a module, and
the way there is under no skipped name. -/
def ToScan (tree : FileTree PySource) (rel : List PathName) (node : FileTree PySource) : Prop :=
  tree.Below rel node ∧ (∃ name ∈ rel.getLast?, py ".py" <:+ name.val) ∧
    isSkipped (.ofNames rel) = false

/-- What is to be scanned are modules, and each of their calls whose callee is taken for
sensitive is part of a guarded function. -/
def Spotless (tree : FileTree PySource) : Prop :=
  ∀ rel node, ToScan tree rel node → ∃ module, node = .file (.module module) ∧
    ∀ p func, CallAt module p func → TakenForSensitive func → InGuarded module p

/-- A skipped name in the path of a file is one in its root or below. -/
theorem isSkipped_joinpath (root : PyPath) (rel : List PathName) :
    isSkipped (root.joinpath rel) = (isSkipped root || isSkipped (.ofNames rel)) := by
  rw [Bool.eq_iff_iff]
  simp only [isSkipped, PyPath.parts_joinpath, List.any_eq_true, List.contains_iff_mem,
    List.mem_append, Bool.or_eq_true, and_or_left, exists_or]

/-- The files below a root, with their paths from there, that are to be scanned. -/
def scanned (tree : FileTree PySource) : List (List PathName × FileTree PySource) :=
  (tree.rglob (py ".py")).filter fun f => !isSkipped (.ofNames f.1)

/-- What a scan reports that skips files only for what is below the root. -/
def scanTree (root : PyPath) (tree : FileTree PySource) : Except ExcKind (List GuardViolation) := do
  let found ← (scanned tree).mapM fun f => scanFile (root.joinpath f.1) f.2
  .ok found.flatten

theorem mem_scanned_iff : (rel, node) ∈ scanned tree ↔ ToScan tree rel node := by
  rw [scanned, List.mem_filter, FileTree.mem_rglob_iff, Bool.not_eq_true', ToScan, and_assoc]

/-- The scan of a file depends on its path by the path in what it reports. -/
theorem scanFile_alike (root root' : PyPath) (rel : List PathName) (node : FileTree PySource) :
    GoAlike (List.Forall₂ (SameUpToRoot root root')) (scanFile (root.joinpath rel) node)
      (scanFile (root'.joinpath rel) node) := by
  cases node with
  | dir listing => exact .fail _
  | file source =>
    cases source with
    | unreadable kind => exact .fail kind
    | malformed lineno offset msg => exact .done (.cons ⟨rel, rfl, rfl⟩ .nil)
    | module tree =>
      refine .done ?_
      rw [violations_relabel (root.joinpath rel).text (root'.joinpath rel).text,
        List.forall₂_map_right_iff, List.forall₂_same]
      intro v hv
      obtain ⟨r, hr, rfl⟩ := List.mem_map.mp hv
      obtain ⟨_, _, _, _, _, _, -, -, heq⟩ := report_eq hr
      exact ⟨rel, by rw [heq], rfl⟩

/-- So the place of a tree does not matter to a scan of this kind. -/
theorem scanTree_alike (root root' : PyPath) (tree : FileTree PySource) :
    GoAlike (List.Forall₂ (SameUpToRoot root root')) (scanTree root tree)
      (scanTree root' tree) := by
  have hfiles := GoAlike.mapM fun f (_ : f ∈ scanned tree) => scanFile_alike root root' f.1 f.2
  exact hfiles.bind fun found found' h => .done (List.rel_flatten h)

/-- A file gives nothing to report where it is a module with each such call guarded. -/
theorem scanFile_eq_nil {path : PyPath} : scanFile path node = .ok [] ↔
    ∃ module, node = .file (.module module) ∧
      ∀ p func, CallAt module p func → TakenForSensitive func → InGuarded module p := by
  cases node with
  | dir listing => simp [scanFile]
  | file source =>
    cases source with
    | unreadable kind => simp [scanFile]
    | malformed lineno offset msg => simp [scanFile]
    | module tree =>
      rw [scanFile, Except.ok.injEq, violations_eq_nil_iff]
      simp only [FileTree.file.injEq, PySource.module.injEq, exists_eq_left']

theorem scanTree_eq_nil : scanTree root tree = .ok [] ↔ Spotless tree := by
  have hflatten : ∀ x : Except ExcKind (List (List GuardViolation)),
      (x >>= fun found => .ok found.flatten) = .ok [] ↔
        ∃ found, x = .ok found ∧ ∀ vs ∈ found, vs = [] := by
    intro x
    cases x with
    | error e => simp [bind, Except.bind]
    | ok found => simp [bind, Except.bind, List.flatten_eq_nil_iff]
  rw [scanTree, hflatten]
  simp only [mapM_eq_ok, exists_forall₂_iff, exists_eq_right, scanFile_eq_nil, Prod.forall,
    mem_scanned_iff, Spotless]

theorem scanPaths_singleton : scanPaths disk [root] = scanRoot disk root := by
  rw [scanPaths, List.mapM_cons]
  cases scanRoot disk root with
  | error e => rfl
  | ok vs => simp [bind, Except.bind, pure, Except.pure]

/-- Under a root with a skipped name nothing is scanned. -/
theorem scanPaths_skipped (hroot : disk root = some (.dir listing)) (h : isSkipped root = true) :
    scanPaths disk [root] = .ok [] := by
  have hnone : ((FileTree.rglob (py ".py") (.dir listing)).filter fun f =>
      !isSkipped (root.joinpath f.1)) = [] := by
    rw [List.filter_eq_nil_iff]
    intro f hf
    simp [isSkipped_joinpath, h]
  rw [scanPaths_singleton, scanRoot, hroot]
  simp only [hnone]
  rfl

/-- Under any other root a file is scanned or not by its path from there. -/
theorem scanPaths_not_skipped (hroot : disk root = some (.dir listing))
    (h : isSkipped root = false) : scanPaths disk [root] = scanTree root (.dir listing) := by
  rw [scanPaths_singleton, scanRoot, hroot]
  simp only [isSkipped_joinpath, h, Bool.false_or, scanTree, scanned]

/-- A file is skipped only for what is below the root where no skipped name is in the root, or
nothing can be seen of it. -/
theorem scanPaths_eq_scanTree_iff (hroot : disk root = some (.dir listing)) :
    scanPaths disk [root] = scanTree root (.dir listing) ↔
      isSkipped root = false ∨ Spotless (.dir listing) := by
  cases h : isSkipped root with
  | true => rw [scanPaths_skipped hroot h, eq_comm, scanTree_eq_nil, or_iff_right (by decide)]
  | false => exact iff_of_true (scanPaths_not_skipped hroot h) (.inl rfl)

/-- **The place of a tree does not matter**: files are skipped only for their paths below the
root, and the same tree under two roots is reported alike, exactly where neither root has a
skipped name in its path or there is nothing to report. -/
theorem scanPaths_placement_iff (hroot : disk root = some (.dir listing))
    (hroot' : disk' root' = some (.dir listing)) :
    (scanPaths disk [root] = scanTree root (.dir listing) ∧
        scanPaths disk' [root'] = scanTree root' (.dir listing) ∧
        GoAlike (List.Forall₂ (SameUpToRoot root root')) (scanPaths disk [root])
          (scanPaths disk' [root'])) ↔
      isSkipped root = false ∧ isSkipped root' = false ∨ Spotless (.dir listing) := by
  rw [and_or_right, ← scanPaths_eq_scanTree_iff hroot, ← scanPaths_eq_scanTree_iff hroot']
  constructor
  · rintro ⟨hscan, hscan', -⟩
    exact ⟨hscan, hscan'⟩
  · rintro ⟨hscan, hscan'⟩
    refine ⟨hscan, hscan', ?_⟩
    rw [hscan, hscan']
    exact scanTree_alike root root' (.dir listing)

/-- Under a root with a skipped name the check succeeds without a word, whatever the tree
holds. -/
theorem main_silent (hroot : disk root = some (.dir listing)) (h : isSkipped root = true)
    (quiet : Bool) : main disk quiet [root] = .ok ([], 0) := by
  rw [main, scanPaths_skipped hroot h]
  cases quiet <;> rfl

/-! ### A checkout below a directory `build` -/

/-- A disk with one tree on it. -/
def diskWith (root : PyPath) (tree : FileTree PySource) : PyPath → Option (FileTree PySource) :=
  fun p => if p = root then some tree else none

theorem open_ne_nil : py "open" ≠ [] := by decide

/-- A package of one module, `open("a")`. -/
def openingPackage : List (PathName × FileTree PySource) :=
  [(⟨py "m.py", by decide⟩, .file (.module
    (.other [.other [.call 1 0 (.name ⟨py "open", open_ne_nil⟩) [.other []] []]])))]

/-- `/work/src` -/
def workRoot : PyPath := ⟨.slash, [⟨py "work", by decide⟩, ⟨py "src", by decide⟩]⟩

/-- `/build/src` -/
def buildRoot : PyPath := ⟨.slash, [⟨py "build", by decide⟩, ⟨py "src", by decide⟩]⟩

theorem scanPaths_placement_two :
    (scanPaths (diskWith workRoot (.dir openingPackage)) [workRoot] =
          scanTree workRoot (.dir openingPackage) ∧
        scanPaths (diskWith buildRoot (.dir openingPackage)) [buildRoot] =
          scanTree buildRoot (.dir openingPackage) ∧
        GoAlike (List.Forall₂ (SameUpToRoot workRoot buildRoot))
          (scanPaths (diskWith workRoot (.dir openingPackage)) [workRoot])
          (scanPaths (diskWith buildRoot (.dir openingPackage)) [buildRoot])) ↔
      isSkipped workRoot = false ∧ isSkipped buildRoot = false ∨
        Spotless (.dir openingPackage) :=
  scanPaths_placement_iff (if_pos rfl) (if_pos rfl)

/-- The unguarded call is reported from `/work/src` and not from `/build/src`. -/
theorem build_checkout_silent :
    diskWith workRoot (.dir openingPackage) workRoot = some (.dir openingPackage) ∧
    diskWith buildRoot (.dir openingPackage) buildRoot = some (.dir openingPackage) ∧
    ¬ GoAlike (List.Forall₂ (SameUpToRoot workRoot buildRoot))
        (scanPaths (diskWith workRoot (.dir openingPackage)) [workRoot])
        (scanPaths (diskWith buildRoot (.dir openingPackage)) [buildRoot]) := by
  have hwork : diskWith workRoot (.dir openingPackage) workRoot = some (.dir openingPackage) :=
    if_pos rfl
  have hbuild : diskWith buildRoot (.dir openingPackage) buildRoot = some (.dir openingPackage) :=
    if_pos rfl
  have hreported : scanRoot (diskWith workRoot (.dir openingPackage)) workRoot =
      .ok [⟨py "/work/src/m.py", 1, 0, py "open", py "unguarded sensitive call: open"⟩] := rfl
  refine ⟨hwork, hbuild, ?_⟩
  rw [scanPaths_singleton, hreported, scanPaths_skipped hbuild (by decide), GoAlike.iff_ok_nil]
  intro hnil
  cases hnil

end GuardChecker

end AgentSentinel
