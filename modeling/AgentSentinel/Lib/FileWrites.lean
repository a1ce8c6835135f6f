import Mathlib.Data.List.Infix
import Mathlib.Logic.Function.Basic

/-!
# AgentSentinel.Lib.FileWrites

Files that are written in place. Opening a file for writing empties it, and the bytes follow
one after the other, so a process that stops on the way leaves a part of them. It leaves
what was there before or all of the new content exactly if the write is not under way.
-/

namespace AgentSentinel.Lib

variable {ν β : Type*}

/-- Files by name, each with its content. -/
abbrev Files (ν β : Type*) := ν → Option (List β)

/-- What is done to a file in one step. -/
inductive FileOp (ν β : Type*)
  | truncate (name : ν)
  | append (name : ν) (byte : β)

namespace FileOp

/-- The file it is done to. -/
def name : FileOp ν β → ν
  | truncate n => n
  | append n _ => n

/-- The steps that replace the content of a file. -/
def rewrite (n : ν) (content : List β) : List (FileOp ν β) :=
  truncate n :: content.map (append n)

/-- Between the steps that are done and those that are left, the file is half written. -/
def UnderWay (n : ν) (done rest : List (FileOp ν β)) : Prop :=
  truncate n ∈ done ∧ ∃ byte, append n byte ∈ rest

variable {n : ν} {content : List β} {ops done rest : List (FileOp ν β)}

theorem name_of_mem_rewrite {op : FileOp ν β} (h : op ∈ rewrite n content) : op.name = n := by
  rcases List.mem_cons.mp h with rfl | hmem
  · rfl
  · obtain ⟨byte, -, rfl⟩ := List.mem_map.mp hmem
    rfl

/-- Where a process can stop that replaces a file and goes on to others: before it begins,
with a part of the content written, or after all of it. -/
theorem stops_of_rewrite (h : rewrite n content ++ ops = done ++ rest) :
    done = [] ∨
      (∃ part byte left, content = part ++ byte :: left ∧ done = rewrite n part ∧
        rest = (byte :: left).map (append n) ++ ops) ∨
      ∃ more, done = rewrite n content ++ more ∧ ops = more ++ rest := by
  rcases List.append_eq_append_iff.mp h with ⟨more, hdone, hops⟩ | ⟨left, hcontent, hrest⟩
  · exact Or.inr (Or.inr ⟨more, hdone, hops⟩)
  · cases done with
    | nil => exact Or.inl rfl
    | cons op done =>
        rw [rewrite, List.cons_append, List.cons.injEq] at hcontent
        obtain ⟨rfl, hmap⟩ := hcontent
        obtain ⟨part, left, rfl, rfl, rfl⟩ := List.map_eq_append_iff.mp hmap
        cases left with
        | nil =>
            refine Or.inr (Or.inr ⟨[], ?_, ?_⟩)
            · rw [List.append_nil, List.append_nil, rewrite]
            · exact hrest.symm
        | cons byte left => exact Or.inr (Or.inl ⟨part, byte, left, rfl, rfl, hrest⟩)

/-! ### Running the steps -/

variable [DecidableEq ν] {files : Files ν β}

def apply (files : Files ν β) : FileOp ν β → Files ν β
  | truncate n => Function.update files n (some [])
  | append n byte => Function.update files n (some ((files n).getD [] ++ [byte]))

def run (files : Files ν β) (ops : List (FileOp ν β)) : Files ν β := ops.foldl apply files

theorem run_append (files : Files ν β) (ops more : List (FileOp ν β)) :
    run files (ops ++ more) = run (run files ops) more :=
  List.foldl_append

theorem apply_of_ne {op : FileOp ν β} (h : op.name ≠ n) : apply files op n = files n := by
  cases op with
  | truncate m => exact Function.update_of_ne (Ne.symm h) _ _
  | append m byte => exact Function.update_of_ne (Ne.symm h) _ _

/-- A file that no step is about stays as it is. -/
theorem run_of_ne (h : ∀ op ∈ ops, op.name ≠ n) : run files ops n = files n := by
  induction ops generalizing files with
  | nil => rfl
  | cons op ops ih =>
      rw [List.forall_mem_cons] at h
      exact (ih h.2).trans (apply_of_ne h.1)

theorem run_appends {part : List β} (h : files n = some part) (content : List β) :
    run files (content.map (append n)) n = some (part ++ content) := by
  induction content generalizing files part with
  | nil => rw [List.append_nil, List.map_nil, run, List.foldl_nil, h]
  | cons byte content ih =>
      have hstep : apply files (append n byte) n = some (part ++ [byte]) := by
        simp [apply, h]
      rw [List.map_cons, run, List.foldl_cons, ← run, ih hstep, List.append_assoc]
      rfl

theorem run_rewrite (files : Files ν β) (n : ν) (content : List β) :
    run files (rewrite n content) n = some content := by
  have hopen : apply files (truncate n) n = some ([] : List β) := by simp [apply]
  exact run_appends hopen content

/-- What a number of steps leave of a write in place. -/
theorem run_take (files : Files ν β) (hops : ∀ op ∈ ops, op.name ≠ n) (k : ℕ) :
    run files ((rewrite n content ++ ops).take (k + 1)) n = some (content.take k) := by
  have hsteps : (rewrite n content ++ ops).take (k + 1) =
      rewrite n (content.take k) ++ ops.take (k - content.length) := by
    rw [rewrite, List.cons_append, List.take_succ_cons, List.take_append, List.length_map,
      ← List.map_take, rewrite, List.cons_append]
  rw [hsteps, run_append, run_of_ne fun op hop => hops op (List.mem_of_mem_take hop), run_rewrite]

/-- **A write in place** that has begun and is not under way has left all of its content. -/
theorem run_of_written (files : Files ν β) (hops : ∀ op ∈ ops, op.name ≠ n)
    (h : rewrite n content ++ ops = done ++ rest) (hbegun : done ≠ [])
    (hstop : ¬ UnderWay n done rest) : run files done n = some content := by
  rcases stops_of_rewrite h with rfl | ⟨part, byte, left, -, rfl, rfl⟩ | ⟨more, rfl, rfl⟩
  · exact absurd rfl hbegun
  · exact absurd ⟨List.mem_cons_self, byte, List.mem_append_left _ List.mem_cons_self⟩ hstop
  · rw [run_append, run_of_ne fun op hop => hops op (List.mem_append_left _ hop), run_rewrite]

/-- One that is under way has left a part of its content. -/
theorem run_of_underWay (files : Files ν β) (hops : ∀ op ∈ ops, op.name ≠ n)
    (h : rewrite n content ++ ops = done ++ rest) (hstop : UnderWay n done rest) :
    ∃ part byte left, content = part ++ byte :: left ∧ run files done n = some part := by
  rcases stops_of_rewrite h with rfl | ⟨part, byte, left, hcut, rfl, -⟩ | ⟨more, -, rfl⟩
  · cases hstop.1
  · exact ⟨part, byte, left, hcut, run_rewrite files n part⟩
  · obtain ⟨-, byte, hbyte⟩ := hstop
    exact absurd rfl (hops _ (List.mem_append_right _ hbyte))

end FileOp

end AgentSentinel.Lib
