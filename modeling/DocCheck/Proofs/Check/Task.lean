import DocCheck.Proofs.Check.Verdict

/-!
The steps of one task, whatever other tasks do between them. A task stays with its block, every step
brings it nearer to its end, and what it finishes with is the result of the block. Main statement:
blocks that are compiled one after the other come to their results, in order.
-/

namespace DocCheck.Task

/-! ## Steps -/

/-- The task is the work on a block: it holds the block or, at its end, the result of the block. -/
def IsFor (outcome : Block → Result) (block : Block) : Task → Prop
  | .waiting own | .admitted own | .numbered own _ | .written own _ => own = block
  | .finished result => result = outcome block

/-- The number of steps to the end. -/
def left : Task → Nat
  | .waiting _ => 4
  | .admitted _ => 3
  | .numbered _ _ => 2
  | .written _ _ => 1
  | .finished _ => 0

theorem left_eq_zero_iff {task : Task} : task.left = 0 ↔ ∃ result, task = .finished result := by
  cases task <;> simp [left]

theorem left_step_lt (compiler : Compiler) (scratch : ScratchDir) {task : Task}
    (unfinished : 0 < task.left) (workshop : Workshop) :
    (task.step compiler scratch workshop).1.left < task.left := by
  cases task with
  | waiting block => exact Nat.lt_succ_self _
  | admitted block => exact Nat.lt_succ_self _
  | numbered block id =>
      rw [step]
      split
      · exact Nat.lt_succ_self _
      · exact Nat.succ_pos _
  | written block id => exact Nat.succ_pos _
  | finished result => exact absurd unfinished (Nat.lt_irrefl 0)

theorem left_steps_le (compiler : Compiler) (scratch : ScratchDir) (count : Nat) (task : Task)
    (workshop : Workshop) :
    (steps compiler scratch count task workshop).1.left ≤ task.left - count := by
  induction count generalizing task workshop with
  | zero => exact Nat.le_refl _
  | succ count inductionHypothesis =>
      have rest := inductionHypothesis (task.step compiler scratch workshop).1
        (task.step compiler scratch workshop).2
      rw [steps]
      by_cases unfinished : 0 < task.left
      · have first := left_step_lt compiler scratch unfinished workshop
        omega
      · obtain ⟨result, rfl⟩ := left_eq_zero_iff.mp (Nat.eq_zero_of_not_pos unfinished)
        have same : (step compiler scratch (.finished result) workshop).1.left = 0 := rfl
        omega

section Step

variable {compiler : Compiler} {scratch : ScratchDir} {outcome : Block → Result}
  (normal : scratch.Normal) (settles : compiler.Settles scratch outcome)

include normal settles

/-- In a workspace a step leads on, and leaves the task to its block and the workspace to the
others. -/
theorem step_spec {block : Block} {task : Task} {workshop : Workshop}
    (isFor : task.IsFor outcome block) (workspace : Workspace scratch workshop.machine) :
    (task.step compiler scratch workshop).1.IsFor outcome block ∧
      (task.step compiler scratch workshop).1.left = task.left - 1 ∧
      Workspace scratch (task.step compiler scratch workshop).2.machine := by
  cases task with
  | waiting own => exact ⟨isFor, rfl, workspace⟩
  | admitted own => exact ⟨isFor, rfl, workspace⟩
  | numbered own id =>
      obtain ⟨after, written, still⟩ :=
        workspace.writeFile_blockPath normal id (Text.Utf8.encode own.source)
      rw [step, written]
      exact ⟨isFor, rfl, still⟩
  | written own id =>
      have kept := settles.keeps own.source (scratch.blockPath id.toNat) workshop.machine workspace
      have same : own = block := isFor
      rw [step, settles.concludes own, same]
      exact ⟨rfl, rfl, same ▸ kept⟩
  | finished result => exact ⟨isFor, rfl, workspace⟩

/-! ## One block after the other -/

theorem steps_spec {block : Block} (count : Nat) {task : Task} {workshop : Workshop}
    (isFor : task.IsFor outcome block) (workspace : Workspace scratch workshop.machine) :
    (steps compiler scratch count task workshop).1.IsFor outcome block ∧
      (steps compiler scratch count task workshop).1.left = task.left - count ∧
      Workspace scratch (steps compiler scratch count task workshop).2.machine := by
  induction count generalizing task workshop with
  | zero => exact ⟨isFor, rfl, workspace⟩
  | succ count inductionHypothesis =>
      obtain ⟨isFor, left, workspace⟩ := step_spec normal settles isFor workspace
      obtain ⟨isFor, left', workspace⟩ := inductionHypothesis isFor workspace
      refine ⟨isFor, ?_, workspace⟩
      rw [steps, left', left]
      omega

theorem complete_spec (block : Block) {workshop : Workshop}
    (workspace : Workspace scratch workshop.machine) :
    (complete compiler scratch block workshop).1 = outcome block ∧
      Workspace scratch (complete compiler scratch block workshop).2.machine := by
  have begins : (waiting block).IsFor outcome block := rfl
  obtain ⟨isFor, left, kept⟩ := steps_spec normal settles 4 begins workspace
  obtain ⟨result, ends⟩ := left_eq_zero_iff.mp left
  rw [ends] at isFor
  rw [complete, ends]
  exact ⟨isFor, kept⟩

theorem completeAll_spec (blocks : List Block) {workshop : Workshop}
    (workspace : Workspace scratch workshop.machine) :
    (completeAll compiler scratch blocks workshop).1 = blocks.map outcome ∧
      Workspace scratch (completeAll compiler scratch blocks workshop).2.machine := by
  induction blocks generalizing workshop with
  | nil => exact ⟨rfl, workspace⟩
  | cons block blocks inductionHypothesis =>
      obtain ⟨first, workspace⟩ := complete_spec normal settles block workspace
      obtain ⟨rest, workspace⟩ := inductionHypothesis workspace
      rw [completeAll, List.map_cons, first, rest]
      exact ⟨rfl, workspace⟩

end Step

end DocCheck.Task
