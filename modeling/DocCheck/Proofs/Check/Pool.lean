import DocCheck.Check.Pool
import DocCheck.Proofs.Check.Task

/-!
Tasks side by side, in whatever order they take turns. Every turn leaves each task to its block and
no permit is lost. Main statements: when all tasks are finished the results are those of the blocks,
in the order of the blocks, and from wherever the tasks are they can be finished.
-/

namespace DocCheck

namespace Task

/-- The permits that a task holds while permits are needed. -/
def load : Task → Nat
  | .waiting _ | .finished _ => 0
  | .admitted _ | .numbered _ _ | .written _ _ => 1

theorem left_of_load {task : Task} (idle : task.load = 0) : task.left = 0 ∨ 2 < task.left := by
  cases task <;> simp_all [load, left]

private theorem load_le_left (task : Task) : task.load ≤ task.left := by
  cases task <;> simp [load, left]

/-- What tasks amount to together. -/
def total (amount : Task → Nat) : List Task → Nat
  | [] => 0
  | task :: tasks => amount task + total amount tasks

private theorem total_set (amount : Task → Nat) {tasks : List Task} {index : Nat} {old : Task}
    (present : tasks[index]? = some old) (new : Task) :
    total amount (tasks.set index new) + amount old = total amount tasks + amount new := by
  induction tasks generalizing index with
  | nil => cases present
  | cons first tasks inductionHypothesis =>
      cases index with
      | zero =>
          cases present
          rw [List.set_cons_zero, total, total]
          omega
      | succ index =>
          have rest := inductionHypothesis present
          rw [List.set_cons_succ, total, total]
          omega

private theorem exists_of_total_pos {amount : Task → Nat} {tasks : List Task}
    (positive : 0 < total amount tasks) :
    ∃ (index : Nat) (task : Task), tasks[index]? = some task ∧ 0 < amount task := by
  induction tasks with
  | nil => cases positive
  | cons task tasks inductionHypothesis =>
      by_cases first : 0 < amount task
      · exact ⟨0, task, rfl, first⟩
      · rw [total] at positive
        have rest : 0 < total amount tasks := by omega
        obtain ⟨index, later, present, more⟩ := inductionHypothesis rest
        exact ⟨index + 1, later, present, more⟩

private theorem total_waiting_load (blocks : List Block) :
    total load (blocks.map .waiting) = 0 := by
  induction blocks with
  | nil => rfl
  | cons block blocks inductionHypothesis =>
      rw [List.map_cons, total, inductionHypothesis]
      rfl

private theorem exists_results_of_total_left {tasks : List Task} (finished : total left tasks = 0) :
    ∃ results : List Result, tasks = results.map .finished := by
  induction tasks with
  | nil => exact ⟨[], rfl⟩
  | cons task tasks inductionHypothesis =>
      rw [total] at finished
      have first : task.left = 0 := by omega
      have rest : total left tasks = 0 := by omega
      obtain ⟨result, rfl⟩ := left_eq_zero_iff.mp first
      obtain ⟨results, rfl⟩ := inductionHypothesis rest
      exact ⟨result :: results, rfl⟩

end Task

namespace Pool

/-! ## Turns -/

/-- The steps that are left to all tasks. -/
def left (pool : Pool) : Nat :=
  Task.total Task.left pool.tasks

/-- The permits that tasks hold while permits are needed. -/
def load (pool : Pool) : Nat :=
  Task.total Task.load pool.tasks

/-- A task that is at work keeps its permit or gives it back. -/
private theorem map_permitsAfter_step (compiler : Compiler) (scratch : ScratchDir) {task : Task}
    (atWork : task.load = 1) (workshop : Workshop) (permits : Option Nat) :
    (permitsAfter (task.step compiler scratch workshop).1 permits).map
        (· + (task.step compiler scratch workshop).1.load) =
      permits.map (· + task.load) := by
  have returned : ∀ result, (permitsAfter (.finished result) permits).map
      (· + (Task.finished result).load) = permits.map (· + 1) := by
    intro result
    have ended : (Task.finished result).result?.isSome = true := rfl
    rw [permitsAfter, if_pos ended, Option.map_map]
    rfl
  cases task with
  | waiting block => cases atWork
  | admitted block => rfl
  | numbered block id =>
      rw [Task.step]
      split
      · rfl
      · exact returned _
  | written block id => exact returned _
  | finished result => cases atWork

/-- A turn is lost on a task that is finished, or that waits while no permit is left. In any other
turn one task takes a step, and permits only change hands. -/
theorem turn_cases (compiler : Compiler) (scratch : ScratchDir) (pool : Pool) (index : Nat) :
    (turn compiler scratch pool index = pool ∧
      ∀ task, pool.tasks[index]? = some task →
        task.left = 0 ∨ (task.load = 0 ∧ pool.permits = some 0)) ∨
    ∃ task permits, pool.tasks[index]? = some task ∧ 0 < task.left ∧
      permits.map (· + (task.step compiler scratch pool.workshop).1.load) =
        pool.permits.map (· + task.load) ∧
      turn compiler scratch pool index =
        ⟨pool.tasks.set index (task.step compiler scratch pool.workshop).1, permits,
          (task.step compiler scratch pool.workshop).2⟩ := by
  cases present : pool.tasks[index]? with
  | none =>
      left
      rw [turn, present]
      exact ⟨rfl, nofun⟩
  | some task =>
      cases task with
      | finished result =>
          left
          rw [turn, present]
          exact ⟨rfl, fun task same => Option.some.inj same ▸ Or.inl rfl⟩
      | waiting block =>
          rw [turn, present]
          dsimp only
          cases permits : pool.permits with
          | none =>
              right
              exact ⟨_, none, rfl, Nat.succ_pos _, rfl, rfl⟩
          | some count =>
              cases count with
              | zero =>
                  left
                  exact ⟨rfl, fun task same => Option.some.inj same ▸ Or.inr ⟨rfl, rfl⟩⟩
              | succ count =>
                  right
                  exact ⟨_, some count, rfl, Nat.succ_pos _, rfl, rfl⟩
      | admitted | numbered | written =>
          right
          rw [turn, present]
          exact ⟨_, _, rfl, Nat.succ_pos _, map_permitsAfter_step compiler scratch rfl _ _, rfl⟩

/-- No permit is lost in a turn: it is with a task or there to be taken. -/
theorem permits_turn (compiler : Compiler) (scratch : ScratchDir) (pool : Pool) (index : Nat) :
    (turn compiler scratch pool index).permits.map
        (· + (turn compiler scratch pool index).load) =
      pool.permits.map (· + pool.load) := by
  rcases turn_cases compiler scratch pool index with ⟨same, _⟩ |
    ⟨task, permits, present, _, handed, turned⟩
  · rw [same]
  · have loads := Task.total_set Task.load present (task.step compiler scratch pool.workshop).1
    rw [turned, load, load]
    dsimp only
    cases held : pool.permits with
    | none =>
        rw [held, Option.map_none, Option.map_eq_none_iff] at handed
        rw [handed]
        rfl
    | some count =>
        rw [held, Option.map_some, Option.map_eq_some_iff] at handed
        obtain ⟨left, rfl, equality⟩ := handed
        rw [Option.map_some, Option.map_some, Option.some_inj]
        omega

theorem permits_start (jobs : Option Nat) (blocks : List Block) (workshop : Workshop) :
    (start jobs blocks workshop).permits.map (· + (start jobs blocks workshop).load) =
      jobs.map (max 1) := by
  have idle : (start jobs blocks workshop).load = 0 := Task.total_waiting_load blocks
  rw [idle, start, Option.map_map]
  rfl

theorem permits_after (compiler : Compiler) (scratch : ScratchDir) (order : List Nat)
    (pool : Pool) :
    (pool.after compiler scratch order).permits.map
        (· + (pool.after compiler scratch order).load) =
      pool.permits.map (· + pool.load) := by
  induction order generalizing pool with
  | nil => rfl
  | cons index order inductionHypothesis =>
      exact (inductionHypothesis _).trans (permits_turn compiler scratch pool index)

/-! ## Invariant -/

section Turns

variable {compiler : Compiler} {scratch : ScratchDir} {outcome : Block → Result}

/-- What holds of the tasks for these blocks after any number of turns. -/
structure Sound (scratch : ScratchDir) (outcome : Block → Result) (jobs : Option Nat)
    (blocks : List Block) (pool : Pool) : Prop where
  length : pool.tasks.length = blocks.length
  isFor : ∀ (index : Nat) (task : Task), pool.tasks[index]? = some task →
    ∃ block, blocks[index]? = some block ∧ task.IsFor outcome block
  workspace : Workspace scratch pool.workshop.machine
  -- None is needed, or those left and those held are as many as there were at the start.
  permits : pool.permits.map (· + pool.load) = jobs.map (max 1)

theorem sound_start (outcome : Block → Result) (jobs : Option Nat) (blocks : List Block)
    {workshop : Workshop} (workspace : Workspace scratch workshop.machine) :
    Sound scratch outcome jobs blocks (start jobs blocks workshop) where
  length := List.length_map _
  isFor := by
    intro index task present
    rw [start, List.getElem?_map, Option.map_eq_some_iff] at present
    obtain ⟨block, known, rfl⟩ := present
    exact ⟨block, known, rfl⟩
  workspace := workspace
  permits := permits_start jobs blocks workshop

variable {jobs : Option Nat} {blocks : List Block} {pool : Pool}
  (normal : scratch.Normal) (settles : compiler.Settles scratch outcome)
  (sound : Sound scratch outcome jobs blocks pool)

include normal settles sound

theorem sound_turn (index : Nat) :
    Sound scratch outcome jobs blocks (turn compiler scratch pool index) := by
  have permits := (permits_turn compiler scratch pool index).trans sound.permits
  rcases turn_cases compiler scratch pool index with ⟨same, _⟩ | ⟨task, _, present, _, _, turned⟩
  · rw [same]
    exact sound
  · obtain ⟨block, known, isFor⟩ := sound.isFor index task present
    obtain ⟨stillFor, _, workspace⟩ := Task.step_spec normal settles isFor sound.workspace
    rw [turned] at permits ⊢
    refine ⟨?_, ?_, workspace, permits⟩
    · rw [List.length_set, sound.length]
    · intro other changed found
      obtain ⟨inTasks, _⟩ := List.getElem?_eq_some_iff.mp present
      by_cases same : index = other
      · subst same
        rw [List.getElem?_set_self inTasks] at found
        cases found
        exact ⟨block, known, stillFor⟩
      · rw [List.getElem?_set_ne same] at found
        exact sound.isFor other changed found

theorem sound_after (order : List Nat) :
    Sound scratch outcome jobs blocks (pool.after compiler scratch order) := by
  induction order generalizing pool with
  | nil => exact sound
  | cons index order inductionHypothesis =>
      exact inductionHypothesis (sound_turn normal settles sound index)

end Turns

/-! ## Progress -/

section Progress

variable (compiler : Compiler) (scratch : ScratchDir) {pool : Pool}

theorem left_turn_lt {index : Nat} {task : Task} (present : pool.tasks[index]? = some task)
    (unfinished : 0 < task.left) (admits : task.load = 0 → pool.permits ≠ some 0) :
    (turn compiler scratch pool index).left < pool.left := by
  rcases turn_cases compiler scratch pool index with ⟨_, stalled⟩ |
    ⟨same, permits, found, _, _, turned⟩
  · rcases stalled task present with finished | ⟨idle, none⟩
    · omega
    · exact absurd none (admits idle)
  · rw [present] at found
    cases found
    have fewer := Task.left_step_lt compiler scratch unfinished pool.workshop
    have total := Task.total_set Task.left present (task.step compiler scratch pool.workshop).1
    rw [turned, left, left]
    dsimp only
    omega

variable {jobs : Option Nat} (permits : pool.permits.map (· + pool.load) = jobs.map (max 1))

include permits

/-- While a task is left unfinished, some task can take a step. -/
theorem exists_turn (unfinished : 0 < pool.left) :
    ∃ index, (turn compiler scratch pool index).left < pool.left := by
  by_cases working : 0 < pool.load
  · obtain ⟨index, task, present, atWork⟩ := Task.exists_of_total_pos working
    have more : 0 < task.left := Nat.lt_of_lt_of_le atWork task.load_le_left
    exact ⟨index, left_turn_lt compiler scratch present more fun idle => by omega⟩
  · -- No task holds a permit, so all of them are left, and there is at least one.
    obtain ⟨index, task, present, more⟩ := Task.exists_of_total_pos unfinished
    refine ⟨index, left_turn_lt compiler scratch present more fun _ none => ?_⟩
    have idle : pool.load = 0 := by omega
    rw [none, idle] at permits
    cases jobs with
    | none => cases permits
    | some jobs =>
        have atLeastOne : 0 + 0 = max 1 jobs := Option.some.inj permits
        omega

/-- Tasks that have come to any point can all be finished from there. -/
theorem exists_order : ∃ order, (pool.after compiler scratch order).left = 0 := by
  -- The induction is on the steps that are left to all tasks together.
  generalize size : pool.left = count
  induction count using Nat.strongRecOn generalizing pool with
  | ind count inductionHypothesis =>
      subst size
      by_cases finished : pool.left = 0
      · exact ⟨[], finished⟩
      · obtain ⟨index, fewer⟩ := exists_turn compiler scratch permits (Nat.pos_of_ne_zero finished)
        have still := (permits_turn compiler scratch pool index).trans permits
        obtain ⟨order, ends⟩ := inductionHypothesis _ fewer still rfl
        exact ⟨index :: order, ends⟩

end Progress

theorem after_append (compiler : Compiler) (scratch : ScratchDir) (order more : List Nat)
    (pool : Pool) :
    pool.after compiler scratch (order ++ more) =
      (pool.after compiler scratch order).after compiler scratch more :=
  List.foldl_append

/-! ## Results -/

theorem mapM_result?_map_finished (results : List Result) :
    (results.map Task.finished).mapM Task.result? = some results := by
  induction results with
  | nil => rfl
  | cons result results inductionHypothesis =>
      rw [List.map_cons, List.mapM_cons, inductionHypothesis]
      rfl

theorem eq_map_finished_of_mapM_result? {tasks : List Task} {results : List Result}
    (finished : tasks.mapM Task.result? = some results) : tasks = results.map .finished := by
  induction tasks generalizing results with
  | nil =>
      cases finished
      rfl
  | cons task tasks inductionHypothesis =>
      rw [List.mapM_cons] at finished
      obtain ⟨result, first, finished⟩ := Option.bind_eq_some_iff.mp finished
      obtain ⟨others, rest, whole⟩ := Option.bind_eq_some_iff.mp finished
      cases whole
      rw [List.map_cons, ← inductionHypothesis rest]
      cases task with
      | finished own =>
          cases first
          rfl
      | _ => cases first

/-- The results of finished tasks are those of the blocks. -/
theorem Sound.results_eq {scratch : ScratchDir} {outcome : Block → Result} {jobs : Option Nat}
    {blocks : List Block} {pool : Pool} (sound : Sound scratch outcome jobs blocks pool)
    {results : List Result} (finished : pool.results? = some results) :
    results = blocks.map outcome := by
  have tasks := eq_map_finished_of_mapM_result? finished
  have length : results.length = blocks.length := by
    rw [← sound.length, tasks, List.length_map]
  apply List.ext_getElem
  · rw [length, List.length_map]
  · intro index inResults inOutcomes
    have present : pool.tasks[index]? = some (.finished results[index]) := by
      rw [tasks, List.getElem?_map, List.getElem?_eq_getElem inResults, Option.map_some]
    obtain ⟨block, known, isFor⟩ := sound.isFor index _ present
    obtain ⟨_, rfl⟩ := List.getElem?_eq_some_iff.mp known
    rw [List.getElem_map]
    exact isFor

theorem exists_results {pool : Pool} (finished : pool.left = 0) :
    ∃ results, pool.results? = some results := by
  obtain ⟨results, tasks⟩ := Task.exists_results_of_total_left finished
  exact ⟨results, by rw [results?, tasks, mapM_result?_map_finished]⟩

end Pool

end DocCheck
