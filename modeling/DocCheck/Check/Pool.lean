import DocCheck.Check.Task

/-!
The tasks of a run side by side. They take turns in any order, one step at a time. Where the number
of blocks compiled at once is limited, a task has to hold a permit while it is at work.
-/

namespace DocCheck

/-- The tasks of a run. -/
structure Pool where
  tasks : List Task
  /-- The permits that no task holds, if permits are needed. -/
  permits : Option Nat
  workshop : Workshop

namespace Pool

/-- No task has begun. At least one permit is given out. -/
def start (jobs : Option Nat) (blocks : List Block) (workshop : Workshop) : Pool where
  tasks := blocks.map .waiting
  permits := jobs.map (max 1)
  workshop := workshop

/-- Takes a permit, if one is left or none is needed. -/
def takePermit : Option Nat → Option (Option Nat)
  | none => some none
  | some 0 => none
  | some (left + 1) => some (some left)

/-- The permits after a step that led to a task: at its end a task gives its permit back. -/
def permitsAfter (task : Task) (permits : Option Nat) : Option Nat :=
  if task.result?.isSome then permits.map (· + 1) else permits

/-- The task with an index takes a step, unless it is finished or waits for a permit. -/
def turn (compiler : Compiler) (scratch : ScratchDir) (pool : Pool) (index : Nat) : Pool :=
  match pool.tasks[index]? with
  | none | some (.finished _) => pool
  | some (.waiting block) =>
      match takePermit pool.permits with
      | none => pool
      | some left =>
          let stepped := Task.step compiler scratch (.waiting block) pool.workshop
          ⟨pool.tasks.set index stepped.1, left, stepped.2⟩
  | some task =>
      let stepped := task.step compiler scratch pool.workshop
      ⟨pool.tasks.set index stepped.1, permitsAfter stepped.1 pool.permits, stepped.2⟩

def after (compiler : Compiler) (scratch : ScratchDir) (order : List Nat) (pool : Pool) : Pool :=
  order.foldl (turn compiler scratch) pool

/-- The results in the order of the blocks, once all tasks are finished. -/
def results? (pool : Pool) : Option (List Result) :=
  pool.tasks.mapM Task.result?

end Pool

end DocCheck
