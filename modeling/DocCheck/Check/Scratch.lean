import DocCheck.Check.Config
import DocCheck.Check.Failure
import DocCheck.Machine

/-!
The life of the scratch directory: it is made anew for a run and removed at its end. A guard stands
for a directory that has been made; letting it go removes the directory, whether someone waits for
the result (`release`) or not (`drop`).
-/

namespace DocCheck

/-- A step of a run: it may change the machine, and it may end the run. -/
abbrev Action (α : Type) := Machine → Except Failure α × Machine

namespace ScratchDir

/-- Removes the directory. It need not exist. -/
def remove (scratch : ScratchDir) : Action Unit := fun machine =>
  match Machine.removeTree scratch.path machine with
  | (.ok (), after) => (.ok (), after)
  | (.error error, after) =>
      if error = .notFound then (.ok (), after)
      else (.error (.scratchDir scratch.path error), after)

/-- Removes what is left of the directory and makes it anew. -/
def reset (scratch : ScratchDir) : Action Unit := fun machine =>
  match scratch.remove machine with
  | (.error failure, after) => (.error failure, after)
  | (.ok (), cleared) =>
      match Machine.makeDirectories scratch.path cleared with
      | (.ok (), made) => (.ok (), made)
      | (.error error, after) => (.error (.scratchDir scratch.path error), after)

/-- Removes the directory at the end of a run that has failed or been abandoned. Nobody is told if
that does not succeed. -/
def drop (scratch : ScratchDir) (machine : Machine) : Machine :=
  (scratch.remove machine).2

end ScratchDir

/-- A scratch directory with the fact whether a guard is held on it. -/
structure GuardedScratch where
  dir : ScratchDir
  held : Bool
  deriving Repr, DecidableEq

namespace GuardedScratch

inductive Step where
  | reset
  | remove
  /-- Makes the directory and holds a guard on it. -/
  | acquire
  /-- Lets the guard go and waits for the directory to be removed. -/
  | release
  | drop
  deriving Repr, DecidableEq

/-- Takes a step. Without a guard there is nothing to release or drop, and the answer is `none`. -/
def step (guarded : GuardedScratch) (step : Step) (machine : Machine) :
    Option (Except Failure Unit) × GuardedScratch × Machine :=
  match step with
  | .reset =>
      let result := guarded.dir.reset machine
      (some result.1, guarded, result.2)
  | .remove =>
      let result := guarded.dir.remove machine
      (some result.1, guarded, result.2)
  | .acquire =>
      match guarded.dir.reset machine with
      | (.error failure, after) => (some (.error failure), guarded, after)
      | (.ok (), made) =>
          -- A guard already held is dropped only now, and the directory goes with it.
          (some (.ok ()), { guarded with held := true },
            if guarded.held then guarded.dir.drop made else made)
  | .release =>
      if guarded.held then
        let result := guarded.dir.remove machine
        (some result.1, { guarded with held := false }, result.2)
      else (none, guarded, machine)
  | .drop =>
      if guarded.held then
        (some (.ok ()), { guarded with held := false }, guarded.dir.drop machine)
      else (none, guarded, machine)

end GuardedScratch

end DocCheck
