import DocCheck.Proofs.Check.CleanUp

/-!
Sessions: runs with the same configuration, one after the other, and a log of what is done for their
blocks. Main statements: a run whose tasks take turns in some order is part of a session, and how far
the work on a block is tells what has been done for it.
-/

namespace DocCheck

/-! ## Deeds -/

/-- What is done for a block. -/
inductive Deed where
  | begin
  | number (id : UInt64)
  | write (path : Text)
  /-- Its file cannot be written, and nothing more is done. -/
  | giveUp
  | compile (source path : Text)
  deriving DecidableEq

namespace Deed

/-- What has been done where one step leads from a task to another. -/
def between? (scratch : ScratchDir) : Task → Task → Option Deed
  | .waiting _, .admitted _ => some .begin
  | .admitted _, .numbered _ id => some (.number id)
  | .numbered _ _, .written _ id => some (.write (scratch.blockPath id.toNat))
  | .numbered _ _, .finished _ => some .giveUp
  | .written block id, .finished _ => some (.compile block.source (scratch.blockPath id.toNat))
  | _, _ => none

private theorem between?_self (scratch : ScratchDir) (task : Task) :
    between? scratch task task = none := by
  cases task <;> rfl

def number? : Deed → Option UInt64
  | number id => some id
  | _ => none

/-- The path and the source that the compiler is given. -/
def compiled? : Deed → Option (Text × Text)
  | compile source path => some (path, source)
  | _ => none

end Deed

/-- The deeds by which a task for a block has come as far as it is. -/
inductive Task.Past (scratch : ScratchDir) (block : Block) : Task → List Deed → Prop
  | waiting : Past scratch block (.waiting block) []
  | admitted : Past scratch block (.admitted block) [.begin]
  | numbered (id : UInt64) : Past scratch block (.numbered block id) [.begin, .number id]
  | written (id : UInt64) :
      Past scratch block (.written block id)
        [.begin, .number id, .write (scratch.blockPath id.toNat)]
  | refused (id : UInt64) (error : FileError) :
      Past scratch block
        (conclude scratch block (some (unwritable (scratch.blockPath id.toNat) error)))
        [.begin, .number id, .giveUp]
  | compiled (id : UInt64) (complaint : Option Diagnostic) :
      Past scratch block (conclude scratch block complaint)
        [.begin, .number id, .write (scratch.blockPath id.toNat),
          .compile block.source (scratch.blockPath id.toNat)]

namespace Task

variable {scratch : ScratchDir} {block : Block} {task : Task} {deeds : List Deed}

/-- A step adds its deed to those before. -/
theorem Past.step (past : Past scratch block task deeds) (compiler : Compiler)
    (workshop : Workshop) :
    Past scratch block (task.step compiler scratch workshop).1
      (deeds ++
        (Deed.between? scratch task (task.step compiler scratch workshop).1).toList) := by
  cases past with
  | waiting => exact .admitted
  | admitted => exact .numbered workshop.nextId
  | numbered id =>
      rw [Task.step]
      split
      · exact .written id
      · next error _ _ => exact .refused id error
  | written id => exact .compiled id _
  | refused id error =>
      rw [conclude, Task.step, Deed.between?_self]
      exact .refused id error
  | compiled id complaint =>
      rw [conclude, Task.step, Deed.between?_self]
      exact .compiled id complaint

theorem Past.mem_number {own : Block} {id : UInt64} (past : Past scratch block task deeds)
    (isNumbered : task = .numbered own id ∨ task = .written own id) : .number id ∈ deeds := by
  rcases isNumbered with rfl | rfl
  · cases past
    simp
  · cases past
    simp

theorem Past.of_written {own : Block} {id : UInt64}
    (past : Past scratch block (.written own id) deeds) :
    own = block ∧ deeds = [.begin, .number id, .write (scratch.blockPath id.toNat)] := by
  cases past
  exact ⟨rfl, rfl⟩

/-- A block takes its number, is written and compiled, or it is given up. -/
theorem Past.exists_id (past : Past scratch block task deeds) :
    ∃ id : UInt64,
      deeds <+: [.begin, .number id, .write (scratch.blockPath id.toNat),
        .compile block.source (scratch.blockPath id.toNat)] ∨
      deeds = [.begin, .number id, .giveUp] := by
  cases past with
  | waiting => exact ⟨0, Or.inl List.nil_prefix⟩
  | admitted => exact ⟨0, Or.inl ⟨_, rfl⟩⟩
  | numbered id => exact ⟨id, Or.inl ⟨_, rfl⟩⟩
  | written id => exact ⟨id, Or.inl ⟨_, rfl⟩⟩
  | refused id error => exact ⟨id, Or.inr rfl⟩
  | compiled id complaint => exact ⟨id, Or.inl (List.prefix_refl _)⟩

theorem Past.of_finished {result : Result} (past : Past scratch block (.finished result) deeds) :
    ∃ id : UInt64,
      (deeds = [.begin, .number id, .write (scratch.blockPath id.toNat),
          .compile block.source (scratch.blockPath id.toNat)] ∧
        ∃ complaint, Task.finished result = conclude scratch block complaint) ∨
      (deeds = [.begin, .number id, .giveUp] ∧
        ∃ error, Task.finished result =
          conclude scratch block (some (unwritable (scratch.blockPath id.toNat) error))) := by
  generalize finished : Task.finished result = task at past
  cases past with
  | waiting => cases finished
  | admitted => cases finished
  | numbered id => cases finished
  | written id => cases finished
  | refused id error => exact ⟨id, Or.inr ⟨rfl, error, rfl⟩⟩
  | compiled id complaint => exact ⟨id, Or.inl ⟨rfl, complaint, rfl⟩⟩

theorem nextId_step (compiler : Compiler) (scratch : ScratchDir) (task : Task)
    (workshop : Workshop) :
    ((Deed.between? scratch task (task.step compiler scratch workshop).1).bind Deed.number? = none ∧
      (task.step compiler scratch workshop).2.nextId = workshop.nextId) ∨
    ((Deed.between? scratch task (task.step compiler scratch workshop).1).bind Deed.number? =
        some workshop.nextId ∧
      (task.step compiler scratch workshop).2.nextId = workshop.nextId + 1) := by
  cases task with
  | waiting block => exact Or.inl ⟨rfl, rfl⟩
  | admitted block => exact Or.inr ⟨rfl, rfl⟩
  | numbered block id =>
      rw [Task.step]
      split <;> exact Or.inl ⟨rfl, rfl⟩
  | written block id => exact Or.inl ⟨rfl, rfl⟩
  | finished result => exact Or.inl ⟨rfl, rfl⟩

theorem checked_step (compiler : Compiler) (scratch : ScratchDir) (task : Task)
    (workshop : Workshop) :
    (task.step compiler scratch workshop).2.checked =
      ((Deed.between? scratch task (task.step compiler scratch workshop).1).bind
        Deed.compiled?).toList ++ workshop.checked := by
  cases task with
  | waiting block => rfl
  | admitted block => rfl
  | numbered block id =>
      rw [Task.step]
      split <;> rfl
  | written block id => rfl
  | finished result => rfl

end Task

/-- The deeds of a turn. -/
def Pool.deeds (compiler : Compiler) (scratch : ScratchDir) (pool : Pool) (index : Nat) :
    List Deed :=
  match pool.tasks[index]?, (pool.turn compiler scratch index).tasks[index]? with
  | some before, some after => (Deed.between? scratch before after).toList
  | _, _ => []

theorem Pool.turn_deeds (compiler : Compiler) (scratch : ScratchDir) (pool : Pool) (index : Nat) :
    (turn compiler scratch pool index = pool ∧ pool.deeds compiler scratch index = []) ∨
    ∃ task permits, pool.tasks[index]? = some task ∧
      turn compiler scratch pool index =
        ⟨pool.tasks.set index (task.step compiler scratch pool.workshop).1, permits,
          (task.step compiler scratch pool.workshop).2⟩ ∧
      pool.deeds compiler scratch index =
        (Deed.between? scratch task (task.step compiler scratch pool.workshop).1).toList := by
  rcases turn_cases compiler scratch pool index with ⟨same, _⟩ | ⟨task, permits, present, _, _, turned⟩
  · refine Or.inl ⟨same, ?_⟩
    rw [deeds, same]
    cases pool.tasks[index]? with
    | none => rfl
    | some task =>
        dsimp only
        rw [Deed.between?_self]
        rfl
  · refine Or.inr ⟨task, permits, present, turned, ?_⟩
    obtain ⟨inTasks, _⟩ := List.getElem?_eq_some_iff.mp present
    rw [deeds, turned, present, List.getElem?_set_self inTasks]

/-! ## Sessions -/

/-- A deed and the block it is done for: the number of the run and the index among its blocks, both
counted from zero. -/
structure Record where
  run : Nat
  index : Nat
  deed : Deed
  deriving DecidableEq

/-- A run that has ended. -/
structure Ended where
  blocks : List Block
  results : List Result

inductive Work where
  | idle (workshop : Workshop)
  /-- Blocks are compiled. When the scratch directory had been made, the machine was `ready`. -/
  | going (blocks : List Block) (ready : Machine) (compiler : Compiler) (pool : Pool)

def Work.workshop : Work → Workshop
  | idle workshop => workshop
  | going _ _ _ pool => pool.workshop

structure Session where
  past : List Ended
  /-- What has been done, in order. -/
  log : List Record
  work : Work

namespace Session

inductive Step (config : Config) (toolchain : Toolchain) : Session → Session → Prop
  /-- Between runs the files may change in any way. A run that comes to no work does no more. -/
  | change {past : List Ended} {log : List Record} {workshop : Workshop} (machine : Machine) :
      Step config toolchain ⟨past, log, .idle workshop⟩
        ⟨past, log, .idle { workshop with machine := machine }⟩
  | start {past : List Ended} {log : List Record} {workshop : Workshop} {documents : List Text}
      {ready : Machine} {compiler : Compiler} {blocks : List Block} :
      (ScratchDir.ofConfig config).reset workshop.machine = (.ok (), ready) →
      Run.prepare config toolchain documents ready = .work compiler blocks →
      Step config toolchain ⟨past, log, .idle workshop⟩
        ⟨past, log, .going blocks ready compiler
          (Pool.start config.jobs blocks { workshop with machine := ready })⟩
  | turn {past : List Ended} {log : List Record} {blocks : List Block} {ready : Machine}
      {compiler : Compiler} {pool : Pool} (index : Nat) :
      Step config toolchain ⟨past, log, .going blocks ready compiler pool⟩
        ⟨past,
          log ++ (pool.deeds compiler (ScratchDir.ofConfig config) index).map
            (Record.mk past.length index),
          .going blocks ready compiler (pool.turn compiler (ScratchDir.ofConfig config) index)⟩
  | finish {past : List Ended} {log : List Record} {blocks : List Block} {ready : Machine}
      {compiler : Compiler} {pool : Pool} {results : List Result} :
      pool.results? = some results →
      Step config toolchain ⟨past, log, .going blocks ready compiler pool⟩
        ⟨past ++ [⟨blocks, results⟩], log,
          .idle (Run.cleanUp (ScratchDir.ofConfig config) (.finished results) pool.workshop).2⟩

inductive Reachable (config : Config) (toolchain : Toolchain) (first : Workshop) : Session → Prop
  | start : Reachable config toolchain first ⟨[], [], .idle first⟩
  | step {session next : Session} : Reachable config toolchain first session →
      Step config toolchain session next → Reachable config toolchain first next

section Runs

variable {config : Config} {toolchain : Toolchain} {first : Workshop}

theorem Reachable.after {past : List Ended} {log : List Record} {blocks : List Block}
    {ready : Machine} {compiler : Compiler} {pool : Pool}
    (reached : Reachable config toolchain first ⟨past, log, .going blocks ready compiler pool⟩)
    (order : List Nat) :
    ∃ more, Reachable config toolchain first ⟨past, log ++ more,
      .going blocks ready compiler (pool.after compiler (ScratchDir.ofConfig config) order)⟩ := by
  induction order generalizing log pool with
  | nil => exact ⟨[], by rwa [List.append_nil]⟩
  | cons index order inductionHypothesis =>
      obtain ⟨more, later⟩ := inductionHypothesis (reached.step (.turn index))
      exact ⟨_, by rwa [List.append_assoc] at later⟩

/-- Where the tasks of a run take turns in an order, the run is part of a session. -/
theorem Reachable.runInOrder {past : List Ended} {log : List Record} {workshop : Workshop}
    (reached : Reachable config toolchain first ⟨past, log, .idle workshop⟩) {order : List Nat}
    {documents : List Text} {ending : RunEnd} {after : Workshop}
    (ended : runInOrder order config toolchain documents workshop = some (ending, after)) :
    ∃ later more, Reachable config toolchain first ⟨past ++ later, log ++ more, .idle after⟩ := by
  have unworked : ∀ machine, after = { workshop with machine := machine } →
      ∃ later more, Reachable config toolchain first
        ⟨past ++ later, log ++ more, .idle after⟩ := by
    rintro machine rfl
    exact ⟨[], [], by simpa using reached.step (.change machine)⟩
  rw [DocCheck.runInOrder] at ended
  split at ended
  · next failed _ =>
      cases ended
      exact unworked _ rfl
  · next ready made =>
      obtain ⟨⟨inside, left⟩, done, cleaned⟩ := Option.map_eq_some_iff.mp ended
      rw [Run.inScratchInOrder] at done
      split at done
      · cases done
        have cleanedUp := Run.cleanUp_snd (ScratchDir.ofConfig config) inside
          { workshop with machine := ready }
        rw [cleaned] at cleanedUp
        exact unworked _ cleanedUp
      · next compiler blocks prepared =>
          obtain ⟨results, finished, pair⟩ := Option.map_eq_some_iff.mp done
          cases pair
          obtain ⟨more, worked⟩ := (reached.step (.start made prepared)).after order
          refine ⟨[⟨blocks, results⟩], more, ?_⟩
          have later := worked.step (.finish finished)
          rwa [cleaned] at later

end Runs

end Session

end DocCheck
