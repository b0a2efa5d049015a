import DocCheck.Check.Block
import DocCheck.Compiler

/-!
The work on one block: it is admitted, takes a number, writes the file of that number, and has the
compiler check it. Each of the four is one step on what the tasks of a run share.
-/

namespace DocCheck

/-- What the tasks of a run share. -/
structure Workshop where
  machine : Machine
  /-- The number that the next block takes. After the highest one it begins again. -/
  nextId : UInt64
  /-- The paths and sources that the compiler has been given, the last one first. -/
  checked : List (Text × Text)

/-- How far the work on a block is. -/
inductive Task where
  | waiting (block : Block)
  /-- It may begin. -/
  | admitted (block : Block)
  | numbered (block : Block) (id : UInt64)
  /-- Its file is written, and the compiler is at work on it. -/
  | written (block : Block) (id : UInt64)
  | finished (result : Result)
  deriving Repr, DecidableEq

namespace Task

def unwritable (path : Text) (error : FileError) : Diagnostic :=
  Diagnostic.crash ("cannot write ".toList ++ path ++ ": ".toList ++ error.message)

def result? : Task → Option Result
  | finished result => some result
  | _ => none

/-- The result for a block, with its label in place of the path of its file. -/
def conclude (scratch : ScratchDir) (block : Block) (error : Option Diagnostic) : Task :=
  .finished (block.result (error.map (Diagnostic.scrub scratch.blockPattern block.label)))

def step (compiler : Compiler) (scratch : ScratchDir) (task : Task) (workshop : Workshop) :
    Task × Workshop :=
  match task with
  | .waiting block => (.admitted block, workshop)
  | .admitted block =>
      (.numbered block workshop.nextId, { workshop with nextId := workshop.nextId + 1 })
  | .numbered block id =>
      let path := scratch.blockPath id.toNat
      match Machine.writeFile path (Text.Utf8.encode block.source) workshop.machine with
      | (.ok (), after) => (.written block id, { workshop with machine := after })
      | (.error error, after) =>
          (conclude scratch block (some (unwritable path error)), { workshop with machine := after })
  | .written block id =>
      let path := scratch.blockPath id.toNat
      let verdict := compiler.check block.source path workshop.machine
      (conclude scratch block verdict.1,
        { workshop with
          machine := verdict.2
          checked := (path, block.source) :: workshop.checked })
  | .finished result => (.finished result, workshop)

def steps (compiler : Compiler) (scratch : ScratchDir) : Nat → Task → Workshop → Task × Workshop
  | 0, task, workshop => (task, workshop)
  | count + 1, task, workshop =>
      let stepped := step compiler scratch task workshop
      steps compiler scratch count stepped.1 stepped.2

def complete (compiler : Compiler) (scratch : ScratchDir) (block : Block) (workshop : Workshop) :
    Result × Workshop :=
  -- It is admitted, takes its number, writes its file and has it checked.
  let done := steps compiler scratch 4 (.waiting block) workshop
  (done.1.result?.getD (block.result none), done.2)

def completeAll (compiler : Compiler) (scratch : ScratchDir) :
    List Block → Workshop → List Result × Workshop
  | [], workshop => ([], workshop)
  | block :: blocks, workshop =>
      let first := complete compiler scratch block workshop
      let rest := completeAll compiler scratch blocks first.2
      (first.1 :: rest.1, rest.2)

end Task

end DocCheck
