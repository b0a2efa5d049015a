import DocCheck.Check.Pool
import DocCheck.Check.Scratch

/-!
A run: the scratch directory is made, the manifest and the documents are read, the compiler is got
ready if there are blocks, the blocks are checked, and the scratch directory is removed. What fails
first decides how the run ends; whatever that is, the directory is removed.
-/

namespace DocCheck

inductive RunEnd where
  | finished (results : List Result)
  | failed (failure : Failure)
  /-- The limit on blocks compiled at once is beyond what can be counted. -/
  | abandoned
  deriving Repr, DecidableEq

namespace Run

/-- The highest limit on blocks compiled at once. -/
def mostJobs : Nat := 2305843009213693951

def exceedsMostJobs (config : Config) : Bool :=
  match config.jobs with
  | none => false
  | some jobs => mostJobs < jobs

def blocks (config : Config) (documents : List Text) (machine : Machine) :
    Except Failure (List Block) :=
  match Package.ofProject config.projectRoot machine with
  | .error failure => .error failure
  | .ok package =>
      Block.ofDocuments config (Localiser.ofPackage package ScratchDir.rootReference) machine
        documents

/-- What is known before the first block is compiled. -/
inductive Prepared where
  | over (ending : RunEnd)
  | work (compiler : Compiler) (blocks : List Block)

/-- Reads the blocks and gets the compiler ready for them. -/
def prepare (config : Config) (toolchain : Toolchain) (documents : List Text)
    (machine : Machine) : Prepared :=
  match blocks config documents machine with
  | .error failure => .over (.failed failure)
  -- Where there are no blocks, it does not matter that there may be no compiler.
  | .ok [] => .over (.finished [])
  | .ok blocks =>
      match toolchain config machine with
      | .error failure => .over (.failed failure)
      | .ok compiler =>
          if exceedsMostJobs config then .over .abandoned else .work compiler blocks

/-- What is done while the scratch directory is there. -/
def inScratch (config : Config) (toolchain : Toolchain) (documents : List Text)
    (workshop : Workshop) : RunEnd × Workshop :=
  match prepare config toolchain documents workshop.machine with
  | .over ending => (ending, workshop)
  | .work compiler blocks =>
      let done := Task.completeAll compiler (ScratchDir.ofConfig config) blocks workshop
      (.finished done.1, done.2)

/-- What is done while the scratch directory is there, where the blocks are compiled side by side
and their tasks take turns in an order. Nothing comes of an order that leaves a task unfinished. -/
def inScratchInOrder (order : List Nat) (config : Config) (toolchain : Toolchain)
    (documents : List Text) (workshop : Workshop) : Option (RunEnd × Workshop) :=
  match prepare config toolchain documents workshop.machine with
  | .over ending => some (ending, workshop)
  | .work compiler blocks =>
      let pool := (Pool.start config.jobs blocks workshop).after compiler
        (ScratchDir.ofConfig config) order
      pool.results?.map fun results => (.finished results, pool.workshop)

/-- Removes the scratch directory at the end. -/
def cleanUp (scratch : ScratchDir) (ending : RunEnd) (workshop : Workshop) : RunEnd × Workshop :=
  let removed := scratch.remove workshop.machine
  let after := { workshop with machine := removed.2 }
  match ending, removed.1 with
  -- That it cannot be removed is only said if nothing else has gone wrong.
  | .finished _, .error failure => (.failed failure, after)
  | ending, _ => (ending, after)

end Run

/-- Checks the blocks of documents, one after the other. -/
def run (config : Config) (toolchain : Toolchain) (documents : List Text) (workshop : Workshop) :
    RunEnd × Workshop :=
  let scratch := ScratchDir.ofConfig config
  match scratch.reset workshop.machine with
  | (.error failure, after) => (.failed failure, { workshop with machine := after })
  | (.ok (), ready) =>
      let done := Run.inScratch config toolchain documents { workshop with machine := ready }
      Run.cleanUp scratch done.1 done.2

/-- Checks the blocks of documents side by side, their tasks taking turns in an order. -/
def runInOrder (order : List Nat) (config : Config) (toolchain : Toolchain) (documents : List Text)
    (workshop : Workshop) : Option (RunEnd × Workshop) :=
  let scratch := ScratchDir.ofConfig config
  match scratch.reset workshop.machine with
  | (.error failure, after) => some (.failed failure, { workshop with machine := after })
  | (.ok (), ready) =>
      (Run.inScratchInOrder order config toolchain documents { workshop with machine := ready }).map
        fun done => Run.cleanUp scratch done.1 done.2

end DocCheck
