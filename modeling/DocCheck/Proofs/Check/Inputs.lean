import DocCheck.Proofs.Check.BlockFile
import DocCheck.Proofs.Check.CleanUp
import DocCheck.Proofs.Machine.Part

/-!
What a run leaves untouched. Main statement: where the compiler writes nowhere but in the scratch
directory, whatever can be read without the scratch directory, as its path led before the run and as
it leads once the directory is made, is read the same after the run.
-/

namespace DocCheck

/-! ## What every task keeps -/

/-- Writing block files and checking them keeps a property of the machine. -/
structure Compiler.Keeps (compiler : Compiler) (scratch : ScratchDir)
    (property : Machine → Prop) : Prop where
  writes : ∀ (id : UInt64) (content : Bytes) (machine : Machine), property machine →
    property (Machine.writeFile (scratch.blockPath id.toNat) content machine).2
  checks : ∀ (source : Text) (id : UInt64) (machine : Machine), property machine →
    property (compiler.check source (scratch.blockPath id.toNat) machine).2

namespace Compiler.Keeps

variable {compiler : Compiler} {scratch : ScratchDir} {property : Machine → Prop}
  (keeps : compiler.Keeps scratch property)

include keeps

private theorem step (task : Task) {workshop : Workshop} (holds : property workshop.machine) :
    property (task.step compiler scratch workshop).2.machine := by
  cases task with
  | waiting block => exact holds
  | admitted block => exact holds
  | numbered block id =>
      have kept := keeps.writes id (Text.Utf8.encode block.source) workshop.machine holds
      rw [Task.step]
      split
      · next written => simpa [written] using kept
      · next refused => simpa [refused] using kept
  | written block id => exact keeps.checks block.source id workshop.machine holds
  | finished result => exact holds

private theorem steps (count : Nat) (task : Task) {workshop : Workshop}
    (holds : property workshop.machine) :
    property (Task.steps compiler scratch count task workshop).2.machine := by
  induction count generalizing task workshop with
  | zero => exact holds
  | succ count inductionHypothesis => exact inductionHypothesis _ (keeps.step task holds)

private theorem completeAll (blocks : List Block) {workshop : Workshop}
    (holds : property workshop.machine) :
    property (Task.completeAll compiler scratch blocks workshop).2.machine := by
  induction blocks generalizing workshop with
  | nil => exact holds
  | cons block blocks inductionHypothesis =>
      exact inductionHypothesis (keeps.steps 4 (.waiting block) holds)

private theorem turn {pool : Pool} (index : Nat) (holds : property pool.workshop.machine) :
    property (Pool.turn compiler scratch pool index).workshop.machine := by
  rcases Pool.turn_cases compiler scratch pool index with ⟨same, _⟩ | ⟨task, _, _, _, _, turned⟩
  · rw [same]
    exact holds
  · rw [turned]
    exact keeps.step task holds

private theorem after (order : List Nat) {pool : Pool} (holds : property pool.workshop.machine) :
    property (pool.after compiler scratch order).workshop.machine := by
  induction order generalizing pool with
  | nil => exact holds
  | cons index order inductionHypothesis => exact inductionHypothesis (keeps.turn index holds)

end Compiler.Keeps

/-- What the compiler keeps that a run gets ready is kept while the scratch directory is there. -/
theorem Run.inScratchBy_keeps {order : Option (List Nat)} {config : Config} {toolchain : Toolchain}
    {documents : List Text} {ready left : Workshop} {inside : RunEnd} {property : Machine → Prop}
    (done : inScratchBy order config toolchain documents ready = some (inside, left))
    (keeps : ∀ compiler, toolchain config ready.machine = .ok compiler →
      compiler.Keeps (ScratchDir.ofConfig config) property)
    (holds : property ready.machine) : property left.machine := by
  rcases inScratchBy_cases done with ⟨_, rfl⟩ | ⟨compiler, blocks, _, prepared, _, isLeft⟩
  · exact holds
  · have kept := keeps compiler (of_prepare_eq_work prepared).2
    rcases isLeft with rfl | ⟨order, rfl⟩
    · exact kept.completeAll blocks holds
    · exact kept.after order holds

/-! ## The scratch directory and the rest -/

/-- The compiler writes nowhere but in the scratch directory at a location. The directory stays where
it is, and the compiler makes no links under the names of block files. -/
structure Compiler.Confined (compiler : Compiler) (scratch : ScratchDir) (location : Location) :
    Prop where
  stands : ∀ (source : Text) (id : UInt64) (machine : Machine), scratch.StandsAt location machine →
    scratch.StandsAt location (compiler.check source (scratch.blockPath id.toNat) machine).2
  spares : ∀ (source : Text) (id : UInt64) (machine : Machine), scratch.StandsAt location machine →
    (machine.files.remove location).IsPart
      (compiler.check source (scratch.blockPath id.toNat) machine).2.files
  here : ∀ (source : Text) (id : UInt64) (machine : Machine), scratch.StandsAt location machine →
    (compiler.check source (scratch.blockPath id.toNat) machine).2.here = machine.here

/-- The directory stands at a location, and what the tree holds outside of it is still there. -/
structure ScratchDir.Untouched (scratch : ScratchDir) (location : Location) (ready machine : Machine) :
    Prop where
  stands : scratch.StandsAt location machine
  spared : (ready.files.remove location).IsPart machine.files
  here : machine.here = ready.here

open FileTree in
private theorem Compiler.Confined.keeps {compiler : Compiler} {scratch : ScratchDir}
    {location : Location} (confined : compiler.Confined scratch location) (ready : Machine) :
    compiler.Keeps scratch (scratch.Untouched location ready) where
  writes := by
    intro id content machine untouched
    rcases untouched.stands.leadsTo.writeFile_blockPath_cases id content with ⟨error, refused⟩ |
      ⟨executable, _, written, free⟩
    · rw [refused]
      exact untouched
    · rw [written]
      refine ⟨untouched.stands.store content executable free, ?_, untouched.here⟩
      have stored := isPart_remove_store (List.prefix_append location
        [BlockPath.fileName id.toNat]) (.file content executable) machine.files
      exact (isPart_remove_remove location _).trans ((untouched.spared.remove location).trans stored)
  checks := by
    intro source id machine untouched
    have spares := confined.spares source id machine untouched.stands
    exact ⟨confined.stands source id machine untouched.stands,
      (isPart_remove_remove location _).trans ((untouched.spared.remove location).trans spares),
      (confined.here source id machine untouched.stands).trans untouched.here⟩

namespace ScratchDir

open FileTree

theorem isPart_remove (scratch : ScratchDir) (machine : Machine) :
    (machine.files.without (machine.findSelf scratch.path)).IsPart
        (scratch.remove machine).2.files ∧
      (scratch.remove machine).2.here = machine.here := by
  have removed := Machine.isPart_removeTree scratch.path machine
  unfold remove
  generalize Machine.removeTree scratch.path machine = result at removed ⊢
  obtain ⟨error | _, after⟩ := result
  · dsimp only
    split <;> exact removed
  · exact removed

/-- What is left of the directory cannot be removed, or it is removed and the directory is made. -/
theorem reset_snd (scratch : ScratchDir) (machine : Machine) :
    (scratch.reset machine).2 = (scratch.remove machine).2 ∨
      (scratch.remove machine).1 = .ok () ∧
        (scratch.reset machine).2 =
          (Machine.makeDirectories scratch.path (scratch.remove machine).2).2 := by
  unfold reset
  rcases scratch.remove machine with ⟨failure | _, cleared⟩
  · exact Or.inl rfl
  · dsimp only
    rcases Machine.makeDirectories scratch.path cleared with ⟨error | _, made⟩
    · exact Or.inr ⟨rfl, rfl⟩
    · exact Or.inr ⟨rfl, rfl⟩

/-- Making the directory anew takes away nothing but what its path names before. -/
private theorem isPart_reset (scratch : ScratchDir) (machine : Machine) :
    (machine.files.without (machine.findSelf scratch.path)).IsPart
        (scratch.reset machine).2.files ∧
      (scratch.reset machine).2.here = machine.here := by
  obtain ⟨isPart, here⟩ := scratch.isPart_remove machine
  rcases scratch.reset_snd machine with same | ⟨_, made⟩
  · rw [same]
    exact ⟨isPart, here⟩
  · have grown := Machine.isPart_makeDirectoriesWithin (scratch.path.length + 1) scratch.path
      (scratch.remove machine).2
    rw [made]
    exact ⟨isPart.trans grown.1, grown.2.trans here⟩

/-- The machine without the scratch directory: without what the path of the directory names before a
run, and without what it names once the directory is made. -/
def apart (scratch : ScratchDir) (machine : Machine) : Machine :=
  let before := machine.findSelf scratch.path
  let made := (scratch.reset machine).2.findSelf scratch.path
  machine.withFiles ((machine.files.without before).without made)

end ScratchDir

/-- What a machine holds without the scratch directory it holds after a run. -/
private theorem Run.isPart_apart {order : Option (List Nat)} {config : Config}
    {toolchain : Toolchain} {documents : List Text} {workshop after : Workshop} {ending : RunEnd}
    (ended : runBy order config toolchain documents workshop = some (ending, after))
    (confined : ∀ ready, (ScratchDir.ofConfig config).reset workshop.machine = (.ok (), ready) →
      ∃ location, (ScratchDir.ofConfig config).StandsAt location ready ∧
        ∀ compiler, toolchain config ready = .ok compiler →
          compiler.Confined (ScratchDir.ofConfig config) location) :
    ((ScratchDir.ofConfig config).apart workshop.machine).files.IsPart after.machine.files ∧
      after.machine.here = workshop.machine.here := by
  have made := (ScratchDir.ofConfig config).isPart_reset workshop.machine
  rcases reset : (ScratchDir.ofConfig config).reset workshop.machine with ⟨failure | _, ready⟩
  · rw [runBy_of_reset_error reset] at ended
    cases ended
    rw [reset] at made
    exact ⟨(FileTree.isPart_without _ _).trans made.1, made.2⟩
  · obtain ⟨location, stands, compilers⟩ := confined ready reset
    obtain ⟨inside, left, done, machine⟩ := exists_left reset ended
    have untouched := inScratchBy_keeps done
      (fun compiler created => (compilers compiler created).keeps ready)
      ⟨stands, FileTree.isPart_remove location _, rfl⟩
    have removed := (ScratchDir.ofConfig config).isPart_remove left.machine
    rw [ScratchDir.apart, reset, machine]
    rw [reset] at made
    dsimp only at made ⊢
    rw [stands.found]
    rw [untouched.stands.found] at removed
    refine ⟨?_, removed.2.trans (untouched.here.trans made.2)⟩
    exact (made.1.remove location).trans ((FileTree.isPart_remove_remove location _).trans
      ((untouched.spared.remove location).trans removed.1))

/-- A run whose compiler is confined to the scratch directory takes nothing away and changes nothing
that can be read without that directory, however the run ends and in whatever order its tasks take
turns. -/
theorem run_keeps_inputs {order : Option (List Nat)} {config : Config} {toolchain : Toolchain}
    {documents : List Text} {workshop after : Workshop} {ending : RunEnd}
    (ended : runBy order config toolchain documents workshop = some (ending, after))
    (confined : ∀ ready, (ScratchDir.ofConfig config).reset workshop.machine = (.ok (), ready) →
      ∃ location, (ScratchDir.ofConfig config).StandsAt location ready ∧
        ∀ compiler, toolchain config ready = .ok compiler →
          compiler.Confined (ScratchDir.ofConfig config) location)
    {path : Text} {content : Bytes}
    (read : ((ScratchDir.ofConfig config).apart workshop.machine).readFile path = .ok content) :
    workshop.machine.readFile path = .ok content ∧ after.machine.readFile path = .ok content := by
  have kept := Run.isPart_apart ended confined
  have before : ((ScratchDir.ofConfig config).apart workshop.machine).files.IsPart
      workshop.machine.files :=
    (FileTree.isPart_without _ _).trans (FileTree.isPart_without _ _)
  exact ⟨Machine.readFile_of_isPart before rfl read,
    Machine.readFile_of_isPart kept.1 kept.2.symm read⟩

private theorem SmallProject.compiler_confined (location : Location) :
    SmallProject.compiler.Confined (ScratchDir.ofConfig SmallProject.config) location where
  stands := fun _ _ _ stands => stands
  spares := fun _ _ machine _ => FileTree.isPart_remove location machine.files
  here := fun _ _ _ _ => rfl

/-- The scratch directory of the small project stands where it has been made. -/
theorem SmallProject.standsAt_reset :
    (ScratchDir.ofConfig SmallProject.config).StandsAt ["demo".toList, "compiled-docs".toList]
      ((ScratchDir.ofConfig SmallProject.config).reset (SmallProject.machine [])).2 := by
  refine ⟨rfl, fun id target present => ?_⟩
  have empty : ((ScratchDir.ofConfig SmallProject.config).reset
      (SmallProject.machine [])).2.files.hasChildren
        ["demo".toList, "compiled-docs".toList] = false := by decide +kernel
  rw [FileTree.find?_of_hasChildren empty] at present
  cases present

/-- The document of the small project is the same after its blocks have been compiled. -/
theorem run_keeps_inputs_of_small_project :
    let machine := SmallProject.machine []
    let content := Text.Utf8.encode "```ts\nlet a = b\n```\n".toList
    let ended := run SmallProject.config SmallProject.toolchain ["README.md".toList] ⟨machine, 7, []⟩
    runBy none SmallProject.config SmallProject.toolchain ["README.md".toList] ⟨machine, 7, []⟩ =
        some ended ∧
      ((ScratchDir.ofConfig SmallProject.config).apart machine).readFile "./README.md".toList =
        .ok content ∧
      ended.2.machine.readFile "./README.md".toList = .ok content := by
  intro machine content ended
  have same : runBy none SmallProject.config SmallProject.toolchain ["README.md".toList]
      ⟨machine, 7, []⟩ = some (ended.1, ended.2) := by
    rw [runBy]
  have read : ((ScratchDir.ofConfig SmallProject.config).apart machine).readFile
      "./README.md".toList = .ok content := rfl
  have stands := SmallProject.standsAt_reset
  clear_value ended
  refine ⟨same, read, (run_keeps_inputs same ?_ read).2⟩
  intro ready made
  have isReady : ready = ((ScratchDir.ofConfig SmallProject.config).reset machine).2 := by rw [made]
  refine ⟨_, isReady ▸ stands, ?_⟩
  intro compiler created
  cases created
  exact SmallProject.compiler_confined _

/-- Without a name the scratch directory is the project itself, and the manifest and the document are
gone after a run whose compiler writes nothing. -/
theorem not_kept_without_scratch_name :
    let config : Config := { SmallProject.config with scratchName := [] }
    let machine := SmallProject.machine []
    let after := (run config SmallProject.toolchain ["README.md".toList] ⟨machine, 7, []⟩).2.machine
    (∀ source path machine, (SmallProject.compiler.check source path machine).2 = machine) ∧
      ["package.json", "README.md"].all (fun name =>
        machine.isFile (Path.join config.projectRoot name.toList) &&
          !after.isFile (Path.join config.projectRoot name.toList)) = true :=
  ⟨fun _ _ _ => rfl, by decide +kernel⟩

end DocCheck
