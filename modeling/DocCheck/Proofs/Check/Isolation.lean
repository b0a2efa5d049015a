import DocCheck.Proofs.Check.BlockFile
import DocCheck.Proofs.Check.FileName
import DocCheck.Proofs.Check.History
import DocCheck.Proofs.Check.Refinement

/-!
Blocks that are compiled side by side do not disturb one another. Main statement: in every session
blocks have different numbers and no file in common, the compiler is given the source of each of them
once its file has been written, and while it is at work the file holds that source, unless the
compiler itself changes it.
-/

namespace DocCheck

/-- The compiler leaves the scratch directory where it is and the block files in it as they are. -/
structure Compiler.Considerate (compiler : Compiler) (scratch : ScratchDir) (location : Location) :
    Prop where
  leads : ∀ (source : Text) (id : UInt64) (machine : Machine), scratch.LeadsTo location machine →
    scratch.LeadsTo location (compiler.check source (scratch.blockPath id.toNat) machine).2
  leaves : ∀ (source : Text) (id : UInt64) (machine : Machine), scratch.LeadsTo location machine →
    ∀ (other : UInt64) (content : Bytes) (executable : Bool),
      machine.files.find? (location ++ [BlockPath.fileName other.toNat]) =
        some (.file content executable) →
      ∃ executable, (compiler.check source (scratch.blockPath id.toNat) machine).2.files.find?
        (location ++ [BlockPath.fileName other.toNat]) = some (.file content executable)

namespace Pool

/-- While the compiler is at work on blocks, their files hold their sources. -/
structure Holds (scratch : ScratchDir) (location : Location) (pool : Pool) : Prop where
  leads : scratch.LeadsTo location pool.workshop.machine
  written : ∀ (index : Nat) (block : Block) (id : UInt64),
    pool.tasks[index]? = some (.written block id) →
      Text.byteLength (scratch.blockPath id.toNat) < FileTree.pathLimit ∧
      ∃ executable, pool.workshop.machine.files.find?
        (location ++ [BlockPath.fileName id.toNat]) =
          some (.file (Text.Utf8.encode block.source) executable)

section Turn

variable {compiler : Compiler} {scratch : ScratchDir} {location : Location} {pool : Pool}

theorem holds_start {jobs : Option Nat} {blocks : List Block} {workshop : Workshop}
    (leads : scratch.LeadsTo location workshop.machine) :
    Holds scratch location (start jobs blocks workshop) := by
  refine ⟨leads, ?_⟩
  intro index block id present
  rw [start, List.getElem?_map, Option.map_eq_some_iff] at present
  obtain ⟨_, _, same⟩ := present
  cases same

/-- What has to be seen to where one task takes a step: its own file, if it has been written just now,
and the files of the others. -/
private theorem Holds.set (holds : Holds scratch location pool) {index : Nat} {task : Task}
    {permits : Option Nat} {workshop : Workshop} (inTasks : index < pool.tasks.length)
    (leads : scratch.LeadsTo location workshop.machine)
    (own : ∀ (block : Block) (id : UInt64), task = .written block id →
      Text.byteLength (scratch.blockPath id.toNat) < FileTree.pathLimit ∧
      ∃ executable, workshop.machine.files.find? (location ++ [BlockPath.fileName id.toNat]) =
        some (.file (Text.Utf8.encode block.source) executable))
    (others : ∀ (other : Nat) (block : Block) (id : UInt64) (executable : Bool),
      pool.tasks[other]? = some (.written block id) →
      pool.workshop.machine.files.find? (location ++ [BlockPath.fileName id.toNat]) =
        some (.file (Text.Utf8.encode block.source) executable) →
      ∃ executable, workshop.machine.files.find? (location ++ [BlockPath.fileName id.toNat]) =
        some (.file (Text.Utf8.encode block.source) executable)) :
    Holds scratch location ⟨pool.tasks.set index task, permits, workshop⟩ := by
  refine ⟨leads, ?_⟩
  intro other block id present
  by_cases same : index = other
  · subst same
    rw [List.getElem?_set_self inTasks] at present
    exact own block id (Option.some.inj present)
  · rw [List.getElem?_set_ne same] at present
    obtain ⟨short, executable, found⟩ := holds.written other block id present
    exact ⟨short, others other block id executable present found⟩

theorem holds_turn (considerate : compiler.Considerate scratch location)
    (holds : Holds scratch location pool) {index : Nat}
    (distinct : ∀ (block : Block) (id : UInt64) (other : Nat) (otherBlock : Block)
      (otherId : UInt64), pool.tasks[index]? = some (.numbered block id) →
        pool.tasks[other]? = some (.written otherBlock otherId) → otherId ≠ id) :
    Holds scratch location (pool.turn compiler scratch index) := by
  rcases turn_cases compiler scratch pool index with ⟨same, _⟩ | ⟨task, _, present, _, _, turned⟩
  · rw [same]
    exact holds
  · obtain ⟨inTasks, _⟩ := List.getElem?_eq_some_iff.mp present
    rw [turned]
    cases task with
    | waiting block =>
        exact holds.set inTasks holds.leads (by rintro _ _ ⟨⟩)
          fun _ _ _ executable _ found => ⟨executable, found⟩
    | admitted block =>
        exact holds.set inTasks holds.leads (by rintro _ _ ⟨⟩)
          fun _ _ _ executable _ found => ⟨executable, found⟩
    | numbered block id =>
        rw [Task.step]
        rcases holds.leads.writeFile_blockPath_cases id (Text.Utf8.encode block.source) with
          ⟨error, refused⟩ | ⟨executable, short, written, free⟩
        · rw [refused]
          exact holds.set inTasks holds.leads (by rintro _ _ ⟨⟩)
            fun _ _ _ executable _ found => ⟨executable, found⟩
        · rw [written]
          have inside : location ++ [BlockPath.fileName id.toNat] ≠ [] := by simp
          refine holds.set inTasks (holds.leads.store _ executable free) ?_ ?_
          · intro own ownId same
            cases same
            exact ⟨short, executable, FileTree.find?_store_self _ _ inside⟩
          · intro other otherBlock otherId otherExecutable otherPresent found
            have apart := distinct block id other otherBlock otherId present otherPresent
            have elsewhere : location ++ [BlockPath.fileName otherId.toNat] ≠
                location ++ [BlockPath.fileName id.toNat] := by
              intro same
              have names := (List.cons.inj (List.append_cancel_left same)).1
              exact apart (UInt64.toNat_inj.mp (BlockPath.fileName_inj names))
            exact ⟨otherExecutable, (FileTree.find?_store_of_ne _ _ elsewhere).trans found⟩
    | written block id =>
        have leads := considerate.leads block.source id pool.workshop.machine holds.leads
        refine holds.set inTasks leads (by rintro _ _ ⟨⟩) ?_
        intro other otherBlock otherId executable _ found
        exact considerate.leaves block.source id pool.workshop.machine holds.leads otherId _
          executable found
    | finished result =>
        exact holds.set inTasks holds.leads (by rintro _ _ ⟨⟩)
          fun _ _ _ executable _ found => ⟨executable, found⟩

end Turn

end Pool

namespace Session

/-- What a session is found to be after any number of steps. -/
structure Isolated (config : Config) (first : Workshop) (session : Session) : Prop where
  /-- Where there is a limit, no more blocks are between admission and completion. -/
  atWork : ∀ blocks ready compiler pool jobs, session.work = .going blocks ready compiler pool →
    config.jobs = some jobs → pool.load ≤ max jobs 1
  /-- No number is taken twice. -/
  nodup : (numbers session.log).Nodup
  /-- Blocks of whatever runs have different numbers, and no file bears the name of another's. -/
  apart : ∀ record ∈ session.log, ∀ other ∈ session.log, ∀ id otherId,
    record.deed = .number id → other.deed = .number otherId →
      (record.run, record.index) ≠ (other.run, other.index) →
        id ≠ otherId ∧ ∀ here here' file file',
          file ∈ (ScratchDir.ofConfig config).filesOf here id.toNat →
          file' ∈ (ScratchDir.ofConfig config).filesOf here' otherId.toNat →
            Path.fileName? file ≠ Path.fileName? file'
  /-- The settings that the compiler of the project writes for a block are among these files, and do
  not bear the name of the block's own file either. -/
  settings : ∀ id machine path,
    TypeScript.absolute machine ((ScratchDir.ofConfig config).blockPath id) = .ok path →
      TypeScript.settingsPath path ∈
          (ScratchDir.ofConfig config).filesOf (Machine.pathOf machine.here) id ∧
        Path.fileName? ((ScratchDir.ofConfig config).blockPath id) ≠
          Path.fileName? (TypeScript.settingsPath path)
  /-- Whatever is done is done for the block of a run. -/
  belongs : ∀ record ∈ session.log, ∃ blocks, session.runs[record.run]? = some blocks ∧
    record.index < blocks.length
  /-- A block takes one number, its source is written to the file of that number, and the compiler is
  given this source and this path, each at most once and in this order. -/
  inOrder : ∀ (run : Nat) (blocks : List Block) (index : Nat) (block : Block),
    session.runs[run]? = some blocks → blocks[index]? = some block →
      ∃ id : UInt64,
        let path := (ScratchDir.ofConfig config).blockPath id.toNat
        history session.log run index <+:
            [.begin, .number id, .write path, .compile block.source path] ∨
          history session.log run index = [.begin, .number id, .giveUp]
  /-- The sources are those of the snippets, localised. -/
  localised : ∀ blocks ∈ session.runs, Localised config blocks
  /-- While the compiler is at work on a block, the file holds the source of this block. -/
  running : ∀ blocks ready compiler pool, session.work = .going blocks ready compiler pool →
    ∀ (index : Nat) (block : Block) (id : UInt64),
      pool.tasks[index]? = some (.written block id) →
        blocks[index]? = some block ∧
        history session.log session.past.length index =
          [.begin, .number id, .write ((ScratchDir.ofConfig config).blockPath id.toNat)] ∧
        ∀ location, (ScratchDir.ofConfig config).LeadsTo location ready →
          compiler.Considerate (ScratchDir.ofConfig config) location →
            pool.workshop.machine.readFile ((ScratchDir.ofConfig config).blockPath id.toNat) =
              .ok (Text.Utf8.encode block.source)
  /-- In a run that has ended every block has been compiled, unless its file could not be written,
  which its result says then. -/
  once : ∀ (run : Nat) (ended : Ended), session.past[run]? = some ended →
    ended.results.length = ended.blocks.length ∧
      ∀ (index : Nat) (block : Block), ended.blocks[index]? = some block →
        ∃ (result : Result) (id : UInt64), ended.results[index]? = some result ∧
          let path := (ScratchDir.ofConfig config).blockPath id.toNat
          (history session.log run index =
              [.begin, .number id, .write path, .compile block.source path] ∧
            ∃ complaint, Task.finished result =
              Task.conclude (ScratchDir.ofConfig config) block complaint) ∨
          (history session.log run index = [.begin, .number id, .giveUp] ∧
            ∃ error, Task.finished result =
              Task.conclude (ScratchDir.ofConfig config) block (some (Task.unwritable path error)))
  /-- The compiler is given nothing else. -/
  checked : session.work.workshop.checked = (compiled session.log).reverse ++ first.checked

variable {config : Config} {toolchain : Toolchain} {first : Workshop} {session : Session}

private theorem Sound.nodup_numbers (sound : Sound config first session)
    (unwrapped : (numbers session.log).length ≤ UInt64.size) : (numbers session.log).Nodup := by
  rw [sound.numbers_eq]
  exact nodup_countFrom first.nextId unwrapped

/-- Where no number is taken twice, tasks with different indices have different numbers. -/
theorem Going.distinct {log : List Record} {run : Nat} {blocks : List Block} {pool : Pool}
    (going : Going config log run blocks pool) (nodup : (numbers log).Nodup) {index other : Nat}
    {block otherBlock : Block} {id otherId : UInt64}
    (present : pool.tasks[index]? = some (.numbered block id))
    (otherPresent : pool.tasks[other]? = some (.written otherBlock otherId)) : otherId ≠ id := by
  rintro rfl
  obtain ⟨_, _, past⟩ := going.exists_past present
  obtain ⟨_, _, otherPast⟩ := going.exists_past otherPresent
  have member := mem_history.mp (past.mem_number (Or.inl rfl))
  have otherMember := mem_history.mp (otherPast.mem_number (Or.inr rfl))
  have same := eq_of_number nodup member otherMember rfl rfl
  have indices : index = other := congrArg Record.index same
  rw [indices, otherPresent] at present
  cases present

/-- The files hold the sources in every run whose scratch directory holds no links at first and whose
compiler is considerate. -/
theorem Reachable.holds (reached : Reachable config toolchain first session)
    (unwrapped : (numbers session.log).length ≤ UInt64.size) :
    ∀ blocks ready compiler pool, session.work = .going blocks ready compiler pool →
      ∀ location, (ScratchDir.ofConfig config).LeadsTo location ready →
        compiler.Considerate (ScratchDir.ofConfig config) location →
          pool.Holds (ScratchDir.ofConfig config) location := by
  induction reached with
  | start => exact nofun
  | step reached step inductionHypothesis =>
      cases step with
      | change machine => exact nofun
      | start made prepared =>
          intro blocks ready compiler pool going location leads considerate
          cases going
          exact Pool.holds_start leads
      | finish finished => exact nofun
      | @turn past log blocks ready compiler pool index =>
          intro _ _ _ _ same location leads considerate
          cases same
          have before : (numbers log).length ≤ UInt64.size := by
            rw [numbers, List.filterMap_append, List.length_append] at unwrapped
            exact Nat.le_trans (Nat.le_add_right _ _) unwrapped
          have sound := sound_of_reachable reached
          have going := sound.going blocks ready compiler pool rfl
          have holds := inductionHypothesis before blocks ready compiler pool rfl location leads
            considerate
          exact Pool.holds_turn considerate holds fun _ _ _ _ _ =>
            going.distinct (sound.nodup_numbers before)

end Session

/-- Blocks are isolated in every session, as long as the numbers do not begin again. -/
theorem blocks_are_isolated {config : Config} {toolchain : Toolchain} {first : Workshop}
    {session : Session} (reached : Session.Reachable config toolchain first session)
    (unwrapped : (Session.numbers session.log).length ≤ UInt64.size) :
    Session.Isolated config first session := by
  have sound := Session.sound_of_reachable reached
  have nodup := sound.nodup_numbers unwrapped
  refine ⟨?_, nodup, ?_, ?_, sound.belongs, ?_, sound.localised, ?_, ?_, sound.checked_eq⟩
  · intro blocks ready compiler pool jobs going limited
    have permits := (sound.going blocks ready compiler pool going).permits
    rw [limited] at permits
    obtain ⟨left, _, total⟩ := Option.map_eq_some_iff.mp permits
    omega
  · intro record member other otherMember id otherId numbered otherNumbered different
    have apart : id ≠ otherId := by
      rintro rfl
      have same := Session.eq_of_number nodup member otherMember numbered otherNumbered
      exact different (same ▸ rfl)
    refine ⟨apart, fun here here' file file' ofBlock ofOther => ?_⟩
    exact ScratchDir.fileName?_ne_of_ne _ (fun same => apart (UInt64.toNat_inj.mp same)) ofBlock
      ofOther
  · intro id machine path absolute
    have known := ScratchDir.absolute?_of_absolute absolute
    exact ⟨ScratchDir.settingsPath_mem_filesOf _ known, ScratchDir.fileName?_settingsPath_ne _ known⟩
  · intro run blocks index block known present
    obtain ⟨task, past⟩ := sound.exists_past known present
    exact past.exists_id
  · intro blocks ready compiler pool going index block id present
    obtain ⟨own, known, past⟩ := (sound.going blocks ready compiler pool going).exists_past present
    obtain ⟨rfl, deeds⟩ := past.of_written
    refine ⟨known, deeds, fun location leads considerate => ?_⟩
    have holds := reached.holds unwrapped blocks ready compiler pool going location leads
      considerate
    obtain ⟨short, executable, found⟩ := holds.written index block id present
    exact holds.leads.readFile_blockPath short found
  · intro run ended found
    have isOver := sound.ends run ended found
    refine ⟨isOver.length, fun index block present => ?_⟩
    obtain ⟨result, isResult, past⟩ := isOver.past index block present
    obtain ⟨id, cases⟩ := past.of_finished
    exact ⟨result, id, isResult, cases⟩

/-- A session on the small project: one run with one block, whose task takes all turns. -/
theorem blocks_are_isolated_in_small_project :
    let first : Workshop := ⟨SmallProject.machine [], 7, []⟩
    let path := (ScratchDir.ofConfig SmallProject.config).blockPath 7
    ∃ session, Session.Reachable SmallProject.config SmallProject.toolchain first session ∧
      (Session.numbers session.log).length ≤ UInt64.size ∧ session.past.length = 1 ∧
      session.log = [⟨0, 0, .begin⟩, ⟨0, 0, .number 7⟩, ⟨0, 0, .write path⟩,
        ⟨0, 0, .compile "let a = b\n".toList path⟩] ∧
      Session.Isolated SmallProject.config first session := by
  intro first path
  let ready := ((ScratchDir.ofConfig SmallProject.config).reset first.machine).2
  let texts : Text → Text := fun _ => "```ts\nlet a = b\n```\n".toList
  let package : Package := ⟨"demo".toList, "index.js".toList⟩
  let label := "README.md → Code Block 1".toList
  let results : List Result := [⟨"README.md".toList, ⟨1, 1, "let a = b\n".toList⟩,
    some ⟨.typeCheck, "no b in ".toList ++ label, label ++ "(1,9): no b".toList, [⟨label, 1, 9⟩],
      [], []⟩⟩]
  let block : Block := ⟨"README.md".toList, ⟨1, 1, "let a = b\n".toList⟩, "let a = b\n".toList⟩
  have made : (ScratchDir.ofConfig SmallProject.config).reset first.machine = (.ok (), ready) :=
    Prod.ext rfl rfl
  have manifest : Package.ofProject SmallProject.config.projectRoot ready = .ok package := rfl
  have readable : ∀ document ∈ ["README.md".toList],
      ready.readText (Path.join SmallProject.config.projectRoot document) =
        .ok (texts document) := by
    intro document member
    cases List.mem_singleton.mp member
    rfl
  have created : SmallProject.toolchain SmallProject.config ready = .ok SmallProject.compiler := rfl
  have blocks : Run.blocksIn SmallProject.config
      (Localiser.ofPackage package ScratchDir.rootReference) texts ["README.md".toList] =
        [block] := by
    decide +kernel
  have prepared : Run.prepare SmallProject.config SmallProject.toolchain ["README.md".toList] ready =
      .work SmallProject.compiler [block] := by
    rw [Run.prepare_eq manifest readable created nofun, blocks]
    rfl
  have started := Session.Reachable.start.step (.start made prepared)
  have worked := (((started.step (.turn 0)).step (.turn 0)).step (.turn 0)).step (.turn 0)
  have ended := worked.step (@Session.Step.finish SmallProject.config SmallProject.toolchain _ _ _ _
    _ _ results (by decide +kernel))
  refine ⟨_, ended, ?_, rfl, ?_, blocks_are_isolated ended ?_⟩
  · decide +kernel
  · decide +kernel
  · decide +kernel

/-- Where the path of the scratch directory leads to an old directory once it is made, and something
else stands there under the name of the block file, the run comes to its end without the block having
been compiled, although the compiler leaves all files alone. -/
theorem not_compiled_with_directory_in_place_of_file :
    let config : Config := { SmallProject.config with scratchName := "x/../docs".toList }
    let machine := SmallProject.machine [(["demo".toList, "docs".toList], .directory),
      (["demo".toList, "docs".toList, "block-7.ts".toList], .directory)]
    let ready := ((ScratchDir.ofConfig config).reset machine).2
    let ended := run config SmallProject.toolchain ["README.md".toList] ⟨machine, 7, []⟩
    (∀ source path machine, (SmallProject.compiler.check source path machine).2 = machine) ∧
      (match Run.prepare config SmallProject.toolchain ["README.md".toList] ready with
        | .over _ => 0
        | .work _ blocks => blocks.length) = 1 ∧
      (match ended.1 with
        | .finished results => results.map Result.succeeded
        | _ => []) = [false] ∧
      ended.2.checked = [] :=
  ⟨fun _ _ _ => rfl, by decide +kernel, by decide +kernel, by decide +kernel⟩

end DocCheck
