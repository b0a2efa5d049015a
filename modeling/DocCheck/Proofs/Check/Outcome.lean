import DocCheck.Proofs.Check.CleanUp
import DocCheck.Proofs.Check.Turns

/-!
How a run ends. Its stages come one after the other: the scratch directory is made, the manifest and
the documents are read, the compiler is got ready, the blocks are checked and the scratch directory is
removed. Main statement: the first stage that fails decides how the run ends, and what becomes of a
block never does.
-/

namespace DocCheck

/-! ## Documents that cannot be read -/

/-- A path with this error names nothing, but that is not what the system says of it: the path leads
through a file, a name is too long, there are too many links, or it holds the character that ends
paths. -/
def FileError.Misleads (error : FileError) : Prop :=
  error = notDirectory ∨ error = nameTooLong ∨ error = tooManyLinks ∨ error = nulInPath

namespace FileTree

private theorem walk_error (tree : FileTree) (follow : Bool) (links : Nat) (here : Location)
    (names : List Text) {error : FileError} (fails : tree.walk follow links here names = .error error) :
    error = .notFound ∨ error.Misleads := by
  induction names generalizing here with
  | nil =>
      rw [walk_nil] at fails
      cases fails
  | cons name rest inductionHypothesis =>
      by_cases noStay : name = ['.']
      · subst noStay
        rw [walk_stay] at fails
        exact inductionHypothesis here fails
      by_cases noParent : name = ['.', '.']
      · subst noParent
        rw [walk_parent] at fails
        exact inductionHypothesis here.dropLast fails
      by_cases long : nameLimit < Text.byteLength name
      · rw [walk_eq, walkSteps, if_pos long] at fails
        cases fails
        exact Or.inr (Or.inr (Or.inl rfl))
      rw [walk_cons (Nat.not_lt.mp long) noStay noParent] at fails
      cases present : tree.find? (here ++ [name]) with
      | none =>
          rw [present] at fails
          dsimp only at fails
          split at fails <;> cases fails
          exact Or.inl rfl
      | some entry =>
          rw [present] at fails
          cases entry with
          | directory => exact inductionHypothesis _ fails
          | file content executable =>
              dsimp only at fails
              split at fails <;> cases fails
              exact Or.inr (Or.inl rfl)
          | link target =>
              dsimp only at fails
              split at fails
              · cases fails
              · split at fails
                · cases fails
                  exact Or.inl rfl
                · cases links with
                  | zero =>
                      cases fails
                      exact Or.inr (Or.inr (Or.inr (Or.inl rfl)))
                  | succ links => exact walk_error tree follow links _ _ fails
termination_by links

end FileTree

namespace Machine

variable {machine : Machine} {path : Text}

private theorem find_error {error : FileError} (fails : machine.find path = .error error) :
    error = .notFound ∨ error.Misleads := by
  rw [find, FileTree.resolve] at fails
  split at fails
  · cases fails
    exact Or.inr (Or.inr (Or.inr (Or.inr rfl)))
  · split at fails
    · cases fails
      exact Or.inl rfl
    · split at fails
      · cases fails
        exact Or.inr (Or.inr (Or.inl rfl))
      · exact FileTree.walk_error _ _ _ _ _ fails

/-- The system says of a path that there is nothing only if there is nothing. -/
private theorem isPresent_of_readText {error : FileError}
    (fails : machine.readText path = .error error) :
    (machine.isPresent path = false ∧ error = .notFound) ∨
      (error ≠ .notFound ∧ (machine.isPresent path = true ∨ error.Misleads)) := by
  rw [readText, readFile] at fails
  rw [isPresent, entry?]
  cases found : machine.find path with
  | error failure =>
      rw [found] at fails
      cases fails
      by_cases missing : error = .notFound
      · exact Or.inl ⟨rfl, missing⟩
      · exact Or.inr ⟨missing, Or.inr ((find_error found).resolve_left missing)⟩
  | ok place =>
      rw [found] at fails
      cases place with
      | absent directory name =>
          cases fails
          exact Or.inl ⟨rfl, rfl⟩
      | present location entry =>
          refine Or.inr ⟨?_, Or.inl rfl⟩
          rintro rfl
          cases entry with
          | file content executable =>
              dsimp only at fails
              split at fails <;> cases fails
          | _ => cases fails

end Machine

/-- What a run fails with where a document cannot be read. -/
def Failure.ofReading (path : Text) (error : FileError) : Failure :=
  if error = .notFound then .documentNotFound path else .io error

namespace Block

section Documents

variable {config : Config} {localiser : Localiser} {machine : Machine}

private theorem ofDocument_of_error {document : Text} {error : FileError}
    (unread : machine.readText (Path.join config.projectRoot document) = .error error) :
    ofDocument config localiser machine document =
      .error (.ofReading (Path.join config.projectRoot document) error) := by
  rw [ofDocument, Snippet.ofFile, unread, Failure.ofReading]
  dsimp only
  split <;> rfl

/-- The first document that cannot be read decides. -/
theorem exists_of_ofDocuments_error {documents : List Text} {failure : Failure}
    (failed : ofDocuments config localiser machine documents = .error failure) :
    ∃ document ∈ documents, ∃ error,
      machine.readText (Path.join config.projectRoot document) = .error error ∧
        failure = .ofReading (Path.join config.projectRoot document) error := by
  induction documents with
  | nil => cases failed
  | cons document documents inductionHypothesis =>
      rw [ofDocuments] at failed
      cases read : machine.readText (Path.join config.projectRoot document) with
      | error error =>
          rw [ofDocument_of_error read] at failed
          cases failed
          exact ⟨document, List.mem_cons_self, error, read, rfl⟩
      | ok text =>
          rw [ofDocument, Snippet.ofFile, read] at failed
          cases others : ofDocuments config localiser machine documents with
          | error later =>
              rw [others] at failed
              cases failed
              obtain ⟨document, member, rest⟩ := inductionHypothesis others
              exact ⟨document, List.mem_cons_of_mem _ member, rest⟩
          | ok blocks =>
              rw [others] at failed
              cases failed

private theorem exists_text_of_ofDocuments_ok {documents : List Text} {blocks : List Block}
    (collected : ofDocuments config localiser machine documents = .ok blocks) :
    ∀ document ∈ documents, ∃ text,
      machine.readText (Path.join config.projectRoot document) = .ok text := by
  induction documents generalizing blocks with
  | nil => exact nofun
  | cons document documents inductionHypothesis =>
      rw [ofDocuments] at collected
      cases read : machine.readText (Path.join config.projectRoot document) with
      | error error =>
          rw [ofDocument_of_error read] at collected
          cases collected
      | ok text =>
          rw [ofDocument, Snippet.ofFile, read] at collected
          cases others : ofDocuments config localiser machine documents with
          | error later =>
              rw [others] at collected
              cases collected
          | ok rest =>
              intro other member
              rcases List.mem_cons.mp member with rfl | later
              · exact ⟨text, read⟩
              · exact inductionHypothesis others other later

/-- Blocks are those of documents with known texts. -/
theorem eq_blocksIn_of_ofDocuments_ok {documents : List Text} {blocks : List Block}
    (collected : ofDocuments config localiser machine documents = .ok blocks) :
    ∃ texts : Text → Text,
      (∀ document ∈ documents,
        machine.readText (Path.join config.projectRoot document) = .ok (texts document)) ∧
      blocks = Run.blocksIn config localiser texts documents := by
  have readable := exists_text_of_ofDocuments_ok collected
  let texts : Text → Text := fun document =>
    (machine.readText (Path.join config.projectRoot document)).toOption.getD []
  have known : ∀ document ∈ documents,
      machine.readText (Path.join config.projectRoot document) = .ok (texts document) := by
    intro document member
    obtain ⟨text, read⟩ := readable document member
    simp only [texts, read, Except.toOption, Option.getD_some]
  rw [Run.ofDocuments_eq localiser known] at collected
  cases collected
  exact ⟨texts, known, rfl⟩

end Documents

end Block

private theorem Package.exists_of_ofProject_error {projectRoot : Text} {machine : Machine}
    {failure : Failure} (failed : ofProject projectRoot machine = .error failure) :
    ∃ message, failure = .manifest (Path.join projectRoot Manifest.fileName) message := by
  rw [ofProject] at failed
  split at failed
  · cases failed
    exact ⟨_, rfl⟩
  · split at failed
    · cases failed
    · cases failed
      exact ⟨_, rfl⟩

namespace Run

/-! ## The stages of a run -/

/-- The scratch directory has been made, and the manifest and the documents have been read. -/
structure Collected (config : Config) (documents : List Text) (workshop : Workshop)
    (ready : Machine) (blocks : List Block) : Prop where
  made : (ScratchDir.ofConfig config).reset workshop.machine = (.ok (), ready)
  read : ∃ (package : Package) (texts : Text → Text),
    Package.ofProject config.projectRoot ready = .ok package ∧
      (∀ document ∈ documents,
        ready.readText (Path.join config.projectRoot document) = .ok (texts document)) ∧
      blocks = blocksIn config (Localiser.ofPackage package ScratchDir.rootReference) texts documents

/-- What a run with results ends with, by whether the scratch directory can be removed. -/
def closing (scratch : ScratchDir) (results : List Result) (machine : Machine) : RunEnd :=
  match (Machine.removeTree scratch.path machine).1 with
  | .ok () => .finished results
  | .error error =>
      if error = .notFound then .finished results
      else .failed (.scratchDir scratch.path error)

/-- The end of a run by the first of its stages that fails, or by none. -/
inductive Outcome (order : List Nat) (config : Config) (toolchain : Toolchain)
    (documents : List Text) (workshop : Workshop) : RunEnd → Prop
  | unmade {error : FileError} {left : Machine} :
      (ScratchDir.ofConfig config).reset workshop.machine =
        (.error (.scratchDir (ScratchDir.ofConfig config).path error), left) →
      Outcome order config toolchain documents workshop
        (.failed (.scratchDir (ScratchDir.ofConfig config).path error))
  | noManifest {ready : Machine} {message : Text} :
      (ScratchDir.ofConfig config).reset workshop.machine = (.ok (), ready) →
      Package.ofProject config.projectRoot ready =
        .error (.manifest (Path.join config.projectRoot Manifest.fileName) message) →
      Outcome order config toolchain documents workshop
        (.failed (.manifest (Path.join config.projectRoot Manifest.fileName) message))
  | missing {ready : Machine} {package : Package} {document : Text} :
      (ScratchDir.ofConfig config).reset workshop.machine = (.ok (), ready) →
      Package.ofProject config.projectRoot ready = .ok package →
      document ∈ documents →
      ready.isPresent (Path.join config.projectRoot document) = false →
      ready.readText (Path.join config.projectRoot document) = .error .notFound →
      Outcome order config toolchain documents workshop
        (.failed (.documentNotFound (Path.join config.projectRoot document)))
  | unreadable {ready : Machine} {package : Package} {document : Text} {error : FileError} :
      (ScratchDir.ofConfig config).reset workshop.machine = (.ok (), ready) →
      Package.ofProject config.projectRoot ready = .ok package →
      document ∈ documents →
      ready.readText (Path.join config.projectRoot document) = .error error →
      error ≠ .notFound →
      ready.isPresent (Path.join config.projectRoot document) = true ∨ error.Misleads →
      Outcome order config toolchain documents workshop (.failed (.io error))
  -- Without blocks nothing is asked of a compiler.
  | noBlocks {ready : Machine} :
      Collected config documents workshop ready [] →
      Outcome order config toolchain documents workshop
        (closing (ScratchDir.ofConfig config) [] ready)
  | noCompiler {ready : Machine} {blocks : List Block} {failure : Failure} :
      Collected config documents workshop ready blocks →
      blocks ≠ [] →
      toolchain config ready = .error failure →
      Outcome order config toolchain documents workshop (.failed failure)
  | checked {ready : Machine} {blocks : List Block} {compiler : Compiler} {results : List Result} :
      Collected config documents workshop ready blocks →
      blocks ≠ [] →
      toolchain config ready = .ok compiler →
      results.length = blocks.length →
      (∀ (index : Nat) (block : Block), blocks[index]? = some block →
        ∃ result, results[index]? = some result ∧
          block.ComesTo compiler (ScratchDir.ofConfig config)
            ((Pool.start config.jobs blocks { workshop with machine := ready }).Finds compiler
              (ScratchDir.ofConfig config) order index .numbered)
            ((Pool.start config.jobs blocks { workshop with machine := ready }).Finds compiler
              (ScratchDir.ofConfig config) order index .written) result) →
      Outcome order config toolchain documents workshop
        (closing (ScratchDir.ofConfig config) results
          ((Pool.start config.jobs blocks { workshop with machine := ready }).after compiler
            (ScratchDir.ofConfig config) order).workshop.machine)

section Ends

variable {order : List Nat} {config : Config} {toolchain : Toolchain} {documents : List Text}
  {workshop : Workshop}

private theorem cleanUp_finished (scratch : ScratchDir) (results : List Result)
    (workshop : Workshop) :
    (cleanUp scratch (.finished results) workshop).1 =
      closing scratch results workshop.machine := by
  unfold cleanUp ScratchDir.remove closing
  rcases Machine.removeTree scratch.path workshop.machine with ⟨error | _, left⟩
  · by_cases missing : error = .notFound
    · simp only [if_pos missing]
    · simp only [if_neg missing]
  · rfl

private theorem collected_of_blocks_eq_ok {ready : Machine} {blocks : List Block}
    (made : (ScratchDir.ofConfig config).reset workshop.machine = (.ok (), ready))
    (collected : Run.blocks config documents ready = .ok blocks) :
    Collected config documents workshop ready blocks := by
  rw [Run.blocks] at collected
  split at collected
  · cases collected
  · next package manifest =>
      obtain ⟨texts, readable, isBlocks⟩ := Block.eq_blocksIn_of_ofDocuments_ok collected
      exact ⟨made, package, texts, manifest, readable, isBlocks⟩

private theorem outcome_of_blocks_eq_error {ready : Machine} {failure : Failure}
    (made : (ScratchDir.ofConfig config).reset workshop.machine = (.ok (), ready))
    (failed : Run.blocks config documents ready = .error failure) :
    Outcome order config toolchain documents workshop (.failed failure) := by
  rw [Run.blocks] at failed
  split at failed
  · next refused manifest =>
      cases failed
      obtain ⟨message, rfl⟩ := Package.exists_of_ofProject_error manifest
      exact .noManifest made manifest
  · next package manifest =>
      obtain ⟨document, member, error, unread, rfl⟩ := Block.exists_of_ofDocuments_error failed
      rcases Machine.isPresent_of_readText unread with ⟨absent, rfl⟩ | ⟨other, why⟩
      · exact .missing made manifest member absent unread
      · rw [Failure.ofReading, if_neg other]
        exact .unreadable made manifest member unread other why

theorem outcome_of_runInOrder (jobs : ∀ jobs ∈ config.jobs, jobs ≤ mostJobs) {ending : RunEnd}
    {after : Workshop}
    (ended : runInOrder order config toolchain documents workshop = some (ending, after)) :
    Outcome order config toolchain documents workshop ending := by
  rcases reset : (ScratchDir.ofConfig config).reset workshop.machine with ⟨failure | _, ready⟩
  · rw [runInOrder, reset] at ended
    cases ended
    obtain ⟨error, rfl⟩ := (ScratchDir.ofConfig config).exists_of_reset_error _ reset
    exact .unmade reset
  · rw [runInOrder, reset] at ended
    obtain ⟨⟨inside, left⟩, done, cleaned⟩ := Option.map_eq_some_iff.mp ended
    have isEnding := congrArg Prod.fst cleaned
    dsimp only at isEnding
    rw [← isEnding]
    rw [inScratchInOrder, prepare] at done
    cases read : Run.blocks config documents ready with
    | error failure =>
        rw [read] at done
        cases done
        exact outcome_of_blocks_eq_error reset read
    | ok blocks =>
        have collected := collected_of_blocks_eq_ok reset read
        rw [read] at done
        cases blocks with
        | nil =>
            cases done
            rw [cleanUp_finished]
            exact .noBlocks collected
        | cons block blocks =>
            dsimp only at done
            cases created : toolchain config ready with
            | error failure =>
                rw [created] at done
                cases done
                exact .noCompiler collected (List.cons_ne_nil _ _) created
            | ok compiler =>
                rw [created, exceedsMostJobs_eq_false jobs] at done
                obtain ⟨results, finished, pair⟩ := Option.map_eq_some_iff.mp done
                cases pair
                obtain ⟨length, comesTo⟩ := Pool.comesTo_of_results? finished
                rw [cleanUp_finished]
                exact .checked collected (List.cons_ne_nil _ _) created length comesTo

private theorem exists_inScratchInOrder_eq (config : Config) (toolchain : Toolchain)
    (documents : List Text) (workshop : Workshop) :
    ∃ order, inScratchInOrder order config toolchain documents workshop =
      some (inScratch config toolchain documents workshop) := by
  simp only [inScratchInOrder, inScratch]
  rcases prepare config toolchain documents workshop.machine with ending | ⟨compiler, blocks⟩
  · exact ⟨[], rfl⟩
  · have available : config.jobs.map (max 1) ≠ some 0 := by
      intro none
      cases isJobs : config.jobs with
      | none =>
          rw [isJobs] at none
          cases none
      | some jobs =>
          rw [isJobs] at none
          have := Option.some.inj none
          omega
    obtain ⟨order, finished⟩ := Pool.exists_after_completeAll compiler (ScratchDir.ofConfig config)
      [] blocks available workshop
    refine ⟨order, ?_⟩
    dsimp only [Pool.start]
    rw [List.map_nil, List.nil_append] at finished
    rw [finished, Pool.results?, List.nil_append, Pool.mapM_result?_map_finished]
    rfl

/-- Blocks that are checked one after the other are checked in one of the orders. -/
theorem exists_runInOrder_eq_run (config : Config) (toolchain : Toolchain)
    (documents : List Text) (workshop : Workshop) :
    ∃ order, runInOrder order config toolchain documents workshop =
      some (run config toolchain documents workshop) := by
  simp only [runInOrder, run]
  rcases (ScratchDir.ofConfig config).reset workshop.machine with ⟨failure | _, ready⟩
  · exact ⟨[], rfl⟩
  · obtain ⟨order, same⟩ := exists_inScratchInOrder_eq config toolchain documents
      { workshop with machine := ready }
    refine ⟨order, ?_⟩
    dsimp only
    rw [same]
    rfl

/-- Where no blocks are read, it makes no difference which compiler there is, or whether there is
one. -/
theorem runInOrder_eq_of_no_blocks
    (empty : ∀ ready blocks, Collected config documents workshop ready blocks → blocks = [])
    (order : List Nat) (other : Toolchain) :
    runInOrder order config other documents workshop =
      runInOrder order config toolchain documents workshop := by
  simp only [runInOrder]
  rcases reset : (ScratchDir.ofConfig config).reset workshop.machine with ⟨failure | _, ready⟩
  · rfl
  · simp only [inScratchInOrder, prepare]
    cases read : Run.blocks config documents ready with
    | error failure => rfl
    | ok blocks =>
        rw [empty ready blocks (collected_of_blocks_eq_ok reset read)]

end Ends

end Run

/-- The first stage of a run that fails decides how it ends, in whatever order the tasks take turns,
and what becomes of a block never does. Every run can be brought to its end, the run that checks one
block after the other is one in some order, and where there are no blocks it makes no difference
whether there is a compiler. -/
theorem run_ends_by_first_failure {config : Config} (toolchain : Toolchain)
    (documents : List Text) (workshop : Workshop)
    (jobs : ∀ jobs ∈ config.jobs, jobs ≤ Run.mostJobs) :
    (∀ order ending after,
      runInOrder order config toolchain documents workshop = some (ending, after) →
        Run.Outcome order config toolchain documents workshop ending) ∧
      (∀ order, ∃ more ended,
        runInOrder (order ++ more) config toolchain documents workshop = some ended) ∧
      (∃ order, runInOrder order config toolchain documents workshop =
        some (run config toolchain documents workshop)) ∧
      ((∀ ready blocks, Run.Collected config documents workshop ready blocks → blocks = []) →
        ∀ order other, runInOrder order config other documents workshop =
          runInOrder order config toolchain documents workshop) :=
  ⟨fun _ _ _ => Run.outcome_of_runInOrder jobs,
    fun order => Run.exists_runInOrder order config toolchain documents workshop,
    Run.exists_runInOrder_eq_run config toolchain documents workshop,
    Run.runInOrder_eq_of_no_blocks⟩

namespace SmallProject

/-- A document of two blocks. -/
def twoBlocks : Machine where
  files := ⟨[(["demo".toList], .directory),
    (["demo".toList, "package.json".toList],
      .file (Text.Utf8.encode "\x7b\"name\": \"demo\"\x7d".toList) false),
    (["demo".toList, "README.md".toList],
      .file (Text.Utf8.encode "```ts\na\n```\n```ts\nb\n```\n".toList) false)]⟩
  here := ["demo".toList]
  searchPath := []

/-- A compiler that is content with every source, but removes the scratch directory. -/
def vandal : Toolchain := fun config _ =>
  .ok { check := fun _ _ machine => (none, (ScratchDir.ofConfig config).drop machine) }

end SmallProject

/-- After the first block the scratch directory is gone and the second block cannot be written. The run
has a result for it all the same. -/
theorem run_ends_by_first_failure_without_directory :
    let results : List Result := [⟨"README.md".toList, ⟨1, 1, "a\n".toList⟩, none⟩,
      ⟨"README.md".toList, ⟨2, 4, "b\n".toList⟩,
        some (Diagnostic.crash ("cannot write README.md → Code Block 2: ".toList ++
          "No such file or directory (os error 2)".toList))⟩]
    ∃ order, Run.Outcome order SmallProject.config SmallProject.vandal ["README.md".toList]
      ⟨SmallProject.twoBlocks, 7, []⟩ (.finished results) := by
  intro results
  have finished : (run SmallProject.config SmallProject.vandal ["README.md".toList]
      ⟨SmallProject.twoBlocks, 7, []⟩).1 = .finished results := by
    decide +kernel
  have jobs : ∀ jobs ∈ SmallProject.config.jobs, jobs ≤ Run.mostJobs := nofun
  have ends := run_ends_by_first_failure SmallProject.vandal ["README.md".toList]
    ⟨SmallProject.twoBlocks, 7, []⟩ jobs
  obtain ⟨order, same⟩ := ends.2.2.1
  rcases isRun : run SmallProject.config SmallProject.vandal ["README.md".toList]
    ⟨SmallProject.twoBlocks, 7, []⟩ with ⟨ending, after⟩
  rw [isRun] at same finished
  have outcome := ends.1 order ending after same
  exact ⟨order, finished ▸ outcome⟩

/-- There is no document below a file, but it is not reported as not found. -/
theorem not_documentNotFound_below_file :
    let machine := SmallProject.machine []
    let documents := ["README.md/x".toList]
    (∀ jobs ∈ SmallProject.config.jobs, jobs ≤ Run.mostJobs) ∧
      machine.isPresent (Path.join SmallProject.config.projectRoot "README.md/x".toList) = false ∧
      (run SmallProject.config SmallProject.toolchain documents ⟨machine, 7, []⟩).1 =
        .failed (.io .notDirectory) :=
  ⟨nofun, rfl, by decide +kernel⟩

end DocCheck
