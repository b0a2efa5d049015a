import DocCheck.Check.Run
import DocCheck.Proofs.Check.Pool

/-!
A run as a map over blocks. Main statement: where the scratch directory can be made and the manifest
and the documents can be read, a run ends with the results that the documents, the manifest and the
verdicts of the compiler determine, in whatever order the tasks take turns.
-/

namespace DocCheck.Run

/-! ## Blocks -/

/-- The blocks of documents with known texts. -/
def blocksIn (config : Config) (localiser : Localiser) (texts : Text → Text)
    (documents : List Text) : List Block :=
  documents.flatMap fun document =>
    (Snippet.ofDocument config.languages (texts document)).map fun snippet =>
      ⟨document, snippet, localiser.localise snippet.text⟩

theorem ofDocuments_eq {config : Config} (localiser : Localiser) {machine : Machine}
    {texts : Text → Text} {documents : List Text}
    (readable : ∀ document ∈ documents,
      machine.readText (Path.join config.projectRoot document) = .ok (texts document)) :
    Block.ofDocuments config localiser machine documents =
      .ok (blocksIn config localiser texts documents) := by
  induction documents with
  | nil => rfl
  | cons document documents inductionHypothesis =>
      have first := readable document List.mem_cons_self
      have rest := inductionHypothesis fun document member =>
        readable document (List.mem_cons_of_mem _ member)
      rw [Block.ofDocuments, Block.ofDocument, Snippet.ofFile, first, rest]
      rfl

/-- The results that texts and verdicts determine, the file of every block bearing the same
number. -/
def expected (config : Config) (package : Package) (texts : Text → Text) (verdict : Verdict)
    (number : Nat) (documents : List Text) : List Result :=
  documents.flatMap fun document =>
    (Snippet.ofDocument config.languages (texts document)).map fun snippet =>
      { document := document
        snippet := snippet
        error :=
          (verdict ((Localiser.ofPackage package ScratchDir.rootReference).localise
              snippet.text)).map fun complaint =>
            (complaint.diagnostic ((ScratchDir.ofConfig config).blockPath number)).scrub
              (ScratchDir.ofConfig config).blockPattern (blockLabel document snippet.index) }

theorem map_outcome_blocksIn (config : Config) (package : Package) (texts : Text → Text)
    (verdict : Verdict) (number : Nat) (documents : List Text) :
    (blocksIn config (Localiser.ofPackage package ScratchDir.rootReference) texts documents).map
        (Block.outcome (ScratchDir.ofConfig config) verdict number) =
      expected config package texts verdict number documents := by
  rw [blocksIn, expected, List.map_flatMap]
  congr 1
  funext document
  rw [List.map_map]
  rfl

/-! ## Runs -/

/-- Tasks that have come to any point of a run can all be finished. -/
theorem exists_runInOrder (order : List Nat) (config : Config) (toolchain : Toolchain)
    (documents : List Text) (workshop : Workshop) :
    ∃ more ended, runInOrder (order ++ more) config toolchain documents workshop =
      some ended := by
  simp only [runInOrder]
  rcases (ScratchDir.ofConfig config).reset workshop.machine with ⟨failure | _, ready⟩
  · exact ⟨[], _, rfl⟩
  · simp only [inScratchInOrder]
    rcases prepare config toolchain documents ready with ending | ⟨compiler, blocks⟩
    · exact ⟨[], _, rfl⟩
    · have permits := (Pool.permits_after compiler (ScratchDir.ofConfig config) order _).trans
        (Pool.permits_start config.jobs blocks { workshop with machine := ready })
      obtain ⟨more, finished⟩ := Pool.exists_order compiler (ScratchDir.ofConfig config) permits
      rw [← Pool.after_append] at finished
      obtain ⟨results, ends⟩ := Pool.exists_results finished
      dsimp only
      exact ⟨more, _, by rw [ends]; rfl⟩

theorem cleanUp_eq {scratch : ScratchDir} (normal : scratch.Normal) (ending : RunEnd)
    {workshop : Workshop} (workspace : Workspace scratch workshop.machine) :
    (cleanUp scratch ending workshop).1 = ending := by
  have removed := workspace.remove normal
  cases ending with
  | finished results =>
      unfold cleanUp
      dsimp only
      rw [removed]
  | failed failure => rfl
  | abandoned => rfl

theorem exceedsMostJobs_eq_false {config : Config} (jobs : ∀ jobs ∈ config.jobs, jobs ≤ mostJobs) :
    exceedsMostJobs config = false := by
  rw [exceedsMostJobs]
  cases limit : config.jobs with
  | none => rfl
  | some count => simpa using jobs count limit

section Ready

variable {config : Config} {toolchain : Toolchain} {documents : List Text} {package : Package}
  {texts : Text → Text} {compiler : Compiler} {outcome : Block → Result} {ready : Machine}

/-- With documents that can be read, a compiler and a limit that can be counted nothing but a lack
of blocks keeps a run from its work. -/
theorem prepare_eq (manifest : Package.ofProject config.projectRoot ready = .ok package)
    (readable : ∀ document ∈ documents,
      ready.readText (Path.join config.projectRoot document) = .ok (texts document))
    (created : toolchain config ready = .ok compiler)
    (jobs : ∀ jobs ∈ config.jobs, jobs ≤ mostJobs) :
    let blocks :=
      blocksIn config (Localiser.ofPackage package ScratchDir.rootReference) texts documents
    prepare config toolchain documents ready =
      if blocks.isEmpty then .over (.finished []) else .work compiler blocks := by
  intro blocks
  have collected : Run.blocks config documents ready = .ok blocks := by
    rw [Run.blocks, manifest]
    exact ofDocuments_eq _ readable
  rw [prepare, collected]
  cases blocks with
  | nil => rfl
  | cons block blocks =>
      dsimp only
      rw [created, exceedsMostJobs_eq_false jobs]
      rfl

variable (workshop : Workshop) (normal : (ScratchDir.ofConfig config).Normal)
  (jobs : ∀ jobs ∈ config.jobs, jobs ≤ mostJobs)
  (workspace : Workspace (ScratchDir.ofConfig config) workshop.machine)
  (manifest : Package.ofProject config.projectRoot workshop.machine = .ok package)
  (readable : ∀ document ∈ documents,
    workshop.machine.readText (Path.join config.projectRoot document) = .ok (texts document))
  (created : toolchain config workshop.machine = .ok compiler)
  (settles : compiler.Settles (ScratchDir.ofConfig config) outcome)

include normal jobs workspace manifest readable created settles

theorem inScratch_spec :
    (inScratch config toolchain documents workshop).1 =
        .finished ((blocksIn config (Localiser.ofPackage package ScratchDir.rootReference) texts
          documents).map outcome) ∧
      Workspace (ScratchDir.ofConfig config)
        (inScratch config toolchain documents workshop).2.machine := by
  have prepared := prepare_eq manifest readable created jobs
  rw [inScratch, prepared]
  generalize blocksIn config (Localiser.ofPackage package ScratchDir.rootReference) texts
    documents = blocks
  cases blocks with
  | nil => exact ⟨rfl, workspace⟩
  | cons block blocks =>
      obtain ⟨results, kept⟩ := Task.completeAll_spec normal settles (block :: blocks) workspace
      exact ⟨congrArg RunEnd.finished results, kept⟩

theorem inScratchInOrder_spec (order : List Nat) {ending : RunEnd} {after : Workshop}
    (ended : inScratchInOrder order config toolchain documents workshop = some (ending, after)) :
    ending = .finished ((blocksIn config (Localiser.ofPackage package ScratchDir.rootReference)
        texts documents).map outcome) ∧
      Workspace (ScratchDir.ofConfig config) after.machine := by
  have prepared := prepare_eq manifest readable created jobs
  rw [inScratchInOrder, prepared] at ended
  generalize blocksIn config (Localiser.ofPackage package ScratchDir.rootReference) texts
    documents = blocks at ended ⊢
  cases blocks with
  | nil =>
      cases ended
      exact ⟨rfl, workspace⟩
  | cons block blocks =>
      obtain ⟨results, finished, pair⟩ := Option.map_eq_some_iff.mp ended
      cases pair
      have begins := Pool.sound_start outcome config.jobs (block :: blocks) workspace
      have sound := Pool.sound_after normal settles begins order
      exact ⟨congrArg RunEnd.finished (sound.results_eq finished), sound.workspace⟩

end Ready

/-- A run whose scratch directory can be made ends with the outcomes of the blocks, whether they are
compiled one after the other or their tasks take turns, and tasks that have come to any point can all
be finished. -/
theorem refines_of_settles {config : Config} {toolchain : Toolchain} {documents : List Text}
    {workshop : Workshop} {ready : Machine} {package : Package} {texts : Text → Text}
    {compiler : Compiler} {outcome : Block → Result}
    (normal : (ScratchDir.ofConfig config).Normal)
    (jobs : ∀ jobs ∈ config.jobs, jobs ≤ mostJobs)
    (made : (ScratchDir.ofConfig config).reset workshop.machine = (.ok (), ready))
    (workspace : Workspace (ScratchDir.ofConfig config) ready)
    (manifest : Package.ofProject config.projectRoot ready = .ok package)
    (readable : ∀ document ∈ documents,
      ready.readText (Path.join config.projectRoot document) = .ok (texts document))
    (created : toolchain config ready = .ok compiler)
    (settles : compiler.Settles (ScratchDir.ofConfig config) outcome) :
    let results := (blocksIn config (Localiser.ofPackage package ScratchDir.rootReference) texts
      documents).map outcome
    (run config toolchain documents workshop).1 = .finished results ∧
      (∀ order ending after,
        runInOrder order config toolchain documents workshop = some (ending, after) →
          ending = .finished results) ∧
      ∀ order, ∃ more ended,
        runInOrder (order ++ more) config toolchain documents workshop = some ended := by
  refine ⟨?_, ?_, ?_⟩
  · obtain ⟨ending, still⟩ := inScratch_spec { workshop with machine := ready } normal jobs
      workspace manifest readable created settles
    rw [run, made]
    dsimp only
    rw [cleanUp_eq normal _ still, ending]
  · intro order ending after ended
    rw [runInOrder, made] at ended
    obtain ⟨⟨inside, left⟩, done, pair⟩ := Option.map_eq_some_iff.mp ended
    obtain ⟨inside_eq, still⟩ := inScratchInOrder_spec { workshop with machine := ready } normal
      jobs workspace manifest readable created settles order done
    rw [← inside_eq, ← cleanUp_eq normal inside still, pair]
  · intro order
    exact exists_runInOrder order config toolchain documents workshop

end DocCheck.Run

namespace DocCheck

/-- A run refines a map over blocks. Once the scratch directory is made, it ends with what the texts
of the documents, the manifest and the verdicts determine, whether the blocks are compiled one after
the other or their tasks take turns; tasks that have come to any point can all be finished; and it
makes no difference which number the file of a block bears. -/
theorem run_refines_map {config : Config} {toolchain : Toolchain} {documents : List Text}
    {workshop : Workshop} {ready : Machine} {package : Package} {texts : Text → Text}
    {compiler : Compiler} {verdict : Verdict}
    (rooted : config.projectRoot ≠ [])
    (named : config.scratchName ≠ [])
    (plain : ∀ c ∈ config.scratchName, BlockPath.isNameChar c = true)
    (jobs : ∀ jobs ∈ config.jobs, jobs ≤ Run.mostJobs)
    (made : (ScratchDir.ofConfig config).reset workshop.machine = (.ok (), ready))
    (workspace : Workspace (ScratchDir.ofConfig config) ready)
    (manifest : Package.ofProject config.projectRoot ready = .ok package)
    (readable : ∀ document ∈ documents,
      ready.readText (Path.join config.projectRoot document) = .ok (texts document))
    (created : toolchain config ready = .ok compiler)
    (given : verdict.Given compiler (ScratchDir.ofConfig config)) (number : Nat) :
    (run config toolchain documents workshop).1 =
        .finished (Run.expected config package texts verdict number documents) ∧
      (∀ order ending after,
        runInOrder order config toolchain documents workshop = some (ending, after) →
          ending = .finished (Run.expected config package texts verdict number documents)) ∧
      (∀ order, ∃ more ended,
        runInOrder (order ++ more) config toolchain documents workshop = some ended) ∧
      ∀ result ∈ Run.expected config package texts verdict number documents,
        result.succeeded = true → result.linesWithErrors = [] := by
  have proper : (ScratchDir.ofConfig config).Proper :=
    ScratchDir.proper_inProject rooted named plain
  have refines := Run.refines_of_settles proper.normal jobs made workspace manifest readable created
    (given.settles proper number)
  rw [Run.map_outcome_blocksIn] at refines
  refine ⟨refines.1, refines.2.1, refines.2.2, ?_⟩
  intro result _ succeeded
  rw [Result.linesWithErrors, Option.isNone_iff_eq_none.mp succeeded]

/-! ## A small project -/

namespace SmallProject

/-- A package with a document of one block, and what else stands in its directory. -/
def machine (others : List (Location × Entry)) : Machine where
  files := ⟨(["demo".toList], .directory) ::
    (["demo".toList, "package.json".toList],
      .file (Text.Utf8.encode "\x7b\"name\": \"demo\"\x7d".toList) false) ::
    (["demo".toList, "README.md".toList],
      .file (Text.Utf8.encode "```ts\nlet a = b\n```\n".toList) false) :: others⟩
  here := ["demo".toList]
  searchPath := []

def config : Config :=
  Config.ofProject ".".toList

/-- The verdict that rejects every source and says in which file. -/
def verdict : Verdict := fun _ =>
  some ⟨.typeCheck, [.fixed "no b in ".toList, .path], [.path, .fixed "(1,9): no b".toList],
    [([.path], 1, 9)], [], []⟩

/-- The compiler that gives this verdict and leaves the files alone. -/
def compiler : Compiler where
  check := fun source path machine =>
    ((verdict source).map fun complaint => complaint.diagnostic path, machine)

def toolchain : Toolchain := fun _ _ => .ok compiler

private theorem verdict_given : verdict.Given compiler (ScratchDir.ofConfig config) where
  check := fun _ _ _ => rfl
  separate := by
    intro source complaint judged text member id
    cases judged
    simp only [Complaint.texts, List.map_cons, List.map_nil, List.append_nil, List.mem_cons,
      List.not_mem_nil, or_false] at member
    rcases member with rfl | rfl | rfl
    · exact ⟨rfl, trivial⟩
    · exact ⟨rfl, trivial⟩
    · exact ⟨rfl, trivial⟩
  keeps := fun _ _ _ workspace => workspace

end SmallProject

/-- The run on the small project, whichever task takes a turn and whatever the number of the next
block is. -/
theorem run_refines_map_in_small_project :
    let workshop : Workshop := ⟨SmallProject.machine [], 7, []⟩
    let documents := ["README.md".toList]
    let label := "README.md → Code Block 1".toList
    let results : List Result := [⟨"README.md".toList, ⟨1, 1, "let a = b\n".toList⟩,
      some ⟨.typeCheck, "no b in ".toList ++ label, label ++ "(1,9): no b".toList, [⟨label, 1, 9⟩],
        [], []⟩⟩]
    (run SmallProject.config SmallProject.toolchain documents workshop).1 = .finished results ∧
      ∀ order ending after,
        runInOrder order SmallProject.config SmallProject.toolchain documents workshop =
            some (ending, after) → ending = .finished results := by
  intro workshop documents label results
  let scratch := ScratchDir.ofConfig SmallProject.config
  let ready := (scratch.reset workshop.machine).2
  let texts : Text → Text := fun _ => "```ts\nlet a = b\n```\n".toList
  have plain : ∀ c ∈ SmallProject.config.scratchName, BlockPath.isNameChar c = true :=
    Text.forall_mem_of_all (by decide)
  have proper : scratch.Proper := ScratchDir.proper_inProject (by decide) (by decide) plain
  have made : scratch.reset workshop.machine = (.ok (), ready) := Prod.ext rfl rfl
  have found : ready.findSelf scratch.path =
      .ok (.present ["demo".toList, "compiled-docs".toList] .directory) := rfl
  have workspace : Workspace scratch ready := Workspace.of_empty proper.normal found rfl (by decide)
  have manifest : Package.ofProject SmallProject.config.projectRoot ready =
      .ok ⟨"demo".toList, "index.js".toList⟩ := rfl
  have readable : ∀ document ∈ documents,
      ready.readText (Path.join SmallProject.config.projectRoot document) =
        .ok (texts document) := by
    intro document member
    cases List.mem_singleton.mp member
    rfl
  have created : SmallProject.toolchain SmallProject.config ready = .ok SmallProject.compiler := rfl
  have refines := run_refines_map (by decide) (by decide) plain nofun made workspace manifest
    readable created SmallProject.verdict_given 1
  have outcome : Run.expected SmallProject.config ⟨"demo".toList, "index.js".toList⟩ texts
      SmallProject.verdict 1 documents = results := by
    decide +kernel
  rw [outcome] at refines
  exact ⟨refines.1, refines.2.1⟩

/-- Where a file stands in the way of the scratch directory there are no results, although the
manifest and the document can be read and there is a compiler. -/
theorem not_finished_with_file_in_the_way :
    let machine := SmallProject.machine [(["demo".toList, "compiled-docs".toList], .file [] false)]
    let scratch := ScratchDir.ofConfig SmallProject.config
    (∀ c ∈ SmallProject.config.scratchName, BlockPath.isNameChar c = true) ∧
      SmallProject.config.jobs = none ∧
      Package.ofProject SmallProject.config.projectRoot machine =
        .ok ⟨"demo".toList, "index.js".toList⟩ ∧
      machine.readText (Path.join SmallProject.config.projectRoot "README.md".toList) =
        .ok "```ts\nlet a = b\n```\n".toList ∧
      SmallProject.toolchain SmallProject.config machine = .ok SmallProject.compiler ∧
      SmallProject.verdict.Given SmallProject.compiler scratch ∧
      (run SmallProject.config SmallProject.toolchain ["README.md".toList] ⟨machine, 7, []⟩).1 =
        .failed (.scratchDir scratch.path .notDirectory) :=
  ⟨Text.forall_mem_of_all (by decide), rfl, rfl, rfl, rfl, SmallProject.verdict_given,
    by decide +kernel⟩

end DocCheck
