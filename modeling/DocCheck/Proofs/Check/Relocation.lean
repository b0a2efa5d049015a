import DocCheck.Proofs.Check.CleanUp
import DocCheck.Proofs.Diagnostic.Delimiter

/-!
One project under different roots. Main statement: what runs report of a project does not depend on
its root, for any compiler that quotes the paths of blocks between delimiters only, exactly if no root
holds a delimiter or there is nothing to report on.
-/

namespace DocCheck

/-! ## Paths between delimiters -/

namespace Fragment

/-- The character that the first text of its own among fragments begins with, if no path comes
before it. -/
def next? : List Fragment → Option Char
  | [] => none
  | .fixed text :: fragments => text.head?.or (next? fragments)
  | .path :: _ => none

/-- Behind the character `before`, every path stands at the beginning or behind a delimiter, and no
word goes on behind it. The path of a block file ends in `s`. -/
def Delimited (before : Option Char) : List Fragment → Prop
  | [] => True
  | .fixed text :: fragments => Delimited (text.getLast?.or before) fragments
  | .path :: fragments =>
      (∀ c ∈ before, BlockPath.isDelimiter c = true) ∧ Text.endsWord (next? fragments) = true ∧
        Delimited (some 's') fragments

/-- Behind a path there is no other one, so the path has no say in how a text goes on. -/
private theorem head?_fill {before : Char} (inWord : BlockPath.isDelimiter before = false)
    (path : Text) {fragments : List Fragment} (delimited : Delimited (some before) fragments) :
    (fill path fragments).head? = next? fragments := by
  induction fragments with
  | nil => rfl
  | cons fragment fragments inductionHypothesis =>
      cases fragment with
      | fixed text =>
          rw [fill, next?, List.head?_append]
          cases text with
          | nil => exact inductionHypothesis delimited
          | cons c text => rfl
      | path =>
          have delimits := delimited.1 before rfl
          rw [inWord] at delimits
          cases delimits

section Replacement

variable {name : Text} (plain : BlockPath.IsPlain name) {path other : Text}
  (shown : BlockPath.IsShown name path) (otherShown : BlockPath.IsShown name other)

include plain shown otherShown

/-- Between delimiters one path is as good as another. -/
private theorem replaceAll_append_path {lead rest : Text}
    (before : ∀ c ∈ lead.getLast?, BlockPath.isDelimiter c = true)
    (ends : Text.endsWord rest.head? = true) (replacement : Text) :
    Text.replaceAll (BlockPath.pattern name) (fun _ _ => replacement) (lead ++ (path ++ rest)) =
      Text.replaceAll (BlockPath.pattern name) (fun _ _ => replacement)
        (lead ++ (other ++ rest)) := by
  have same := (BlockPath.replaceAll_append_of_isShown plain shown ends replacement).trans
    (BlockPath.replaceAll_append_of_isShown plain otherShown ends replacement).symm
  rcases List.eq_nil_or_concat lead with rfl | ⟨front, d, rfl⟩
  · exact same
  · have delimits : BlockPath.isDelimiter d = true := before d (by simp)
    simp only [List.concat_eq_append, List.append_assoc, List.singleton_append,
      BlockPath.replaceAll_append_delimiter plain.undelimited delimits, same]

private theorem replaceAll_append_fill {fragments : List Fragment} {lead : Text}
    (delimited : Delimited lead.getLast? fragments) (replacement : Text) :
    Text.replaceAll (BlockPath.pattern name) (fun _ _ => replacement)
        (lead ++ fill path fragments) =
      Text.replaceAll (BlockPath.pattern name) (fun _ _ => replacement)
        (lead ++ fill other fragments) := by
  induction fragments generalizing lead with
  | nil => rfl
  | cons fragment fragments inductionHypothesis =>
      cases fragment with
      | fixed text =>
          rw [fill, fill, ← List.append_assoc, ← List.append_assoc]
          apply inductionHypothesis
          rw [List.getLast?_append]
          exact delimited
      | path =>
          obtain ⟨before, ends, behind⟩ := delimited
          have inWord : BlockPath.isDelimiter 's' = false := by decide
          rw [← head?_fill inWord path behind] at ends
          rw [fill, fill, replaceAll_append_path plain shown otherShown before ends,
            ← List.append_assoc, ← List.append_assoc]
          apply inductionHypothesis
          rw [List.getLast?_append, otherShown.getLast?_eq]
          exact behind

end Replacement

end Fragment

/-! ## Paths of block files under a root -/

namespace ScratchDir

variable {root name : Text} (named : Path.IsFileName name)

include named

/-- The path of a block file is made of the root, if there is one, and the names in it. -/
private theorem blockPath_inProject_cases (root : Text) :
    (root = [] ∧ ∀ id, (inProject root name).blockPath id =
      name ++ '/' :: BlockPath.fileName id) ∨
    ∃ lead, (root = lead ∨ root = lead ++ ['/']) ∧ ∀ id, (inProject root name).blockPath id =
      lead ++ BlockPath.quoted name (Text.decimal id) [] := by
  have normal := normal_inProject root named
  rcases named.join_cases root with ⟨empty, path⟩ | ⟨lead, isRoot, path⟩
  · refine Or.inl ⟨empty, fun id => ?_⟩
    rw [normal.blockPath_eq, inProject, path]
  · refine Or.inr ⟨lead, isRoot, fun id => ?_⟩
    rw [normal.blockPath_eq, inProject, path]
    simp [BlockPath.fileName, BlockPath.quoted]

private theorem isShown_blockPath (undelimited : ∀ c ∈ root, BlockPath.isDelimiter c = false)
    (id : Nat) :
    BlockPath.IsShown name ((inProject root name).blockPath id) := by
  have number := BlockPath.isNumber_decimal id
  rcases blockPath_inProject_cases named root with ⟨_, paths⟩ | ⟨lead, isRoot, paths⟩
  · rw [paths, BlockPath.fileName, List.append_assoc]
    exact .alone number
  · rw [paths]
    refine .inside (fun c member => undelimited c ?_) number
    rcases isRoot with rfl | rfl
    · exact member
    · exact List.mem_append_left _ member

/-- Up to the last delimiter of the root all paths of block files are the same. -/
private theorem exists_of_delimiter {c : Char} (member : c ∈ root)
    (delimits : BlockPath.isDelimiter c = true) :
    ∃ front d, BlockPath.isDelimiter d = true ∧ ∀ id, ∃ path, BlockPath.IsShown name path ∧
      (inProject root name).blockPath id = front ++ d :: path := by
  rcases blockPath_inProject_cases named root with ⟨rfl, _⟩ | ⟨lead, isRoot, paths⟩
  · cases member
  · have inLead : c ∈ lead := by
      rcases isRoot with rfl | rfl
      · exact member
      · rcases List.mem_append.mp member with inLead | isSlash
        · exact inLead
        · rw [List.mem_singleton.mp isSlash] at delimits
          exact absurd delimits (by decide)
    rcases Text.exists_last_of_class BlockPath.isDelimiter lead with none |
      ⟨front, d, back, rfl, isLast, undelimited⟩
    · rw [none c inLead] at delimits
      cases delimits
    · refine ⟨front, d, isLast,
        fun id => ⟨_, .inside undelimited (BlockPath.isNumber_decimal id), ?_⟩⟩
      rw [paths, List.append_assoc, List.cons_append]

/-- Before the replacement of a path nothing is left exactly if the root holds no delimiter. -/
private theorem exists_replaceAll_blockPath (plain : BlockPath.IsPlain name)
    (root replacement : Text) :
    ∃ kept : Text, (kept = [] ↔ ∀ c ∈ root, BlockPath.isDelimiter c = false) ∧
      ∀ id, Text.replaceAll (BlockPath.pattern name) (fun _ _ => replacement)
        ((inProject root name).blockPath id) = kept ++ replacement := by
  by_cases undelimited : ∀ c ∈ root, BlockPath.isDelimiter c = false
  · refine ⟨[], ⟨fun _ => undelimited, fun _ => rfl⟩, fun id => ?_⟩
    have shown := isShown_blockPath named undelimited id
    exact BlockPath.replaceAll_of_isShown plain shown replacement
  · obtain ⟨c, member, delimits⟩ : ∃ c ∈ root, BlockPath.isDelimiter c = true := by
      simpa using undelimited
    obtain ⟨front, d, isLast, paths⟩ := exists_of_delimiter named member delimits
    refine ⟨Text.replaceAll (BlockPath.pattern name) (fun _ _ => replacement) front ++ [d],
      by simp [undelimited], fun id => ?_⟩
    obtain ⟨path, shown, whole⟩ := paths id
    rw [whole, BlockPath.replaceAll_append_delimiter plain.undelimited isLast,
      BlockPath.replaceAll_of_isShown plain shown, List.append_assoc, List.singleton_append]

end ScratchDir

/-! ## Verdicts and outcomes -/

namespace Verdict

/-- Every text of a complaint quotes the path of the block between delimiters only. -/
def Delimited (verdict : Verdict) : Prop :=
  ∀ source complaint, verdict source = some complaint →
    ∀ text ∈ complaint.texts, Fragment.Delimited none text

/-- The compiler gives these verdicts wherever the sources are written, and what it does to the files
leaves the scratch directory to the blocks. -/
structure Answers (verdict : Verdict) (compiler : Compiler) (scratch : ScratchDir) : Prop where
  check : ∀ source path machine, (compiler.check source path machine).1 =
    (verdict source).map fun complaint => complaint.diagnostic path
  keeps : ∀ source path machine, Workspace scratch machine →
    Workspace scratch (compiler.check source path machine).2

/-- The compiler that gives these verdicts and leaves the files alone. -/
def compiler (verdict : Verdict) : Compiler where
  check := fun source path machine =>
    ((verdict source).map fun complaint => complaint.diagnostic path, machine)

/-- The toolchain with this compiler, wherever it is asked for it. -/
def toolchain (verdict : Verdict) : Toolchain := fun _ _ => .ok verdict.compiler

private theorem answers_compiler (verdict : Verdict) (scratch : ScratchDir) :
    verdict.Answers verdict.compiler scratch where
  check := fun _ _ _ => rfl
  keeps := fun _ _ _ workspace => workspace

/-- The verdict that rejects every source and says no more than where it is. -/
def quoting : Verdict := fun _ => some ⟨.typeCheck, [], [.path], [], [], []⟩

private theorem delimited_quoting : quoting.Delimited := by
  intro source complaint judged text member
  cases judged
  rcases List.mem_cons.mp member with rfl | member
  · exact trivial
  · obtain rfl := List.mem_singleton.mp member
    exact ⟨fun c isLast => absurd isLast (Option.not_mem_none c), rfl, trivial⟩

end Verdict

namespace Block

private theorem outcome_quoting {scratch : ScratchDir} {block : Block} {id : Nat} {shown : Text}
    (replaced : Text.replaceAll scratch.blockPattern (fun _ _ => block.label)
      (scratch.blockPath id) = shown) :
    block.outcome scratch Verdict.quoting id =
      block.result (some ⟨.typeCheck, [], shown, [], [], []⟩) := by
  have nothing := BlockPath.replaceAll_nil scratch.name block.label
  rw [← ScratchDir.blockPattern] at nothing
  simp only [outcome, Verdict.quoting, Option.map_some, Diagnostic.scrub, Diagnostic.mapTexts,
    Complaint.diagnostic, Fragment.fill, List.append_nil, List.map_nil, nothing, replaced]

/-- Where a block is said to be shows what is left of the root. -/
private theorem exists_outcome_quoting {name : Text} (named : Path.IsFileName name)
    (plain : BlockPath.IsPlain name) (root : Text) (block : Block) :
    ∃ kept : Text, (kept = [] ↔ ∀ c ∈ root, BlockPath.isDelimiter c = false) ∧
      ∀ id, block.outcome (ScratchDir.inProject root name) Verdict.quoting id =
        block.result (some ⟨.typeCheck, [], kept ++ block.label, [], [], []⟩) := by
  obtain ⟨kept, forgets, replaced⟩ :=
    ScratchDir.exists_replaceAll_blockPath named plain root block.label
  exact ⟨kept, forgets, fun id => outcome_quoting (replaced id)⟩

/-- Where the root holds no delimiter, a block comes to what it comes to without a root. -/
private theorem outcome_eq_of_undelimited {root name : Text} (named : Path.IsFileName name)
    (plain : BlockPath.IsPlain name) (undelimited : ∀ c ∈ root, BlockPath.isDelimiter c = false)
    {verdict : Verdict} (delimited : verdict.Delimited) (id other : Nat) (block : Block) :
    block.outcome (ScratchDir.inProject root name) verdict id =
      block.outcome (ScratchDir.inProject [] name) verdict other := by
  rw [outcome, outcome]
  cases judged : verdict block.source with
  | none => rfl
  | some complaint =>
      have shown := ScratchDir.isShown_blockPath named undelimited id
      have alone := @ScratchDir.isShown_blockPath [] name named (List.forall_mem_nil _) other
      have same : ∀ text ∈ complaint.texts,
          Text.replaceAll (BlockPath.pattern name) (fun _ _ => block.label)
              (Fragment.fill ((ScratchDir.inProject root name).blockPath id) text) =
            Text.replaceAll (BlockPath.pattern name) (fun _ _ => block.label)
              (Fragment.fill ((ScratchDir.inProject [] name).blockPath other) text) := by
        intro text member
        have quoted : Fragment.Delimited ([] : Text).getLast? text :=
          delimited block.source complaint judged text member
        exact Fragment.replaceAll_append_fill plain shown alone quoted block.label
      exact congrArg (fun diagnostic => block.result (some diagnostic))
        (Complaint.mapTexts_diagnostic_eq same)

end Block

/-! ## Runs -/

namespace Run

/-- The scratch directory can be made, and then the project holds the package and documents with these
texts, and has room for the files of blocks. -/
structure IsReady (config : Config) (package : Package) (texts : Text → Text)
    (documents : List Text) (workshop : Workshop) (ready : Machine) : Prop where
  made : (ScratchDir.ofConfig config).reset workshop.machine = (.ok (), ready)
  workspace : Workspace (ScratchDir.ofConfig config) ready
  manifest : Package.ofProject config.projectRoot ready = .ok package
  readable : ∀ document ∈ documents,
    ready.readText (Path.join config.projectRoot document) = .ok (texts document)

/-- What is reported where the project has no root, so that all paths are seen from within it. -/
def rootless (config : Config) (package : Package) (texts : Text → Text) (verdict : Verdict)
    (documents : List Text) : List Result :=
  expected { config with projectRoot := [] } package texts verdict 0 documents

private theorem rootless_eq_map (config : Config) (package : Package) (texts : Text → Text)
    (verdict : Verdict) (documents : List Text) :
    rootless config package texts verdict documents =
      (blocksIn config (Localiser.ofPackage package ScratchDir.rootReference) texts documents).map
        (Block.outcome (ScratchDir.inProject [] config.scratchName) verdict 0) :=
  (map_outcome_blocksIn { config with projectRoot := [] } package texts verdict 0 documents).symm

private theorem blocksIn_eq_nil {config : Config} (localiser : Localiser) {texts : Text → Text}
    {documents : List Text} (empty : ∀ document ∈ documents,
      Snippet.ofDocument config.languages (texts document) = []) :
    blocksIn config localiser texts documents = [] := by
  rw [blocksIn, List.flatMap_eq_nil_iff]
  intro document isDocument
  rw [empty document isDocument, List.map_nil]

section Ready

variable {config : Config} {package : Package} {texts : Text → Text} {documents : List Text}
  {workshop : Workshop} {ready : Machine} {toolchain : Toolchain} {compiler : Compiler}
  (named : Path.IsFileName config.scratchName) (plain : BlockPath.IsPlain config.scratchName)
  (jobs : ∀ jobs ∈ config.jobs, jobs ≤ mostJobs)
  (isReady : IsReady config package texts documents workshop ready)

include named plain jobs isReady

/-- Where the root holds no delimiter, a run reports what it reports without a root. -/
theorem eq_rootless_of_undelimited
    (undelimited : ∀ c ∈ config.projectRoot, BlockPath.isDelimiter c = false)
    {verdict : Verdict} (delimited : verdict.Delimited)
    (created : toolchain config ready = .ok compiler)
    (answers : verdict.Answers compiler (ScratchDir.ofConfig config))
    {order : Option (List Nat)} {ending : RunEnd} {after : Workshop}
    (ended : runBy order config toolchain documents workshop = some (ending, after)) :
    ending = .finished (rootless config package texts verdict documents) := by
  have settles : compiler.Settles (ScratchDir.ofConfig config)
      (Block.outcome (ScratchDir.inProject [] config.scratchName) verdict 0) := by
    refine ⟨fun block id machine => ?_, answers.keeps⟩
    rw [Verdict.conclude_check answers.check]
    exact congrArg Task.finished
      (Block.outcome_eq_of_undelimited named plain undelimited delimited id 0 block)
  have refines := refines_of_settles (ScratchDir.normal_inProject _ named) jobs isReady.made
    isReady.workspace isReady.manifest isReady.readable created settles
  rw [rootless_eq_map]
  cases order with
  | none =>
      rw [runBy, Option.some_inj] at ended
      rw [← refines.1, ended]
  | some order => exact refines.2.1 order ending after ended

/-- Where a run reports the paths of blocks as it does without a root, the root holds no delimiter. -/
theorem undelimited_of_eq_rootless {document : Text} (isDocument : document ∈ documents)
    (reports : Snippet.ofDocument config.languages (texts document) ≠ [])
    (same : (run config Verdict.quoting.toolchain documents workshop).1 =
      .finished (rootless config package texts Verdict.quoting documents)) :
    ∀ c ∈ config.projectRoot, BlockPath.isDelimiter c = false := by
  have answers := Verdict.quoting.answers_compiler (ScratchDir.ofConfig config)
  have settles : Verdict.quoting.compiler.Settles (ScratchDir.ofConfig config)
      (Block.outcome (ScratchDir.ofConfig config) Verdict.quoting 0) := by
    refine ⟨fun block id machine => ?_, answers.keeps⟩
    obtain ⟨kept, _, outcomes⟩ := block.exists_outcome_quoting named plain config.projectRoot
    rw [Verdict.conclude_check answers.check]
    exact congrArg Task.finished ((outcomes id).trans (outcomes 0).symm)
  have created : Verdict.quoting.toolchain config ready = .ok Verdict.quoting.compiler := rfl
  have refines := refines_of_settles (ScratchDir.normal_inProject _ named) jobs isReady.made
    isReady.workspace isReady.manifest isReady.readable created settles
  have results := RunEnd.finished.inj (refines.1.symm.trans same)
  rw [rootless_eq_map] at results
  obtain ⟨snippet, isSnippet⟩ := List.exists_mem_of_ne_nil _ reports
  let localiser := Localiser.ofPackage package ScratchDir.rootReference
  let block : Block := ⟨document, snippet, localiser.localise snippet.text⟩
  have isBlock : block ∈ blocksIn config localiser texts documents :=
    List.mem_flatMap.mpr ⟨document, isDocument, List.mem_map.mpr ⟨snippet, isSnippet, rfl⟩⟩
  have alike := List.map_inj_left.mp results block isBlock
  obtain ⟨kept, forgets, outcomes⟩ := block.exists_outcome_quoting named plain config.projectRoot
  obtain ⟨none, forgets', outcomes'⟩ := block.exists_outcome_quoting named plain []
  have errors := congrArg Result.error ((outcomes 0).symm.trans (alike.trans (outcomes' 0)))
  have details : kept ++ block.label = none ++ block.label :=
    congrArg Diagnostic.detail (Option.some.inj errors)
  rw [forgets'.mpr (List.forall_mem_nil _)] at details
  exact forgets.mp (List.append_cancel_right details)

omit plain in
/-- Where there is nothing to report on, nothing is reported, whatever the root. -/
private theorem eq_finished_nil (empty : ∀ document ∈ documents,
      Snippet.ofDocument config.languages (texts document) = [])
    (created : toolchain config ready = .ok compiler)
    {order : Option (List Nat)} {ending : RunEnd} {after : Workshop}
    (ended : runBy order config toolchain documents workshop = some (ending, after)) :
    ending = .finished [] := by
  have prepared : prepare config toolchain documents ready = .over (.finished []) := by
    rw [prepare_eq isReady.manifest isReady.readable created jobs, blocksIn_eq_nil _ empty]
    rfl
  rw [runBy_of_reset_ok isReady.made] at ended
  obtain ⟨⟨inside, left⟩, done, pair⟩ := Option.map_eq_some_iff.mp ended
  rcases inScratchBy_cases done with ⟨isOver, rfl⟩ | ⟨_, _, _, work, _⟩
  · have inside_eq : inside = .finished [] := Prepared.over.inj (isOver.symm.trans prepared)
    have normal : (ScratchDir.ofConfig config).Normal := ScratchDir.normal_inProject _ named
    have kept := @cleanUp_eq _ normal inside { workshop with machine := ready } isReady.workspace
    exact (congrArg Prod.fst pair).symm.trans (kept.trans inside_eq)
  · cases prepared.symm.trans work

end Ready

end Run

/-- A project under two roots. What is reported of it does not depend on the root, and is what would
be reported without one, whatever compiler is asked that gives its verdicts on sources and quotes the
paths of blocks between delimiters only, exactly if there is nothing to report on or neither root
holds a delimiter. -/
theorem reports_forget_roots_iff {config config' : Config} {package : Package}
    {texts : Text → Text} {documents : List Text} {workshop workshop' : Workshop}
    {ready ready' : Machine}
    (scratchName : config'.scratchName = config.scratchName)
    (languages : config'.languages = config.languages)
    (named : Path.IsFileName config.scratchName) (plain : BlockPath.IsPlain config.scratchName)
    (jobs : ∀ jobs ∈ config.jobs, jobs ≤ Run.mostJobs)
    (jobs' : ∀ jobs ∈ config'.jobs, jobs ≤ Run.mostJobs)
    (isReady : Run.IsReady config package texts documents workshop ready)
    (isReady' : Run.IsReady config' package texts documents workshop' ready') :
    (∀ (verdict : Verdict) (toolchain toolchain' : Toolchain) (compiler compiler' : Compiler),
      verdict.Delimited →
      toolchain config ready = .ok compiler → toolchain' config' ready' = .ok compiler' →
      verdict.Answers compiler (ScratchDir.ofConfig config) →
      verdict.Answers compiler' (ScratchDir.ofConfig config') →
      ∀ order order' ending ending' after after',
        runBy order config toolchain documents workshop = some (ending, after) →
        runBy order' config' toolchain' documents workshop' = some (ending', after') →
        ending = ending' ∧
          ending = .finished (Run.rootless config package texts verdict documents)) ↔
    (∀ document ∈ documents, Snippet.ofDocument config.languages (texts document) = []) ∨
      (∀ c ∈ config.projectRoot, BlockPath.isDelimiter c = false) ∧
        ∀ c ∈ config'.projectRoot, BlockPath.isDelimiter c = false := by
  have named' : Path.IsFileName config'.scratchName := scratchName ▸ named
  have plain' : BlockPath.IsPlain config'.scratchName := scratchName ▸ plain
  have rootless (verdict : Verdict) : Run.rootless config' package texts verdict documents =
      Run.rootless config package texts verdict documents := by
    rw [Run.rootless_eq_map, Run.rootless_eq_map, Run.blocksIn, Run.blocksIn, scratchName,
      languages]
  constructor
  · intro forget
    refine Classical.or_iff_not_imp_left.mpr fun some => ?_
    obtain ⟨document, isDocument, reports⟩ : ∃ document ∈ documents,
        Snippet.ofDocument config.languages (texts document) ≠ [] := by
      simpa using some
    have endings := forget Verdict.quoting Verdict.quoting.toolchain Verdict.quoting.toolchain
      _ _ Verdict.delimited_quoting rfl rfl (Verdict.quoting.answers_compiler _)
      (Verdict.quoting.answers_compiler _) none none _ _ _ _ Run.runBy_none Run.runBy_none
    refine ⟨Run.undelimited_of_eq_rootless named plain jobs isReady isDocument reports endings.2,
      Run.undelimited_of_eq_rootless named' plain' jobs' isReady' isDocument ?_ ?_⟩
    · rwa [languages]
    · rw [rootless]
      exact endings.1.symm.trans endings.2
  · rintro (empty | ⟨undelimited, undelimited'⟩) verdict toolchain toolchain' compiler compiler'
      delimited created created' answers answers' order order' ending ending' after after'
      ended ended'
    · have first := Run.eq_finished_nil named jobs isReady empty created ended
      have second :=
        Run.eq_finished_nil named' jobs' isReady' (languages.symm ▸ empty) created' ended'
      refine ⟨first.trans second.symm, ?_⟩
      rw [first, Run.rootless_eq_map, Run.blocksIn_eq_nil _ empty, List.map_nil]
    · have first := Run.eq_rootless_of_undelimited named plain jobs isReady undelimited delimited
        created answers ended
      have second := Run.eq_rootless_of_undelimited named' plain' jobs' isReady' undelimited'
        delimited created' answers' ended'
      rw [rootless] at second
      exact ⟨first.trans second.symm, first⟩

namespace SmallProject

private theorem delimited_verdict : verdict.Delimited := by
  intro source complaint judged text member
  cases judged
  simp only [Complaint.texts, List.map_cons, List.map_nil, List.append_nil, List.mem_cons,
    List.not_mem_nil, or_false] at member
  rcases member with rfl | rfl | rfl
  · refine ⟨fun c isLast => ?_, rfl, trivial⟩
    obtain rfl : ' ' = c := Option.some.inj isLast
    decide
  · exact ⟨fun c isLast => absurd isLast (Option.not_mem_none c), rfl, trivial⟩
  · exact ⟨fun c isLast => absurd isLast (Option.not_mem_none c), rfl, trivial⟩

private theorem answers_verdict (scratch : ScratchDir) : verdict.Answers compiler scratch where
  check := fun _ _ _ => rfl
  keeps := fun _ _ _ workspace => workspace

private theorem isFileName_scratchName : Path.IsFileName Config.defaultScratchName :=
  ScratchDir.isFileName_of_isNameChar (by decide) (Text.forall_mem_of_all (by decide))

private theorem isPlain_scratchName : BlockPath.IsPlain Config.defaultScratchName :=
  BlockPath.isPlain_of_isNameChar (Text.forall_mem_of_all (by decide))

/-- The small project is ready wherever its root is seen from. -/
private theorem isReady {root : Text} (isRoot : root = ".".toList ∨ root = "/demo".toList) :
    Run.IsReady (Config.ofProject root) ⟨"demo".toList, "index.js".toList⟩
      (fun _ => "```ts\nlet a = b\n```\n".toList) ["README.md".toList] ⟨machine [], 7, []⟩
      ((ScratchDir.ofConfig (Config.ofProject root)).reset (machine [])).2 := by
  let scratch := ScratchDir.ofConfig (Config.ofProject root)
  have made : (scratch.reset (machine [])).1 = .ok () := by
    rcases isRoot with rfl | rfl <;> rfl
  have found : (scratch.reset (machine [])).2.findSelf scratch.path =
      .ok (.present ["demo".toList, "compiled-docs".toList] .directory) := by
    rcases isRoot with rfl | rfl <;> rfl
  have empty : (scratch.reset (machine [])).2.files.hasChildren
      ["demo".toList, "compiled-docs".toList] = false := by
    rcases isRoot with rfl | rfl <;> rfl
  have room : Text.byteLength scratch.path + 30 < FileTree.pathLimit := by
    rcases isRoot with rfl | rfl <;> decide
  have normal : scratch.Normal := ScratchDir.normal_inProject root isFileName_scratchName
  refine ⟨Prod.ext made rfl, Workspace.of_empty normal found empty room, ?_, ?_⟩
  · rcases isRoot with rfl | rfl <;> rfl
  · intro document member
    cases List.mem_singleton.mp member
    rcases isRoot with rfl | rfl <;> rfl

end SmallProject

/-- The small project, seen from within it and from the root of the tree. -/
theorem reports_forget_roots_in_small_project :
    let workshop : Workshop := ⟨SmallProject.machine [], 7, []⟩
    let ending (root : Text) : RunEnd :=
      (run (Config.ofProject root) SmallProject.toolchain ["README.md".toList] workshop).1
    let label := "README.md → Code Block 1".toList
    ending ".".toList = ending "/demo".toList ∧
      ending ".".toList = .finished [⟨"README.md".toList, ⟨1, 1, "let a = b\n".toList⟩,
        some ⟨.typeCheck, "no b in ".toList ++ label, label ++ "(1,9): no b".toList, [⟨label, 1, 9⟩],
          [], []⟩⟩] := by
  intro workshop ending label
  have here := SmallProject.isReady (Or.inl rfl)
  have above := SmallProject.isReady (Or.inr rfl)
  have undelimited : (∀ c ∈ ".".toList, BlockPath.isDelimiter c = false) ∧
      ∀ c ∈ "/demo".toList, BlockPath.isDelimiter c = false :=
    ⟨Text.forall_mem_of_all (by decide), Text.forall_mem_of_all (by decide)⟩
  have endings := (@reports_forget_roots_iff (Config.ofProject ".".toList)
    (Config.ofProject "/demo".toList) _ _ _ _ _ _ _ rfl rfl SmallProject.isFileName_scratchName
    SmallProject.isPlain_scratchName nofun nofun here above).mpr (Or.inr undelimited)
    SmallProject.verdict SmallProject.toolchain SmallProject.toolchain _ _
    SmallProject.delimited_verdict rfl rfl (SmallProject.answers_verdict _)
    (SmallProject.answers_verdict _) none none _ _ _ _ Run.runBy_none Run.runBy_none
  refine ⟨endings.1, endings.2.trans ?_⟩
  decide +kernel

/-- Up to its last blank a root is left before the label of a block, in every text that quotes the
path of the block. -/
theorem reports_keep_root_with_blank :
    let manifest := Entry.file (Text.Utf8.encode "\x7b\"name\": \"demo\"\x7d".toList) false
    let document := Entry.file (Text.Utf8.encode "```ts\nlet a = b\n```\n".toList) false
    let machine := SmallProject.machine [(["my demo".toList], .directory),
      (["my demo".toList, "package.json".toList], manifest),
      (["my demo".toList, "README.md".toList], document)]
    let ending (root : Text) : RunEnd :=
      (run (Config.ofProject root) SmallProject.toolchain ["README.md".toList] ⟨machine, 7, []⟩).1
    let reported (label : Text) : RunEnd :=
      .finished [⟨"README.md".toList, ⟨1, 1, "let a = b\n".toList⟩,
        some ⟨.typeCheck, "no b in ".toList ++ label, label ++ "(1,9): no b".toList, [⟨label, 1, 9⟩],
          [], []⟩⟩]
    Path.IsFileName Config.defaultScratchName ∧ BlockPath.IsPlain Config.defaultScratchName ∧
      SmallProject.verdict.Delimited ∧
      (∀ scratch, SmallProject.verdict.Answers SmallProject.compiler scratch) ∧
      ending "/demo".toList = reported "README.md → Code Block 1".toList ∧
      ending "/my demo".toList = reported "/my README.md → Code Block 1".toList :=
  ⟨SmallProject.isFileName_scratchName, SmallProject.isPlain_scratchName,
    SmallProject.delimited_verdict, SmallProject.answers_verdict, by decide +kernel,
    by decide +kernel⟩

end DocCheck
