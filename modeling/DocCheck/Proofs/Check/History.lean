import DocCheck.Proofs.Check.Session
import Mathlib.Data.List.Nodup
import Mathlib.Data.List.Pairwise

/-!
What the log of a session tells. Main statements: the numbers of blocks follow on one another through
all runs, and every task has come as far as the deeds for its block.
-/

namespace DocCheck.Session

/-! ## The log -/

/-- The deeds for a block. -/
def history (log : List Record) (run index : Nat) : List Deed :=
  (log.filter fun record => record.run == run && record.index == index).map Record.deed

/-- The numbers that blocks have taken. -/
def numbers (log : List Record) : List UInt64 :=
  log.filterMap fun record => record.deed.number?

/-- The paths and sources that the compiler has been given. -/
def compiled (log : List Record) : List (Text × Text) :=
  log.filterMap fun record => record.deed.compiled?

theorem mem_history {log : List Record} {run index : Nat} {deed : Deed} :
    deed ∈ history log run index ↔ ⟨run, index, deed⟩ ∈ log := by
  rw [history, List.mem_map]
  constructor
  · rintro ⟨⟨otherRun, otherIndex, other⟩, member, rfl⟩
    obtain ⟨kept, same⟩ := List.mem_filter.mp member
    simp only [Bool.and_eq_true, beq_iff_eq] at same
    obtain ⟨rfl, rfl⟩ := same
    exact kept
  · intro member
    exact ⟨_, List.mem_filter.mpr ⟨member, by simp⟩, rfl⟩

section Append

variable (log : List Record) (run index : Nat)

private theorem history_append_self (deeds : List Deed) :
    history (log ++ deeds.map (Record.mk run index)) run index = history log run index ++ deeds := by
  have all : (deeds.map (Record.mk run index)).filter
      (fun record => record.run == run && record.index == index) =
        deeds.map (Record.mk run index) := by
    rw [List.filter_eq_self]
    intro record member
    obtain ⟨deed, _, rfl⟩ := List.mem_map.mp member
    simp
  have back : Record.deed ∘ Record.mk run index = id := rfl
  rw [history, List.filter_append, all, List.map_append, List.map_map, back, List.map_id]
  rfl

private theorem history_append_of_ne (deeds : List Deed) {otherRun other : Nat}
    (different : otherRun ≠ run ∨ other ≠ index) :
    history (log ++ deeds.map (Record.mk run index)) otherRun other =
      history log otherRun other := by
  have none : (deeds.map (Record.mk run index)).filter
      (fun record => record.run == otherRun && record.index == other) = [] := by
    rw [List.filter_eq_nil_iff]
    intro record member
    obtain ⟨deed, _, rfl⟩ := List.mem_map.mp member
    rcases different with different | different
    · simp [Ne.symm different]
    · simp [Ne.symm different]
  rw [history, List.filter_append, none, List.append_nil]
  rfl

private theorem numbers_append (deed : Option Deed) :
    numbers (log ++ deed.toList.map (Record.mk run index)) =
      numbers log ++ (deed.bind Deed.number?).toList := by
  rw [numbers, List.filterMap_append]
  cases deed with
  | none => rfl
  | some deed => cases deed <;> rfl

private theorem compiled_append (deed : Option Deed) :
    compiled (log ++ deed.toList.map (Record.mk run index)) =
      compiled log ++ (deed.bind Deed.compiled?).toList := by
  rw [compiled, List.filterMap_append]
  cases deed with
  | none => rfl
  | some deed => cases deed <;> rfl

end Append

private theorem history_eq_nil {log : List Record} {run : Nat}
    (absent : ∀ record ∈ log, record.run ≠ run) (index : Nat) : history log run index = [] := by
  rw [history, List.map_eq_nil_iff, List.filter_eq_nil_iff]
  intro record member
  simp [absent record member]

/-- Where no number is taken twice, what has taken it is one deed for one block. -/
theorem eq_of_number {log : List Record} (nodup : (numbers log).Nodup) {record other : Record}
    {id : UInt64} (member : record ∈ log) (otherMember : other ∈ log)
    (numbered : record.deed = .number id) (otherNumbered : other.deed = .number id) :
    record = other := by
  by_contra different
  have apart := List.pairwise_filterMap.mp nodup
  have symmetric : Std.Symm fun record other : Record =>
      ∀ id, record.deed.number? = some id → ∀ otherId, other.deed.number? = some otherId →
        id ≠ otherId :=
    ⟨fun record other apart id same otherId otherSame => (apart otherId otherSame id same).symm⟩
  have number : record.deed.number? = some id := by
    rw [numbered]
    rfl
  have otherNumber : other.deed.number? = some id := by
    rw [otherNumbered]
    rfl
  exact apart.forall member otherMember different id number id otherNumber rfl

/-! ## Counting -/

/-- The numbers from one on, as many as are asked for. -/
def countFrom (first : UInt64) (count : Nat) : List UInt64 :=
  (List.range count).map fun offset => first + UInt64.ofNat offset

private theorem countFrom_succ (first : UInt64) (count : Nat) :
    countFrom first (count + 1) = countFrom first count ++ [first + UInt64.ofNat count] := by
  rw [countFrom, List.range_succ, List.map_append]
  rfl

theorem nodup_countFrom (first : UInt64) {count : Nat} (unwrapped : count ≤ UInt64.size) :
    (countFrom first count).Nodup := by
  apply List.Nodup.map_on _ List.nodup_range
  intro offset member other otherMember same
  have below := List.mem_range.mp member
  have otherBelow := List.mem_range.mp otherMember
  have offsets : UInt64.ofNat offset = UInt64.ofNat other := by
    simpa using same
  have values := congrArg UInt64.toNat offsets
  rw [UInt64.toNat_ofNat', UInt64.toNat_ofNat'] at values
  rw [UInt64.size] at unwrapped
  omega

/-! ## How far runs are -/

/-- The blocks have the sources that the manifest and their snippets determine. -/
def Localised (config : Config) (blocks : List Block) : Prop :=
  ∃ documents machine package,
    Package.ofProject config.projectRoot machine = .ok package ∧
      Run.blocks config documents machine = .ok blocks ∧
        ∀ block ∈ blocks, block.source =
          (Localiser.ofPackage package ScratchDir.rootReference).localise block.snippet.text

/-- The run that is going on: every task has come as far as its deeds, and no permit is lost. -/
structure Going (config : Config) (log : List Record) (run : Nat) (blocks : List Block)
    (pool : Pool) : Prop where
  length : pool.tasks.length = blocks.length
  past : ∀ (index : Nat) (block : Block), blocks[index]? = some block →
    ∃ task, pool.tasks[index]? = some task ∧
      task.Past (ScratchDir.ofConfig config) block (history log run index)
  permits : pool.permits.map (· + pool.load) = config.jobs.map (max 1)

theorem Going.exists_past {config : Config} {log : List Record} {run : Nat} {blocks : List Block}
    {pool : Pool} (going : Going config log run blocks pool) {index : Nat} {task : Task}
    (present : pool.tasks[index]? = some task) :
    ∃ block, blocks[index]? = some block ∧
      task.Past (ScratchDir.ofConfig config) block (history log run index) := by
  have within := (List.getElem?_eq_some_iff.mp present).1
  rw [going.length] at within
  obtain ⟨known, found, past⟩ := going.past index _ (List.getElem?_eq_getElem within)
  rw [present] at found
  cases found
  exact ⟨_, List.getElem?_eq_getElem within, past⟩

/-- A run that has ended: the deeds for every block have led to its result. -/
structure Over (config : Config) (log : List Record) (run : Nat) (ended : Ended) : Prop where
  length : ended.results.length = ended.blocks.length
  past : ∀ (index : Nat) (block : Block), ended.blocks[index]? = some block →
    ∃ result, ended.results[index]? = some result ∧
      Task.Past (ScratchDir.ofConfig config) block (.finished result) (history log run index)

/-- The blocks of the runs, up to the one that is going on. -/
def runs (session : Session) : List (List Block) :=
  session.past.map Ended.blocks ++
    match session.work with
    | .idle _ => []
    | .going blocks _ _ _ => [blocks]

/-- What holds of a session after any number of steps. -/
structure Sound (config : Config) (first : Workshop) (session : Session) : Prop where
  numbers_eq : numbers session.log = countFrom first.nextId (numbers session.log).length
  nextId_eq : session.work.workshop.nextId =
    first.nextId + UInt64.ofNat (numbers session.log).length
  checked_eq : session.work.workshop.checked = (compiled session.log).reverse ++ first.checked
  -- Nothing is done but for the blocks of the runs.
  belongs : ∀ record ∈ session.log, ∃ blocks, session.runs[record.run]? = some blocks ∧
    record.index < blocks.length
  localised : ∀ blocks ∈ session.runs, Localised config blocks
  ends : ∀ (run : Nat) (ended : Ended), session.past[run]? = some ended →
    Over config session.log run ended
  going : ∀ blocks ready compiler pool, session.work = .going blocks ready compiler pool →
    Going config session.log session.past.length blocks pool

/-- Every block of the runs has come somewhere. -/
theorem Sound.exists_past {config : Config} {first : Workshop} {session : Session}
    (sound : Sound config first session) {run index : Nat} {blocks : List Block} {block : Block}
    (known : session.runs[run]? = some blocks) (present : blocks[index]? = some block) :
    ∃ task : Task,
      task.Past (ScratchDir.ofConfig config) block (history session.log run index) := by
  by_cases before : run < session.past.length
  · rw [runs, List.getElem?_append_left (by rwa [List.length_map]), List.getElem?_map] at known
    obtain ⟨ended, found, rfl⟩ := Option.map_eq_some_iff.mp known
    obtain ⟨result, _, past⟩ := (sound.ends run ended found).past index block present
    exact ⟨_, past⟩
  · have atLeast : session.past.length ≤ run := Nat.not_lt.mp before
    rw [runs, List.getElem?_append_right (by rwa [List.length_map]), List.length_map] at known
    split at known
    · cases known
    · next going =>
        rw [List.getElem?_singleton] at known
        split at known
        · next isLast =>
            cases known
            obtain ⟨task, _, past⟩ := (sound.going _ _ _ _ going).past index block present
            have same : run = session.past.length := by omega
            exact ⟨task, same ▸ past⟩
        · cases known

private theorem sound_start (config : Config) (first : Workshop) :
    Sound config first ⟨[], [], .idle first⟩ where
  numbers_eq := rfl
  nextId_eq := by simp [numbers, Work.workshop]
  checked_eq := rfl
  belongs := nofun
  localised := nofun
  ends := nofun
  going := nofun

private theorem source_eq_of_ofDocuments {config : Config} {localiser : Localiser}
    {machine : Machine} {documents : List Text} {blocks : List Block}
    (collected : Block.ofDocuments config localiser machine documents = .ok blocks) :
    ∀ block ∈ blocks, block.source = localiser.localise block.snippet.text := by
  induction documents generalizing blocks with
  | nil =>
      cases collected
      exact nofun
  | cons document documents inductionHypothesis =>
      rw [Block.ofDocuments, Block.ofDocument] at collected
      cases read : Snippet.ofFile config.languages (Path.join config.projectRoot document) machine with
      | error failure =>
          rw [read] at collected
          cases collected
      | ok snippets =>
          cases others : Block.ofDocuments config localiser machine documents with
          | error failure =>
              rw [read, others] at collected
              cases collected
          | ok rest =>
              rw [read, others] at collected
              cases collected
              intro block member
              rcases List.mem_append.mp member with first | later
              · obtain ⟨snippet, _, rfl⟩ := List.mem_map.mp first
                rfl
              · exact inductionHypothesis others block later

private theorem localised_of_blocks {config : Config} {documents : List Text} {machine : Machine}
    {blocks : List Block} (collected : Run.blocks config documents machine = .ok blocks) :
    Localised config blocks := by
  have whole := collected
  rw [Run.blocks] at collected
  split at collected
  · cases collected
  · next package manifest =>
      exact ⟨documents, machine, package, manifest, whole, source_eq_of_ofDocuments collected⟩

/-! ## Steps -/

section Steps

variable {config : Config} {first : Workshop} {past : List Ended} {log : List Record}

theorem Sound.start {toolchain : Toolchain} {workshop : Workshop} {documents : List Text}
    {ready : Machine} {compiler : Compiler} {blocks : List Block}
    (sound : Sound config first ⟨past, log, .idle workshop⟩)
    (prepared : Run.prepare config toolchain documents ready = .work compiler blocks) :
    Sound config first ⟨past, log, .going blocks ready compiler
      (Pool.start config.jobs blocks { workshop with machine := ready })⟩ where
  numbers_eq := sound.numbers_eq
  nextId_eq := sound.nextId_eq
  checked_eq := sound.checked_eq
  belongs := by
    intro record member
    obtain ⟨known, found, within⟩ := sound.belongs record member
    refine ⟨known, ?_, within⟩
    rw [runs, List.append_nil] at found
    rw [runs, List.getElem?_append_left (List.getElem?_eq_some_iff.mp found).1]
    exact found
  localised := by
    intro other member
    rcases List.mem_append.mp member with before | now
    · exact sound.localised other (List.mem_append_left _ before)
    · rw [List.mem_singleton.mp now]
      exact localised_of_blocks (Run.of_prepare_eq_work prepared).1
  ends := sound.ends
  going := by
    intro blocks ready compiler pool going
    cases going
    refine ⟨List.length_map _, ?_, ?_⟩
    · intro index block present
      have unused : ∀ record ∈ log, record.run ≠ past.length := by
        intro record member same
        obtain ⟨known, found, _⟩ := sound.belongs record member
        have within := (List.getElem?_eq_some_iff.mp found).1
        rw [same, runs, List.append_nil, List.length_map] at within
        exact Nat.lt_irrefl _ within
      refine ⟨.waiting block, ?_, ?_⟩
      · rw [Pool.start, List.getElem?_map, present]
        rfl
      · rw [history_eq_nil unused]
        exact .waiting
    · exact Pool.permits_start config.jobs blocks { workshop with machine := ready }

/-- Whichever task takes a turn, every task is as far as its deeds say. -/
theorem Going.turn {run : Nat} {blocks : List Block} {pool : Pool}
    (going : Going config log run blocks pool) (compiler : Compiler) (index : Nat) :
    Going config
      (log ++ (pool.deeds compiler (ScratchDir.ofConfig config) index).map (Record.mk run index))
      run blocks (pool.turn compiler (ScratchDir.ofConfig config) index) := by
  have permits := Pool.permits_turn compiler (ScratchDir.ofConfig config) pool index
  rcases Pool.turn_deeds compiler (ScratchDir.ofConfig config) pool index with ⟨same, none⟩ |
    ⟨task, _, present, turned, deeds⟩
  · rw [same, none, List.map_nil, List.append_nil]
    exact going
  · obtain ⟨inTasks, _⟩ := List.getElem?_eq_some_iff.mp present
    refine ⟨?_, ?_, permits.trans going.permits⟩
    · rw [turned, List.length_set, going.length]
    · intro other block known
      obtain ⟨old, oldPresent, oldPast⟩ := going.past other block known
      rw [turned, deeds]
      by_cases self : other = index
      · subst self
        rw [present] at oldPresent
        cases oldPresent
        rw [history_append_self]
        exact ⟨_, List.getElem?_set_self inTasks, oldPast.step compiler pool.workshop⟩
      · rw [history_append_of_ne _ _ _ _ (Or.inr self)]
        exact ⟨old, (List.getElem?_set_ne (Ne.symm self)).trans oldPresent, oldPast⟩

/-- What is done in a later run changes nothing about a run that has ended. -/
private theorem Over.append {run later : Nat} {ended : Ended} (isOver : Over config log run ended)
    (different : run ≠ later) (index : Nat) (deeds : List Deed) :
    Over config (log ++ deeds.map (Record.mk later index)) run ended := by
  refine ⟨isOver.length, fun other block known => ?_⟩
  rw [history_append_of_ne _ _ _ _ (Or.inl different)]
  exact isOver.past other block known

theorem Sound.turn {blocks : List Block} {ready : Machine} {compiler : Compiler} {pool : Pool}
    (sound : Sound config first ⟨past, log, .going blocks ready compiler pool⟩) (index : Nat) :
    Sound config first ⟨past,
      log ++ (pool.deeds compiler (ScratchDir.ofConfig config) index).map
        (Record.mk past.length index),
      .going blocks ready compiler (pool.turn compiler (ScratchDir.ofConfig config) index)⟩ := by
  have going := sound.going blocks ready compiler pool rfl
  have goesOn := going.turn compiler index
  rcases Pool.turn_deeds compiler (ScratchDir.ofConfig config) pool index with ⟨same, none⟩ |
    ⟨task, _, present, turned, deeds⟩
  · rw [same, none, List.map_nil, List.append_nil]
    exact sound
  · obtain ⟨inTasks, _⟩ := List.getElem?_eq_some_iff.mp present
    rw [deeds] at goesOn ⊢
    have numbered := Task.nextId_step compiler (ScratchDir.ofConfig config) task pool.workshop
    have checked := Task.checked_step compiler (ScratchDir.ofConfig config) task pool.workshop
    refine ⟨?_, ?_, ?_, ?_, sound.localised, ?_, ?_⟩
    · rw [numbers_append]
      rcases numbered with ⟨none, _⟩ | ⟨some, _⟩
      · rw [none, Option.toList_none, List.append_nil]
        exact sound.numbers_eq
      · rw [some, Option.toList_some, List.length_append, List.length_singleton, countFrom_succ,
          ← sound.numbers_eq]
        exact congrArg (fun id => numbers log ++ [id]) sound.nextId_eq
    · rw [numbers_append, turned]
      rcases numbered with ⟨none, kept⟩ | ⟨some, next⟩
      · rw [none, Option.toList_none, List.append_nil]
        exact kept.trans sound.nextId_eq
      · rw [some, Option.toList_some, List.length_append, List.length_singleton, UInt64.ofNat_add,
          ← UInt64.add_assoc]
        exact next.trans (congrArg (· + 1) sound.nextId_eq)
    · rw [compiled_append, turned, List.reverse_append, List.append_assoc]
      have last : ∀ deed : Option (Text × Text), deed.toList.reverse = deed.toList := by
        intro deed
        cases deed <;> rfl
      rw [last, ← sound.checked_eq]
      exact checked
    · intro record member
      rcases List.mem_append.mp member with before | now
      · exact sound.belongs record before
      · obtain ⟨deed, _, rfl⟩ := List.mem_map.mp now
        refine ⟨blocks, ?_, going.length ▸ inTasks⟩
        rw [runs, List.getElem?_append_right (Nat.le_of_eq (List.length_map _)), List.length_map]
        dsimp only
        rw [Nat.sub_self]
        rfl
    · intro run ended found
      obtain ⟨within, _⟩ := List.getElem?_eq_some_iff.mp found
      exact (sound.ends run ended found).append (Nat.ne_of_lt within) index _
    · intro _ _ _ _ same
      cases same
      exact goesOn

theorem Sound.finish {blocks : List Block} {ready : Machine} {compiler : Compiler} {pool : Pool}
    {results : List Result} (sound : Sound config first ⟨past, log, .going blocks ready compiler pool⟩)
    (finished : pool.results? = some results) :
    Sound config first ⟨past ++ [⟨blocks, results⟩], log,
      .idle (Run.cleanUp (ScratchDir.ofConfig config) (.finished results) pool.workshop).2⟩ := by
  have going := sound.going blocks ready compiler pool rfl
  have tasks := Pool.eq_map_finished_of_mapM_result? finished
  have sameRuns : runs ⟨past ++ [⟨blocks, results⟩], log,
      .idle (Run.cleanUp (ScratchDir.ofConfig config) (.finished results) pool.workshop).2⟩ =
        runs ⟨past, log, .going blocks ready compiler pool⟩ := by
    simp [runs]
  refine ⟨sound.numbers_eq, ?_, ?_, ?_, ?_, ?_, nofun⟩
  · rw [Run.cleanUp_snd]
    exact sound.nextId_eq
  · rw [Run.cleanUp_snd]
    exact sound.checked_eq
  · rw [sameRuns]
    exact sound.belongs
  · rw [sameRuns]
    exact sound.localised
  · intro run ended found
    by_cases before : run < past.length
    · rw [List.getElem?_append_left before] at found
      exact sound.ends run ended found
    · -- The run that ends now is the one that was going on.
      have isLast : run = past.length := by
        have within := (List.getElem?_eq_some_iff.mp found).1
        rw [List.length_append, List.length_singleton] at within
        omega
      rw [isLast, List.getElem?_concat_length] at found
      cases found
      refine ⟨?_, fun index block known => ?_⟩
      · rw [← going.length, tasks, List.length_map]
      · obtain ⟨task, present, taskPast⟩ := going.past index block known
        rw [tasks, List.getElem?_map] at present
        obtain ⟨result, isResult, rfl⟩ := Option.map_eq_some_iff.mp present
        rw [isLast]
        exact ⟨result, isResult, taskPast⟩

end Steps

theorem sound_of_reachable {config : Config} {toolchain : Toolchain} {first : Workshop}
    {session : Session} (reached : Reachable config toolchain first session) :
    Sound config first session := by
  induction reached with
  | start => exact sound_start config first
  | step _ step sound =>
      cases step with
      | change machine =>
          exact ⟨sound.numbers_eq, sound.nextId_eq, sound.checked_eq, sound.belongs,
            sound.localised, sound.ends, nofun⟩
      | start _ prepared => exact sound.start prepared
      | turn index => exact sound.turn index
      | finish finished => exact sound.finish finished

end DocCheck.Session
