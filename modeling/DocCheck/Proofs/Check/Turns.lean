import DocCheck.Proofs.Check.Pool

/-!
The turns of a run and what the tasks find at them. Main statements: what a block comes to is told by
the one turn at which its file is to be written and, if it can be written, the one turn at which the
compiler is asked; and blocks that are compiled one after the other are compiled in one of the orders
in which tasks can take turns.
-/

namespace DocCheck

/-! ## What becomes of a block -/

namespace Block

/-- These turns of a block's task are no more than one, which has this number and workshop. -/
def Once (turns : Block → UInt64 → Workshop → Prop) (block : Block) (id : UInt64)
    (workshop : Workshop) : Prop :=
  ∀ own other found, turns own other found ↔ own = block ∧ other = id ∧ found = workshop

def Never (turns : Block → UInt64 → Workshop → Prop) : Prop :=
  ∀ own other found, ¬ turns own other found

/-- The error, if there is one, with which the system refuses to write the file of the block. -/
def writing (scratch : ScratchDir) (block : Block) (id : UInt64) (workshop : Workshop) :
    Except FileError Unit :=
  (Machine.writeFile (scratch.blockPath id.toNat) (Text.Utf8.encode block.source)
    workshop.machine).1

/-- The result of a block whose file cannot be written. -/
def refused (scratch : ScratchDir) (block : Block) (id : UInt64) (error : FileError) : Result :=
  block.result (some (Diagnostic.crash (Text.replaceAll scratch.blockPattern
    (fun _ _ => block.label)
    ("cannot write ".toList ++ scratch.blockPath id.toNat ++ ": ".toList ++ error.message))))

/-- The result of a block that the compiler is asked about in a workshop. -/
def answered (compiler : Compiler) (scratch : ScratchDir) (block : Block) (id : UInt64)
    (workshop : Workshop) : Result :=
  block.result ((compiler.check block.source (scratch.blockPath id.toNat) workshop.machine).1.map
    (Diagnostic.scrub scratch.blockPattern block.label))

/-- By the turns at which the file of a block is to be written and those at which the compiler is
asked about it, this is the result of the block. -/
def ComesTo (compiler : Compiler) (scratch : ScratchDir)
    (toWrite toCheck : Block → UInt64 → Workshop → Prop) (block : Block) (result : Result) : Prop :=
  ∃ id workshop, Once toWrite block id workshop ∧
    match block.writing scratch id workshop with
    | .error error => Never toCheck ∧ result = block.refused scratch id error
    | .ok () =>
        ∃ later, Once toCheck block id later ∧ result = block.answered compiler scratch id later

end Block

/-- How far a task is tells which of its turns have been. -/
def Task.Tells (compiler : Compiler) (scratch : ScratchDir)
    (toWrite toCheck : Block → UInt64 → Workshop → Prop) (block : Block) : Task → Prop
  | .waiting own | .admitted own | .numbered own _ =>
      own = block ∧ Block.Never toWrite ∧ Block.Never toCheck
  | .written own id =>
      own = block ∧ Block.Never toCheck ∧
        ∃ workshop, Block.Once toWrite block id workshop ∧
          block.writing scratch id workshop = .ok ()
  | .finished result => block.ComesTo compiler scratch toWrite toCheck result

namespace Pool

/-! ## Turns in an order -/

section Order

variable {compiler : Compiler} {scratch : ScratchDir} {order : List Nat} {pool : Pool}

/-- One of the turns of an order is that of the task with an index. It finds the task at this stage of
the work on a block, and it finds this workshop. -/
def Finds (compiler : Compiler) (scratch : ScratchDir) (order : List Nat) (pool : Pool) (index : Nat)
    (stage : Block → UInt64 → Task) (block : Block) (id : UInt64) (workshop : Workshop) : Prop :=
  ∃ before rest, order = before ++ index :: rest ∧
    (pool.after compiler scratch before).tasks[index]? = some (stage block id) ∧
      (pool.after compiler scratch before).workshop = workshop

/-- A task has come where its turns in an order have led it. -/
def Told (compiler : Compiler) (scratch : ScratchDir) (order : List Nat) (pool : Pool) (index : Nat)
    (block : Block) : Task → Prop :=
  Task.Tells compiler scratch (pool.Finds compiler scratch order index .numbered)
    (pool.Finds compiler scratch order index .written) block

private theorem finds_append_singleton {next index : Nat} {stage : Block → UInt64 → Task}
    {block : Block} {id : UInt64} {workshop : Workshop} :
    pool.Finds compiler scratch (order ++ [next]) index stage block id workshop ↔
      pool.Finds compiler scratch order index stage block id workshop ∨
        (next = index ∧
          (pool.after compiler scratch order).tasks[index]? = some (stage block id) ∧
            (pool.after compiler scratch order).workshop = workshop) := by
  constructor
  · rintro ⟨before, rest, split, found⟩
    rcases List.eq_nil_or_concat rest with rfl | ⟨init, last, rfl⟩
    · obtain ⟨rfl, same⟩ := List.append_inj' split rfl
      cases same
      exact Or.inr ⟨rfl, found⟩
    · have longer : order ++ [next] = (before ++ index :: init) ++ [last] := by simpa using split
      obtain ⟨rfl, _⟩ := List.append_inj' longer rfl
      exact Or.inl ⟨before, init, rfl, found⟩
  · rintro (⟨before, rest, rfl, found⟩ | ⟨rfl, found⟩)
    · exact ⟨before, rest ++ [next], by simp, found⟩
    · exact ⟨order, [], rfl, found⟩

/-- A turn that does not find the task at a stage adds nothing to those that do. -/
private theorem finds_append_of_ne {next index : Nat} {stage : Block → UInt64 → Task}
    (elsewhere : next = index → ∀ block id,
      (pool.after compiler scratch order).tasks[index]? ≠ some (stage block id)) :
    pool.Finds compiler scratch (order ++ [next]) index stage =
      pool.Finds compiler scratch order index stage := by
  funext block id workshop
  rw [eq_iff_iff, finds_append_singleton, or_iff_left]
  rintro ⟨same, found, _⟩
  exact elsewhere same block id found

/-- The first turn that finds the task at a stage is the only one so far. -/
private theorem once_finds_append {index : Nat} {stage : Block → UInt64 → Task}
    (injective : ∀ {own block : Block} {other id : UInt64},
      stage own other = stage block id → own = block ∧ other = id)
    {block : Block} {id : UInt64}
    (never : Block.Never (pool.Finds compiler scratch order index stage))
    (present : (pool.after compiler scratch order).tasks[index]? = some (stage block id)) :
    Block.Once (pool.Finds compiler scratch (order ++ [index]) index stage) block id
      (pool.after compiler scratch order).workshop := by
  intro own other found
  rw [finds_append_singleton, or_iff_right (never own other found), present]
  constructor
  · rintro ⟨_, same, rfl⟩
    obtain ⟨rfl, rfl⟩ := injective (Option.some.inj same)
    exact ⟨rfl, rfl, rfl⟩
  · rintro ⟨rfl, rfl, rfl⟩
    exact ⟨rfl, rfl, rfl⟩

private theorem after_append_singleton (next : Nat) :
    pool.after compiler scratch (order ++ [next]) =
      turn compiler scratch (pool.after compiler scratch order) next := by
  rw [after_append]
  rfl

/-- A turn that finds a task neither at its file nor at the compiler tells nothing new of it. -/
private theorem told_append_of_ne {next index : Nat} {block : Block} {task : Task}
    (elsewhere : next = index → ∀ now, (pool.after compiler scratch order).tasks[index]? = some now →
      now.left = 0 ∨ 2 < now.left)
    (told : pool.Told compiler scratch order index block task) :
    pool.Told compiler scratch (order ++ [next]) index block task := by
  have apart : ∀ stage : Block → UInt64 → Task,
      (∀ block id, 0 < (stage block id).left ∧ (stage block id).left ≤ 2) →
        pool.Finds compiler scratch (order ++ [next]) index stage =
          pool.Finds compiler scratch order index stage := by
    intro stage between
    apply finds_append_of_ne
    intro same block id found
    have now := elsewhere same _ found
    have stands := between block id
    omega
  rw [Told, apart .numbered fun _ _ => ⟨Nat.two_pos, Nat.le_refl 2⟩,
    apart .written fun _ _ => ⟨Nat.one_pos, Nat.le_succ 1⟩]
  exact told

/-- Whichever task takes a turn, every task has come where its turns have led it. -/
theorem told_turn {index : Nat} {block : Block} {task : Task} (next : Nat)
    (present : (pool.after compiler scratch order).tasks[index]? = some task)
    (told : pool.Told compiler scratch order index block task) :
    ∃ task, (pool.after compiler scratch (order ++ [next])).tasks[index]? = some task ∧
      pool.Told compiler scratch (order ++ [next]) index block task := by
  rw [after_append_singleton]
  rcases turn_cases compiler scratch (pool.after compiler scratch order) next with
    ⟨same, stalled⟩ | ⟨old, permits, found, unfinished, _, turned⟩
  · rw [same]
    refine ⟨task, present, told_append_of_ne ?_ told⟩
    rintro rfl now isNow
    rcases stalled now isNow with finished | ⟨idle, _⟩
    · exact Or.inl finished
    · exact Task.left_of_load idle
  · rw [turned]
    by_cases own : next = index
    · subst own
      rw [present] at found
      cases found
      obtain ⟨inTasks, _⟩ := List.getElem?_eq_some_iff.mp present
      refine ⟨_, List.getElem?_set_self inTasks, ?_⟩
      cases task with
      | waiting own | admitted own =>
          refine told_append_of_ne (fun _ now isNow => ?_) told
          rw [present] at isNow
          cases isNow
          simp [Task.left]
      | numbered own id =>
          obtain ⟨rfl, unwritten, unchecked⟩ := told
          have once := once_finds_append (fun same => by cases same; exact ⟨rfl, rfl⟩) unwritten
            present
          have still : pool.Finds compiler scratch (order ++ [next]) next .written =
              pool.Finds compiler scratch order next .written :=
            finds_append_of_ne fun _ other id now => by
              rw [present] at now
              cases now
          rw [← still] at unchecked
          rw [Task.step]
          split
          · next after wrote => exact ⟨rfl, unchecked, _, once, congrArg Prod.fst wrote⟩
          · next error after refused =>
              refine ⟨id, _, once, ?_⟩
              rw [Block.writing, refused]
              exact ⟨unchecked, rfl⟩
      | written own id =>
          obtain ⟨rfl, unchecked, workshop, once, wrote⟩ := told
          have checked := once_finds_append (fun same => by cases same; exact ⟨rfl, rfl⟩) unchecked
            present
          have still : pool.Finds compiler scratch (order ++ [next]) next .numbered =
              pool.Finds compiler scratch order next .numbered :=
            finds_append_of_ne fun _ other id now => by
              rw [present] at now
              cases now
          rw [← still] at once
          refine ⟨id, workshop, once, ?_⟩
          rw [wrote]
          exact ⟨_, checked, rfl⟩
      | finished result => exact absurd unfinished (Nat.lt_irrefl 0)
    · refine ⟨task, (List.getElem?_set_ne own).trans present, ?_⟩
      exact told_append_of_ne (fun same => absurd same own) told

theorem told_append {index : Nat} {block : Block} {task : Task}
    (present : (pool.after compiler scratch order).tasks[index]? = some task)
    (told : pool.Told compiler scratch order index block task) (more : List Nat) :
    ∃ task, (pool.after compiler scratch (order ++ more)).tasks[index]? = some task ∧
      pool.Told compiler scratch (order ++ more) index block task := by
  induction more generalizing order task with
  | nil =>
      rw [List.append_nil]
      exact ⟨task, present, told⟩
  | cons next more inductionHypothesis =>
      obtain ⟨task, present, told⟩ := told_turn next present told
      rw [List.append_cons]
      exact inductionHypothesis present told

theorem told_start (compiler : Compiler) (scratch : ScratchDir) (jobs : Option Nat)
    (blocks : List Block) (workshop : Workshop) (index : Nat) (block : Block) :
    (start jobs blocks workshop).Told compiler scratch [] index block (.waiting block) := by
  have none : ∀ stage, Block.Never
      ((start jobs blocks workshop).Finds compiler scratch [] index stage) := by
    rintro stage own other found ⟨before, rest, split, _⟩
    simp at split
  exact ⟨rfl, none _, none _⟩

private theorem length_tasks_turn (compiler : Compiler) (scratch : ScratchDir) (pool : Pool)
    (index : Nat) :
    (turn compiler scratch pool index).tasks.length = pool.tasks.length := by
  rcases turn_cases compiler scratch pool index with ⟨same, _⟩ | ⟨_, _, _, _, _, turned⟩
  · rw [same]
  · rw [turned, List.length_set]

private theorem length_tasks_after (compiler : Compiler) (scratch : ScratchDir) (order : List Nat)
    (pool : Pool) :
    (pool.after compiler scratch order).tasks.length = pool.tasks.length := by
  induction order generalizing pool with
  | nil => rfl
  | cons index order inductionHypothesis =>
      exact (inductionHypothesis _).trans (length_tasks_turn compiler scratch pool index)

/-- Once all tasks are finished there is one result for every block, in order, and it is what the block
has come to by the turns of its task. -/
theorem comesTo_of_results? {jobs : Option Nat} {blocks : List Block} {workshop : Workshop}
    {results : List Result}
    (finished : ((start jobs blocks workshop).after compiler scratch order).results? =
      some results) :
    results.length = blocks.length ∧
      ∀ (index : Nat) (block : Block), blocks[index]? = some block →
        ∃ result, results[index]? = some result ∧
          block.ComesTo compiler scratch
            ((start jobs blocks workshop).Finds compiler scratch order index .numbered)
            ((start jobs blocks workshop).Finds compiler scratch order index .written) result := by
  have tasks := eq_map_finished_of_mapM_result? finished
  constructor
  · have length := length_tasks_after compiler scratch order (start jobs blocks workshop)
    rw [tasks, List.length_map, start, List.length_map] at length
    exact length
  · intro index block known
    have begins : ((start jobs blocks workshop).after compiler scratch []).tasks[index]? =
        some (.waiting block) := by
      rw [after, List.foldl_nil, start, List.getElem?_map, known]
      rfl
    obtain ⟨task, present, told⟩ := told_append begins
      (told_start compiler scratch jobs blocks workshop index block) order
    rw [List.nil_append] at present told
    rw [tasks, List.getElem?_map] at present
    obtain ⟨result, isResult, rfl⟩ := Option.map_eq_some_iff.mp present
    exact ⟨result, isResult, told⟩

end Order

/-! ## One block after the other -/

section Sequence

variable (compiler : Compiler) (scratch : ScratchDir)

/-- Where a permit is left for it, a task can take its steps one right after the other. -/
private theorem after_replicate {lead rest : List Task} (count : Nat) {task : Task}
    {permits : Option Nat} (available : permits.map (· + task.load) ≠ some 0)
    (workshop : Workshop) :
    ∃ left, left.map (· + (Task.steps compiler scratch count task workshop).1.load) =
        permits.map (· + task.load) ∧
      after compiler scratch (List.replicate count lead.length)
          ⟨lead ++ task :: rest, permits, workshop⟩ =
        ⟨lead ++ (Task.steps compiler scratch count task workshop).1 :: rest, left,
          (Task.steps compiler scratch count task workshop).2⟩ := by
  induction count generalizing task permits workshop with
  | zero => exact ⟨permits, rfl, rfl⟩
  | succ count inductionHypothesis =>
      have here : (lead ++ task :: rest)[lead.length]? = some task := by simp
      rcases turn_cases compiler scratch ⟨lead ++ task :: rest, permits, workshop⟩ lead.length with
        ⟨same, stalled⟩ | ⟨old, after, found, _, handed, turned⟩
      · -- Only a finished task loses its turn, and it stays as it is.
        rcases stalled task here with finished | ⟨idle, taken⟩
        · obtain ⟨result, rfl⟩ := Task.left_eq_zero_iff.mp finished
          obtain ⟨left, held, ends⟩ := inductionHypothesis available workshop
          refine ⟨left, held, ?_⟩
          rw [List.replicate_succ, Pool.after, List.foldl_cons, same]
          exact ends
        · rw [idle, show permits = some 0 from taken] at available
          exact absurd rfl available
      · rw [here] at found
        cases found
        rw [← handed] at available ⊢
        obtain ⟨left, held, ends⟩ := inductionHypothesis available
          (task.step compiler scratch workshop).2
        refine ⟨left, held, ?_⟩
        rw [List.replicate_succ, Pool.after, List.foldl_cons, turned]
        simp only [List.set_append_right, Nat.le_refl, Nat.sub_self, List.set_cons_zero]
        exact ends

private theorem exists_after_complete {lead rest : List Task} (block : Block) {permits : Option Nat}
    (available : permits ≠ some 0) (workshop : Workshop) :
    ∃ order,
      after compiler scratch order ⟨lead ++ .waiting block :: rest, permits, workshop⟩ =
        ⟨lead ++ .finished (Task.complete compiler scratch block workshop).1 :: rest, permits,
          (Task.complete compiler scratch block workshop).2⟩ := by
  have idle : permits.map (· + (Task.waiting block).load) = permits := Option.map_id'
  obtain ⟨left, held, ends⟩ := after_replicate compiler scratch 4 (idle.symm ▸ available) workshop
  have none := Task.left_steps_le compiler scratch 4 (.waiting block) workshop
  obtain ⟨result, isResult⟩ := Task.left_eq_zero_iff.mp (Nat.le_zero.mp none)
  refine ⟨_, ends.trans ?_⟩
  rw [isResult, idle] at held
  rw [Task.complete, isResult, ← held]
  exact congrArg (fun left => Pool.mk _ left _) Option.map_id'.symm

/-- There is an order of turns in which the tasks are finished one after the other. -/
theorem exists_after_completeAll (done : List Result) (blocks : List Block) {permits : Option Nat}
    (available : permits ≠ some 0) (workshop : Workshop) :
    ∃ order,
      after compiler scratch order
          ⟨done.map .finished ++ blocks.map .waiting, permits, workshop⟩ =
        ⟨(done ++ (Task.completeAll compiler scratch blocks workshop).1).map .finished, permits,
          (Task.completeAll compiler scratch blocks workshop).2⟩ := by
  induction blocks generalizing done workshop with
  | nil => exact ⟨[], by simp [after, Task.completeAll]⟩
  | cons block blocks inductionHypothesis =>
      obtain ⟨first, completed⟩ := exists_after_complete compiler scratch block available workshop
      obtain ⟨others, finished⟩ := inductionHypothesis
        (done ++ [(Task.complete compiler scratch block workshop).1])
        (Task.complete compiler scratch block workshop).2
      refine ⟨first ++ others, ?_⟩
      rw [after_append, List.map_cons, completed, Task.completeAll]
      simpa using finished

end Sequence

end Pool

end DocCheck
