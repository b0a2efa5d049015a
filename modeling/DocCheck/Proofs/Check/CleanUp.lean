import DocCheck.Proofs.Check.Refinement
import DocCheck.Proofs.Machine.Removal
import DocCheck.Proofs.Machine.Shape

/-!
The scratch directory at the end of a run. Main statement: whatever ends a run that has made its
scratch directory, the directory is gone afterwards unless the system refuses to remove it, and what
went wrong first is what the run ends with.
-/

namespace DocCheck

/-! ## Removing and making the directory -/

namespace ScratchDir

variable (scratch : ScratchDir) (machine : Machine)

/-- The directory is gone, or the system refuses to remove it. -/
theorem remove_cases :
    ((scratch.remove machine).1 = .ok () ∧
      (scratch.remove machine).2.HasNothingAt scratch.path) ∨
    ∃ error, error ≠ .notFound ∧
      Machine.removeTree scratch.path machine = (.error error, (scratch.remove machine).2) ∧
      (scratch.remove machine).1 = .error (.scratchDir scratch.path error) := by
  have removed := @Machine.hasNothingAt_removeTree scratch.path machine
  unfold remove
  generalize Machine.removeTree scratch.path machine = result at removed ⊢
  obtain ⟨error | _, after⟩ := result
  all_goals dsimp only at removed ⊢
  · by_cases missing : error = .notFound
    · subst missing
      exact Or.inl ⟨rfl, removed (Or.inr rfl)⟩
    · right
      rw [if_neg missing]
      exact ⟨error, missing, rfl, rfl⟩
  · exact Or.inl ⟨rfl, removed (Or.inl rfl)⟩

theorem exists_of_reset_error {failure : Failure} {after : Machine}
    (refused : scratch.reset machine = (.error failure, after)) :
    ∃ error, failure = .scratchDir scratch.path error := by
  unfold reset at refused
  rcases scratch.remove_cases machine with ⟨removed, _⟩ | ⟨error, _, _, removed⟩
  · rcases cleared : scratch.remove machine with ⟨_, left⟩
    rw [cleared] at removed refused
    cases removed
    dsimp only at refused
    rcases made : Machine.makeDirectories scratch.path left with ⟨error | _, after⟩
    · rw [made] at refused
      cases refused
      exact ⟨error, rfl⟩
    · rw [made] at refused
      cases refused
  · rcases cleared : scratch.remove machine with ⟨_, left⟩
    rw [cleared] at removed refused
    cases removed
    cases refused
    exact ⟨error, rfl⟩

/-- What stands in files decides nothing about the directory. -/
private theorem reset_shape :
    scratch.reset machine.shape =
      ((scratch.reset machine).1, (scratch.reset machine).2.shape) := by
  have removed : scratch.remove machine.shape =
      ((scratch.remove machine).1, (scratch.remove machine).2.shape) := by
    unfold remove
    rw [Machine.removeTree_shape]
    rcases Machine.removeTree scratch.path machine with ⟨error | _, after⟩
    · dsimp only [Machine.shapeOf]
      split <;> rfl
    · rfl
  unfold reset
  rw [removed]
  rcases scratch.remove machine with ⟨failure | _, cleared⟩
  · rfl
  · dsimp only
    rw [Machine.makeDirectories, Machine.makeDirectoriesWithin_shape, ← Machine.makeDirectories]
    rcases Machine.makeDirectories scratch.path cleared with ⟨error | _, made⟩ <;> rfl

private theorem reset_error_of_shape_eq {other : Machine} (same : other.shape = machine.shape)
    {failure : Failure} {after : Machine}
    (refused : scratch.reset machine = (.error failure, after)) :
    (scratch.reset other).1 = .error failure := by
  have first := scratch.reset_shape machine
  have second := scratch.reset_shape other
  rw [same, first, refused] at second
  exact (congrArg Prod.fst second).symm

end ScratchDir

/-! ## Runs -/

/-- A run whose tasks take turns in an order, or one after the other where no order is given. -/
def runBy (order : Option (List Nat)) (config : Config) (toolchain : Toolchain)
    (documents : List Text) (workshop : Workshop) : Option (RunEnd × Workshop) :=
  match order with
  | none => some (run config toolchain documents workshop)
  | some order => runInOrder order config toolchain documents workshop

namespace Run

def inScratchBy (order : Option (List Nat)) (config : Config) (toolchain : Toolchain)
    (documents : List Text) (workshop : Workshop) : Option (RunEnd × Workshop) :=
  match order with
  | none => some (inScratch config toolchain documents workshop)
  | some order => inScratchInOrder order config toolchain documents workshop

variable {order : Option (List Nat)} {config : Config} {toolchain : Toolchain}
  {documents : List Text} {workshop : Workshop}

theorem runBy_none : runBy none config toolchain documents workshop =
    some ((run config toolchain documents workshop).1,
      (run config toolchain documents workshop).2) :=
  rfl

theorem runBy_of_reset_error {failure : Failure} {after : Machine}
    (refused : (ScratchDir.ofConfig config).reset workshop.machine = (.error failure, after)) :
    runBy order config toolchain documents workshop =
      some (.failed failure, { workshop with machine := after }) := by
  cases order with
  | none => rw [runBy, run, refused]
  | some order => rw [runBy, runInOrder, refused]

theorem runBy_of_reset_ok {ready : Machine}
    (made : (ScratchDir.ofConfig config).reset workshop.machine = (.ok (), ready)) :
    runBy order config toolchain documents workshop =
      (inScratchBy order config toolchain documents { workshop with machine := ready }).map
        fun done => cleanUp (ScratchDir.ofConfig config) done.1 done.2 := by
  cases order with
  | none =>
      rw [runBy, run, made]
      rfl
  | some order =>
      rw [runBy, runInOrder, made]
      rfl

/-- Where there is work, the blocks have been read and the compiler is ready. -/
theorem of_prepare_eq_work {machine : Machine} {compiler : Compiler} {blocks : List Block}
    (prepared : prepare config toolchain documents machine = .work compiler blocks) :
    Run.blocks config documents machine = .ok blocks ∧ toolchain config machine = .ok compiler := by
  rw [prepare] at prepared
  split at prepared
  · cases prepared
  · cases prepared
  · next collected =>
      split at prepared
      · cases prepared
      · next created =>
          split at prepared
          · cases prepared
          · cases prepared
            exact ⟨collected, created⟩

/-- The work in the scratch directory is over before the first block, or all blocks are done, by
tasks one after the other or by a pool. -/
theorem inScratchBy_cases {ready left : Workshop} {inside : RunEnd}
    (done : inScratchBy order config toolchain documents ready = some (inside, left)) :
    (prepare config toolchain documents ready.machine = .over inside ∧ left = ready) ∨
      ∃ compiler blocks results,
        prepare config toolchain documents ready.machine = .work compiler blocks ∧
          inside = .finished results ∧
          (left = (Task.completeAll compiler (ScratchDir.ofConfig config) blocks ready).2 ∨
            ∃ order, left = ((Pool.start config.jobs blocks ready).after compiler
              (ScratchDir.ofConfig config) order).workshop) := by
  cases order with
  | none =>
      rw [inScratchBy, inScratch] at done
      rcases prepared : prepare config toolchain documents ready.machine with
        ending | ⟨compiler, blocks⟩
      · rw [prepared] at done
        cases done
        exact Or.inl ⟨rfl, rfl⟩
      · rw [prepared] at done
        cases done
        exact Or.inr ⟨compiler, blocks, _, rfl, rfl, Or.inl rfl⟩
  | some order =>
      rw [inScratchBy, inScratchInOrder] at done
      rcases prepared : prepare config toolchain documents ready.machine with
        ending | ⟨compiler, blocks⟩
      · rw [prepared] at done
        cases done
        exact Or.inl ⟨rfl, rfl⟩
      · rw [prepared] at done
        obtain ⟨results, _, pair⟩ := Option.map_eq_some_iff.mp done
        cases pair
        exact Or.inr ⟨compiler, blocks, results, rfl, rfl, Or.inr ⟨order, rfl⟩⟩

/-- Work in the scratch directory is abandoned where there are blocks and a compiler for them, but a
limit that cannot be counted. -/
private theorem inScratchBy_abandoned {ready left : Workshop} {inside : RunEnd}
    (done : inScratchBy order config toolchain documents ready = some (inside, left)) :
    inside = .abandoned ↔ ∃ block blocks compiler jobs,
      Run.blocks config documents ready.machine = .ok (block :: blocks) ∧
        toolchain config ready.machine = .ok compiler ∧ config.jobs = some jobs ∧
          mostJobs < jobs := by
  have prepared : inside = .abandoned ↔
      ∃ ending, prepare config toolchain documents ready.machine = .over ending ∧
        ending = .abandoned := by
    rcases inScratchBy_cases done with ⟨isOver, _⟩ | ⟨compiler, blocks, results, isWork, rfl, _⟩
    · simp [isOver]
    · simp [isWork]
  rw [prepared, prepare]
  cases collected : Run.blocks config documents ready.machine with
  | error failure => simp
  | ok blocks =>
      cases blocks with
      | nil => simp
      | cons block blocks =>
          cases created : toolchain config ready.machine with
          | error failure => simp
          | ok compiler =>
              rw [exceedsMostJobs]
              cases limit : config.jobs with
              | none => simp
              | some jobs => by_cases beyond : mostJobs < jobs <;> simp [beyond]

/-- How the guard on the scratch directory is let go where the work in it ends so. -/
def lettingGo : RunEnd → GuardedScratch.Step
  | .finished _ | .failed _ => .release
  | .abandoned => .drop

private theorem step_lettingGo (scratch : ScratchDir) (ending : RunEnd) (workshop : Workshop) :
    (GuardedScratch.step ⟨scratch, true⟩ (lettingGo ending) workshop.machine).2 =
      (⟨scratch, false⟩, (cleanUp scratch ending workshop).2.machine) := by
  cases ending with
  | finished results =>
      unfold cleanUp
      dsimp only
      split <;> rfl
  | failed failure => rfl
  | abandoned => rfl

theorem cleanUp_snd (scratch : ScratchDir) (ending : RunEnd) (workshop : Workshop) :
    (cleanUp scratch ending workshop).2 =
      { workshop with machine := (scratch.remove workshop.machine).2 } := by
  unfold cleanUp
  dsimp only
  split <;> rfl

/-- Where the scratch directory can be made, a run ends by removing it from what the work in it has
left. -/
theorem exists_left {after : Workshop} {ending : RunEnd} {ready : Machine}
    (made : (ScratchDir.ofConfig config).reset workshop.machine = (.ok (), ready))
    (ended : runBy order config toolchain documents workshop = some (ending, after)) :
    ∃ inside left,
      inScratchBy order config toolchain documents { workshop with machine := ready } =
        some (inside, left) ∧
      after.machine = ((ScratchDir.ofConfig config).remove left.machine).2 := by
  rw [runBy_of_reset_ok made] at ended
  obtain ⟨⟨inside, left⟩, done, cleaned⟩ := Option.map_eq_some_iff.mp ended
  have cleanedUp := cleanUp_snd (ScratchDir.ofConfig config) inside left
  rw [cleaned] at cleanedUp
  exact ⟨inside, left, done, congrArg Workshop.machine cleanedUp⟩

/-- What went wrong before the cleaning up is what a run ends with. -/
theorem cleanUp_cases (scratch : ScratchDir) (ending : RunEnd) (workshop : Workshop) :
    ((cleanUp scratch ending workshop).1 = ending ∧
      (cleanUp scratch ending workshop).2.machine.HasNothingAt scratch.path) ∨
    ∃ error, error ≠ .notFound ∧
      Machine.removeTree scratch.path workshop.machine =
        (.error error, (cleanUp scratch ending workshop).2.machine) ∧
      (cleanUp scratch ending workshop).1 =
        match ending with
        | .finished _ => .failed (.scratchDir scratch.path error)
        | other => other := by
  rw [cleanUp_snd]
  rcases scratch.remove_cases workshop.machine with ⟨removed, nothing⟩ |
    ⟨error, refused, tree, removed⟩
  · refine Or.inl ⟨?_, nothing⟩
    unfold cleanUp
    dsimp only
    rw [removed]
    cases ending <;> rfl
  · refine Or.inr ⟨error, refused, tree, ?_⟩
    unfold cleanUp
    dsimp only
    rw [removed]
    cases ending <;> rfl

end Run

/-- Whatever ends a run, its scratch directory is gone unless the system refuses to remove it. That it
refuses is what the run ends with only if nothing else has gone wrong, and a run with results leaves
no scratch directory. A run whose limit cannot be counted drops its guard on the way. Where the
directory cannot be made, that alone ends the run: it would end so with any other documents, whatever
stands in the files. -/
theorem run_removes_scratch {order : Option (List Nat)} {config : Config} {toolchain : Toolchain}
    {documents : List Text} {workshop after : Workshop} {ending : RunEnd}
    (ended : runBy order config toolchain documents workshop = some (ending, after)) :
    let scratch := ScratchDir.ofConfig config
    (∀ ready, scratch.reset workshop.machine = (.ok (), ready) →
      ∃ inside left,
        Run.inScratchBy order config toolchain documents { workshop with machine := ready } =
          some (inside, left) ∧
        (inside = .abandoned ↔ ∃ block blocks compiler jobs,
          Run.blocks config documents ready = .ok (block :: blocks) ∧
            toolchain config ready = .ok compiler ∧ config.jobs = some jobs ∧
              Run.mostJobs < jobs) ∧
        (GuardedScratch.step ⟨scratch, true⟩ (Run.lettingGo inside) left.machine).2 =
          (⟨scratch, false⟩, after.machine) ∧
        ((ending = inside ∧ after.machine.HasNothingAt scratch.path) ∨
          ∃ error, error ≠ .notFound ∧
            Machine.removeTree scratch.path left.machine = (.error error, after.machine) ∧
            ending = match inside with
              | .finished _ => .failed (.scratchDir scratch.path error)
              | other => other)) ∧
      (∀ results, ending = .finished results → after.machine.HasNothingAt scratch.path) ∧
      ∀ failure refused, scratch.reset workshop.machine = (.error failure, refused) →
        ending = .failed failure ∧ after.machine = refused ∧
        (∃ error, failure = .scratchDir scratch.path error) ∧
        ∀ order toolchain documents (other : Workshop),
          other.machine.shape = workshop.machine.shape →
            ∃ left, runBy order config toolchain documents other = some (.failed failure, left) := by
  intro scratch
  have worked : ∀ ready, scratch.reset workshop.machine = (.ok (), ready) →
      ∃ inside left,
        Run.inScratchBy order config toolchain documents { workshop with machine := ready } =
          some (inside, left) ∧ Run.cleanUp scratch inside left = (ending, after) := by
    intro ready made
    rw [Run.runBy_of_reset_ok made] at ended
    obtain ⟨⟨inside, left⟩, done, cleaned⟩ := Option.map_eq_some_iff.mp ended
    exact ⟨inside, left, done, cleaned⟩
  refine ⟨?_, ?_, ?_⟩
  · intro ready made
    obtain ⟨inside, left, done, cleaned⟩ := worked ready made
    have guard := Run.step_lettingGo scratch inside left
    have cases := Run.cleanUp_cases scratch inside left
    rw [cleaned] at guard cases
    exact ⟨inside, left, done, Run.inScratchBy_abandoned done, guard, cases⟩
  · intro results finished
    rcases reset : scratch.reset workshop.machine with ⟨failure | _, ready⟩
    · rw [Run.runBy_of_reset_error reset] at ended
      cases ended
      cases finished
    · obtain ⟨inside, left, _, cleaned⟩ := worked ready reset
      have cases := Run.cleanUp_cases scratch inside left
      rw [cleaned] at cases
      rcases cases with ⟨_, nothing⟩ | ⟨error, _, _, isEnding⟩
      · exact nothing
      · -- An error in the cleaning up never ends with results.
        rw [finished] at isEnding
        cases inside <;> cases isEnding
  · intro failure refused reset
    rw [Run.runBy_of_reset_error reset] at ended
    cases ended
    refine ⟨rfl, rfl, scratch.exists_of_reset_error _ reset, ?_⟩
    intro order toolchain documents other same
    have again := scratch.reset_error_of_shape_eq workshop.machine same reset
    rcases otherReset : scratch.reset other.machine with ⟨_, left⟩
    rw [otherReset] at again
    cases again
    exact ⟨_, Run.runBy_of_reset_error otherReset⟩

/-- A run on the small project that is abandoned at its first block, and finds the directory of an
earlier run. -/
theorem run_removes_scratch_when_abandoned :
    let config : Config := { SmallProject.config with jobs := some (Run.mostJobs + 1) }
    let machine := SmallProject.machine [(["demo".toList, "compiled-docs".toList], .directory),
      (["demo".toList, "compiled-docs".toList, "block-1.ts".toList], .file [] false)]
    let ended := run config SmallProject.toolchain ["README.md".toList] ⟨machine, 7, []⟩
    runBy none config SmallProject.toolchain ["README.md".toList] ⟨machine, 7, []⟩ = some ended ∧
      ended.1 = .abandoned ∧ ended.2.machine.HasNothingAt (ScratchDir.ofConfig config).path := by
  intro config machine ended
  have abandoned : ended.1 = .abandoned := by decide +kernel
  have made : ((ScratchDir.ofConfig config).reset machine).1.isOk = true := by decide +kernel
  have removed : (Machine.removeTree (ScratchDir.ofConfig config).path
      ((ScratchDir.ofConfig config).reset machine).2).1.isOk = true := by
    decide +kernel
  have same : runBy none config SmallProject.toolchain ["README.md".toList] ⟨machine, 7, []⟩ =
      some (ended.1, ended.2) := by
    rw [runBy]
  have removes := run_removes_scratch same
  -- From here on the facts above are all that matters of the project.
  clear_value ended machine config
  refine ⟨same, abandoned, ?_⟩
  rcases reset : (ScratchDir.ofConfig config).reset machine with ⟨failure | _, ready⟩
  · rw [reset] at made
    cases made
  · rw [reset] at removed
    obtain ⟨inside, left, worked, _, _, cleaned⟩ := removes.1 ready reset
    rcases cleaned with ⟨_, nothing⟩ | ⟨error, _, refused, isEnding⟩
    · exact nothing
    · rw [Run.inScratchBy, Run.inScratch] at worked
      split at worked
      · cases worked
        rw [refused] at removed
        cases removed
      · cases worked
        rw [abandoned] at isEnding
        cases isEnding

end DocCheck
