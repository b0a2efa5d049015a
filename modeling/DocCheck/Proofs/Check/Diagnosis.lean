import DocCheck.Compiler.TypeScript
import DocCheck.Proofs.Check.CleanUp
import DocCheck.Proofs.Check.Outcome
import DocCheck.Proofs.Diagnostic.Fields

/-!
The diagnostics in the results of a run. Main statement: what holds of all diagnostics that a compiler
gives, whatever paths are replaced in them, and of those that say that a file cannot be written, holds
of all diagnostics in the results. So the fields of diagnostics stand by ascending key.
-/

namespace DocCheck

/-- A property of diagnostics that a run does not spoil. -/
structure Diagnostic.IsKept (property : Diagnostic → Prop) : Prop where
  crash : ∀ message, property (Diagnostic.crash message)
  scrub : ∀ diagnostic, property diagnostic → ∀ pattern label,
    property (diagnostic.scrub pattern label)

/-- All diagnostics that a compiler gives have a property. -/
def Compiler.Gives (compiler : Compiler) (property : Diagnostic → Prop) : Prop :=
  ∀ source path machine, ∀ diagnostic ∈ (compiler.check source path machine).1, property diagnostic

/-- A run that is over before the first block has no results. -/
private theorem Run.eq_nil_of_prepare_eq_over {config : Config} {toolchain : Toolchain}
    {documents : List Text} {machine : Machine} {results : List Result}
    (prepared : prepare config toolchain documents machine = .over (.finished results)) :
    results = [] := by
  rw [prepare] at prepared
  split at prepared
  · cases prepared
  · cases prepared
    rfl
  · split at prepared
    · cases prepared
    · split at prepared <;> cases prepared

section Kept

variable {property : Diagnostic → Prop} (kept : Diagnostic.IsKept property)

include kept

private theorem Block.has_of_comesTo {compiler : Compiler} (gives : compiler.Gives property)
    {scratch : ScratchDir} {toWrite toCheck : Block → UInt64 → Workshop → Prop} {block : Block}
    {result : Result} (comesTo : block.ComesTo compiler scratch toWrite toCheck result) :
    ∀ diagnostic ∈ result.error, property diagnostic := by
  obtain ⟨id, workshop, _, ends⟩ := comesTo
  split at ends
  · obtain ⟨_, rfl⟩ := ends
    intro diagnostic isError
    obtain rfl := Option.some.inj isError
    exact kept.crash _
  · obtain ⟨later, _, rfl⟩ := ends
    intro diagnostic isError
    obtain ⟨given, isGiven, rfl⟩ := Option.map_eq_some_iff.mp isError
    exact kept.scrub given (gives _ _ _ given isGiven) _ _

variable {config : Config} {toolchain : Toolchain} {documents : List Text} {workshop : Workshop}
  (gives : ∀ machine compiler, toolchain config machine = .ok compiler → compiler.Gives property)

include gives

private theorem Run.has_of_inScratchInOrder {order : List Nat} {ready left : Workshop}
    {results : List Result} (done : inScratchInOrder order config toolchain documents ready =
      some (.finished results, left)) :
    ∀ result ∈ results, ∀ diagnostic ∈ result.error, property diagnostic := by
  rw [inScratchInOrder] at done
  split at done
  · next ending prepared =>
      cases done
      obtain rfl := eq_nil_of_prepare_eq_over prepared
      intro result member
      cases member
  · next compiler blocks prepared =>
      obtain ⟨found, finished, pair⟩ := Option.map_eq_some_iff.mp done
      cases pair
      obtain ⟨length, comesTo⟩ := Pool.comesTo_of_results? finished
      have created := (of_prepare_eq_work prepared).2
      intro result member
      obtain ⟨index, inside, rfl⟩ := List.getElem_of_mem member
      have inBlocks : index < blocks.length := length ▸ inside
      obtain ⟨same, isResult, ends⟩ :=
        comesTo index blocks[index] (List.getElem?_eq_getElem inBlocks)
      rw [List.getElem?_eq_getElem inside] at isResult
      obtain rfl := Option.some.inj isResult
      exact Block.has_of_comesTo kept (gives _ compiler created) ends

theorem Run.has_of_runBy {order : Option (List Nat)} {results : List Result} {after : Workshop}
    (ran : runBy order config toolchain documents workshop = some (.finished results, after)) :
    ∀ result ∈ results, ∀ diagnostic ∈ result.error, property diagnostic := by
  obtain ⟨order, ran⟩ : ∃ order, runInOrder order config toolchain documents workshop =
      some (.finished results, after) := by
    cases order with
    | none =>
        obtain ⟨order, same⟩ := exists_runInOrder_eq_run config toolchain documents workshop
        exact ⟨order, same.trans ran⟩
    | some order => exact ⟨order, ran⟩
  rw [runInOrder] at ran
  split at ran
  · cases ran
  · obtain ⟨⟨inside, left⟩, done, cleaned⟩ := Option.map_eq_some_iff.mp ran
    have isEnd := congrArg Prod.fst cleaned
    have isInside : inside = .finished results := by
      rcases cleanUp_cases (ScratchDir.ofConfig config) inside left with
        ⟨same, _⟩ | ⟨error, _, _, refused⟩
      · exact same.symm.trans isEnd
      · rw [refused] at isEnd
        cases inside <;> cases isEnd
    rw [isInside] at done
    exact has_of_inScratchInOrder kept gives done

end Kept

private theorem Diagnostic.isKept_hasAscendingFields : IsKept HasAscendingFields where
  crash := hasAscendingFields_crash
  scrub := fun _ ascending => ascending.scrub

namespace TypeScript

private theorem hasAscendingFields_of_diagnosticOf {outcome : Shell.Outcome}
    {diagnostic : Diagnostic}
    (given : diagnosticOf outcome = some diagnostic) : diagnostic.HasAscendingFields := by
  rw [diagnosticOf] at given
  split at given
  · split at given
    · cases given
    · cases given
      exact Diagnostic.hasAscendingFields_ofReport _ _ _
  · cases given
    exact Diagnostic.hasAscendingFields_ofReport _ _ _

/-- The compiler of the project gives diagnostics whose fields stand by ascending key. -/
theorem gives_hasAscendingFields (compiler : TypeScript) :
    compiler.compiler.Gives Diagnostic.HasAscendingFields := by
  intro source path machine diagnostic given
  have crashed {task path : Text} {error : FileError} (given : diagnostic ∈ crashAt task path error) :
      diagnostic.HasAscendingFields := by
    obtain rfl := Option.some.inj given
    exact Diagnostic.hasAscendingFields_crash _
  rw [TypeScript.compiler] at given
  dsimp only at given
  rw [check] at given
  split at given
  · exact crashed given
  · dsimp only at given
    split at given
    · exact crashed given
    · split at given
      · exact crashed given
      · exact hasAscendingFields_of_diagnosticOf given

/-- In a run with the compiler of the project the fields of all diagnostics stand by ascending key. -/
theorem hasAscendingFields_of_runBy {order : Option (List Nat)} {config : Config}
    {documents : List Text} {workshop after : Workshop} {results : List Result}
    (ran : runBy order config toolchain documents workshop = some (.finished results, after)) :
    ∀ result ∈ results, ∀ diagnostic ∈ result.error, diagnostic.HasAscendingFields := by
  have gives (machine : Machine) (compiler : Compiler)
      (created : toolchain config machine = .ok compiler) :
      compiler.Gives Diagnostic.HasAscendingFields := by
    rw [toolchain] at created
    split at created
    · next found _ =>
        cases created
        exact found.gives_hasAscendingFields
    · cases created
  exact Run.has_of_runBy Diagnostic.isKept_hasAscendingFields gives ran

end TypeScript

end DocCheck
