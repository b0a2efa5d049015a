import DocCheck.Proofs.Check.Inputs
import DocCheck.Proofs.Machine.Making

/-!
What a run leaves behind. Main statement: where the compiler writes nowhere but in the scratch
directory, a run changes nothing outside of that directory but that it adds the directories above it
that were missing; where the directory that it is made in is there, the run leaves no trace.
-/

namespace DocCheck

open FileTree

/-! ## The scratch directory and the rest -/

namespace ScratchDir

variable (scratch : ScratchDir) (machine : Machine)

/-- The path of the directory names a place, or one above it. -/
def Covers (place : Location) : Prop :=
  ∃ location entry, machine.findSelf scratch.path = .ok (.present location entry) ∧
    location <+: place

private theorem remove_isPart : (scratch.remove machine).2.files.IsPart machine.files := by
  have removed := Machine.removeTree_isPart scratch.path machine
  unfold remove
  generalize Machine.removeTree scratch.path machine = result at removed ⊢
  obtain ⟨error | _, after⟩ := result
  · dsimp only
    split <;> exact removed
  · exact removed

variable {machine} {place : Location}

private theorem find?_remove (outside : ¬ scratch.Covers machine place) :
    (scratch.remove machine).2.files.find? place = machine.files.find? place := by
  have lower := (scratch.isPart_remove machine).1
  have upper := scratch.remove_isPart machine
  rcases found : machine.findSelf scratch.path with error | ⟨location, entry⟩ | absent
  · rw [found] at lower
    exact lower.find?_eq upper rfl
  · rw [found] at lower
    exact AgreesOutside.of_isPart lower upper place fun below =>
      outside ⟨location, entry, found, below⟩
  · rw [found] at lower
    exact lower.find?_eq upper rfl

/-- A path that no file can have is refused when the directory is removed. -/
private theorem path_of_remove (removed : (scratch.remove machine).1 = .ok ()) :
    scratch.path = [] ∨
      '\x00' ∉ scratch.path ∧ Text.byteLength scratch.path < pathLimit := by
  have known : ∀ error, machine.findSelf scratch.path = .error error → error = .notFound := by
    intro error refused
    rw [remove, Machine.removeTree, refused] at removed
    dsimp only at removed
    split at removed
    · assumption
    · cases removed
  rw [Machine.findSelf, resolve] at known
  by_cases clean : scratch.path.contains '\x00' = true
  · rw [if_pos clean] at known
    exact absurd (known _ rfl) (by decide)
  by_cases empty : scratch.path.isEmpty = true
  · exact Or.inl (List.isEmpty_iff.mp empty)
  by_cases long : pathLimit ≤ Text.byteLength scratch.path
  · rw [if_neg clean, if_neg empty, if_pos long] at known
    exact absurd (known _ rfl) (by decide)
  exact Or.inr ⟨by simpa using clean, Nat.lt_of_not_le long⟩

/-- Making the directory anew adds it and the ones above it that are missing once it has been removed,
and it changes nothing else. -/
private theorem find?_reset (before : ¬ scratch.Covers machine place)
    (made : ¬ scratch.Covers (scratch.reset machine).2 place) :
    (scratch.reset machine).2.files.find? place = machine.files.find? place ∨
      ∃ ancestor, (scratch.remove machine).2.LacksAbove ancestor scratch.path ∧
        machine.Gains ancestor place (scratch.reset machine).2 := by
  have same := scratch.find?_remove before
  rcases scratch.reset_snd machine with refused | ⟨removed, reset⟩
  · rw [refused]
    exact Or.inl same
  · rw [reset] at made ⊢
    have isDirectory : ∀ cleared, (Machine.makeDirectories scratch.path cleared).2.findSelf
        (Machine.withoutEndSlashes scratch.path) = .ok (.present place .directory) →
        scratch.Covers (Machine.makeDirectories scratch.path cleared).2 place := by
      intro cleared named
      rcases scratch.path_of_remove removed with empty | ⟨clean, short⟩
      · rw [empty] at named
        exact absurd rfl (Machine.ne_nil_of_resolve named)
      · exact ⟨place, .directory, Machine.findSelf_of_withoutEndSlashes clean short named,
          List.prefix_refl place⟩
    rcases Machine.makeDirectoriesWithin_adds (scratch.path.length + 1) scratch.path
        (scratch.remove machine).2 place with unchanged | ⟨_, gains⟩ | ⟨ancestor, above, gains⟩
    · exact Or.inl (unchanged.trans same)
    · exact absurd (isDirectory _ gains.named) made
    · exact Or.inr ⟨ancestor, above, same.symm.trans gains.missing, gains.present, gains.named⟩

end ScratchDir

/-! ## Compilers that write in the scratch directory -/

/-- The compiler changes nothing but in the scratch directory at a location. The directory stays where
it is, and the compiler makes no links under the names of block files. -/
structure Compiler.Enclosed (compiler : Compiler) (scratch : ScratchDir) (location : Location) :
    Prop where
  stands : ∀ (source : Text) (id : UInt64) (machine : Machine), scratch.StandsAt location machine →
    scratch.StandsAt location (compiler.check source (scratch.blockPath id.toNat) machine).2
  agrees : ∀ (source : Text) (id : UInt64) (machine : Machine), scratch.StandsAt location machine →
    AgreesOutside location machine.files
      (compiler.check source (scratch.blockPath id.toNat) machine).2.files

/-- The directory stands at a location, and outside of it two machines hold the same. -/
structure ScratchDir.Encloses (scratch : ScratchDir) (location : Location)
    (ready machine : Machine) : Prop where
  stands : scratch.StandsAt location machine
  agrees : AgreesOutside location ready.files machine.files

private theorem Compiler.Enclosed.keeps {compiler : Compiler} {scratch : ScratchDir}
    {location : Location} (enclosed : compiler.Enclosed scratch location) (ready : Machine) :
    compiler.Keeps scratch (scratch.Encloses location ready) where
  writes := by
    intro id content machine encloses
    rcases encloses.stands.leadsTo.writeFile_blockPath_cases id content with ⟨error, refused⟩ |
      ⟨executable, _, written, free⟩
    · rw [refused]
      exact encloses
    · rw [written]
      exact ⟨encloses.stands.store content executable free,
        encloses.agrees.trans (.store (List.prefix_append location _) _ _)⟩
  checks := by
    intro source id machine encloses
    exact ⟨enclosed.stands source id machine encloses.stands,
      encloses.agrees.trans (enclosed.agrees source id machine encloses.stands)⟩

/-! ## Runs -/

/-- What the scratch directory has been made among is the same after the run. -/
theorem Run.find?_after {order : Option (List Nat)} {config : Config} {toolchain : Toolchain}
    {documents : List Text} {workshop after : Workshop} {ending : RunEnd} {place : Location}
    (ended : runBy order config toolchain documents workshop = some (ending, after))
    (enclosed : ∀ ready, (ScratchDir.ofConfig config).reset workshop.machine = (.ok (), ready) →
      ∃ location, (ScratchDir.ofConfig config).StandsAt location ready ∧
        ∀ compiler, toolchain config ready = .ok compiler →
          compiler.Enclosed (ScratchDir.ofConfig config) location)
    (made : ¬ (ScratchDir.ofConfig config).Covers
      ((ScratchDir.ofConfig config).reset workshop.machine).2 place) :
    after.machine.files.find? place =
      ((ScratchDir.ofConfig config).reset workshop.machine).2.files.find? place := by
  rcases reset : (ScratchDir.ofConfig config).reset workshop.machine with ⟨failure | _, ready⟩
  · rw [runBy_of_reset_error reset] at ended
    cases ended
    rfl
  · obtain ⟨location, stands, compilers⟩ := enclosed ready reset
    obtain ⟨inside, left, done, machine⟩ := exists_left reset ended
    have encloses := inScratchBy_keeps done
      (fun compiler created => (compilers compiler created).keeps ready)
      ⟨stands, AgreesOutside.refl location _⟩
    rw [reset] at made
    have outside : ¬ location <+: place := fun below =>
      made ⟨location, .directory, stands.found, below⟩
    have uncovered : ¬ (ScratchDir.ofConfig config).Covers left.machine place := by
      rintro ⟨other, entry, found, below⟩
      rw [encloses.stands.found] at found
      cases found
      exact outside below
    rw [machine, ScratchDir.find?_remove _ uncovered]
    exact encloses.agrees place outside

/-- A run whose compiler changes nothing but in the scratch directory leaves all as it was outside of
it, however the run ends and in whatever order its tasks take turns: nothing is removed or changed,
and all that is added are directories above the scratch directory that were missing. Where the
directory is there that the scratch directory is made in, nothing is added. -/
theorem run_leaves_no_trace {order : Option (List Nat)} {config : Config} {toolchain : Toolchain}
    {documents : List Text} {workshop after : Workshop} {ending : RunEnd} {place : Location}
    (ended : runBy order config toolchain documents workshop = some (ending, after))
    (enclosed : ∀ ready, (ScratchDir.ofConfig config).reset workshop.machine = (.ok (), ready) →
      ∃ location, (ScratchDir.ofConfig config).StandsAt location ready ∧
        ∀ compiler, toolchain config ready = .ok compiler →
          compiler.Enclosed (ScratchDir.ofConfig config) location)
    (before : ¬ (ScratchDir.ofConfig config).Covers workshop.machine place)
    (made : ¬ (ScratchDir.ofConfig config).Covers
      ((ScratchDir.ofConfig config).reset workshop.machine).2 place) :
    let scratch := ScratchDir.ofConfig config
    let cleared := (scratch.remove workshop.machine).2
    (after.machine.files.find? place = workshop.machine.files.find? place ∨
      after.machine.files.find? place = some .directory ∧
        ∃ ancestor, cleared.LacksAbove ancestor scratch.path ∧
          workshop.machine.Gains ancestor place (scratch.reset workshop.machine).2) ∧
      ((∀ parent, Path.parent? scratch.path = some parent → ¬ cleared.Lacks parent) →
        after.machine.files.find? place = workshop.machine.files.find? place) := by
  intro scratch cleared
  have same := Run.find?_after ended enclosed made
  rw [same]
  rcases scratch.find?_reset before made with unchanged | ⟨ancestor, above, gains⟩
  · exact ⟨Or.inl unchanged, fun _ => unchanged⟩
  · refine ⟨Or.inr ⟨gains.present, ancestor, above, gains⟩, fun there => ?_⟩
    cases above with
    | parent isParent lacks => exact absurd lacks (there _ isParent)
    | above isParent lacks _ => exact absurd lacks (there _ isParent)

private theorem SmallProject.compiler_enclosed (location : Location) :
    SmallProject.compiler.Enclosed (ScratchDir.ofConfig SmallProject.config) location where
  stands := fun _ _ _ stands => stands
  agrees := fun _ _ machine _ => AgreesOutside.refl location machine.files

/-- A run on the small project leaves everything outside of `compiled-docs` as it was. -/
theorem run_leaves_no_trace_in_small_project :
    let machine := SmallProject.machine []
    let ended := run SmallProject.config SmallProject.toolchain ["README.md".toList] ⟨machine, 7, []⟩
    runBy none SmallProject.config SmallProject.toolchain ["README.md".toList] ⟨machine, 7, []⟩ =
        some ended ∧
      ∀ place, ¬ ["demo".toList, "compiled-docs".toList] <+: place →
        ended.2.machine.files.find? place = machine.files.find? place := by
  intro machine ended
  have same : runBy none SmallProject.config SmallProject.toolchain ["README.md".toList]
      ⟨machine, 7, []⟩ = some (ended.1, ended.2) := by
    rw [runBy]
  have absent : machine.findSelf (ScratchDir.ofConfig SmallProject.config).path =
      .ok (.absent ["demo".toList] "compiled-docs".toList) := rfl
  have found : ((ScratchDir.ofConfig SmallProject.config).reset machine).2.findSelf
      (ScratchDir.ofConfig SmallProject.config).path =
        .ok (.present ["demo".toList, "compiled-docs".toList] .directory) := rfl
  have stands := SmallProject.standsAt_reset
  have there : ∀ parent,
      Path.parent? (ScratchDir.ofConfig SmallProject.config).path = some parent →
        ¬ ((ScratchDir.ofConfig SmallProject.config).remove machine).2.Lacks parent := by
    intro parent isParent lacks
    obtain rfl : ".".toList = parent := Option.some.inj isParent
    exact absurd lacks.2 (by decide +kernel)
  clear_value ended
  refine ⟨same, fun place outside => (run_leaves_no_trace same ?_ ?_ ?_).2 there⟩
  · intro ready made
    have isReady : ready = ((ScratchDir.ofConfig SmallProject.config).reset machine).2 := by
      rw [made]
    refine ⟨_, isReady ▸ stands, ?_⟩
    intro compiler created
    cases created
    exact SmallProject.compiler_enclosed _
  · rintro ⟨location, entry, present, _⟩
    rw [absent] at present
    cases present
  · rintro ⟨location, entry, present, below⟩
    rw [found] at present
    cases present
    exact outside below

/-- Where the project root is missing, the run fails without its manifest and leaves the directories
that it has made on the way to the scratch directory. -/
theorem trace_left_of_missing_project_root :
    let config : Config := Config.ofProject "gone/away".toList
    let machine := SmallProject.machine []
    let ended := run config SmallProject.toolchain ["README.md".toList] ⟨machine, 7, []⟩
    (∀ source path machine, (SmallProject.compiler.check source path machine).2 = machine) ∧
      (∀ results, ended.1 ≠ .finished results) ∧
      [["demo".toList, "gone".toList], ["demo".toList, "gone".toList, "away".toList]].all
        (fun place => machine.files.find? place == none &&
          ended.2.machine.files.find? place == some .directory) = true := by
  intro config machine ended
  have failed : (match ended.1 with | .failed _ => true | _ => false) = true := by decide +kernel
  refine ⟨fun _ _ _ => rfl, fun results finished => ?_, by decide +kernel⟩
  rw [finished] at failed
  cases failed

end DocCheck
