import DocCheck.Proofs.Check.Trace
import DocCheck.Proofs.Machine.Naming

/-!
The life of a scratch directory, while others change what is below it. Main statement: where the root of
the project is reached without passing through the scratch directory, the directory is there and
empty once it has been made and gone once it has been removed, a file in its place is left alone, and
no step changes anything elsewhere.
-/

namespace DocCheck

open FileTree

namespace ScratchDir

/-! ## Where the directory stands -/

/-- The root of the project leads to the directory at a location, and it does so without anything that
stands under the scratch directory's name there. -/
structure IsPlaced (root name : Text) (base : Location) (machine : Machine) : Prop where
  named : Path.IsFileName name
  leads : (machine.withFiles (machine.files.remove (base ++ [name]))).find root =
    .ok (.present base .directory)

/-- A file stands at a place. -/
def HoldsFile (tree : FileTree) (place : Location) : Prop :=
  ∃ content executable, tree.find? place = some (.file content executable)

private theorem not_holdsFile {tree : FileTree} {place : Location}
    (known : tree.find? place = none ∨ tree.find? place = some .directory) :
    ¬ HoldsFile tree place := by
  rintro ⟨content, executable, file⟩
  rcases known with known | known <;> rw [known] at file <;> cases file

namespace IsPlaced

variable {root name : Text} {base : Location} {machine : Machine}

private theorem of_agrees (placed : IsPlaced root name base machine) {files : FileTree}
    (agrees : AgreesOutside (base ++ [name]) machine.files files) :
    IsPlaced root name base (machine.withFiles files) where
  named := placed.named
  leads := agrees.isPart_remove.resolve_eq placed.leads

private theorem find_root (placed : IsPlaced root name base machine) :
    machine.find root = .ok (.present base .directory) :=
  (FileTree.isPart_remove (base ++ [name]) machine.files).resolve_eq placed.leads

private theorem findSelf_path (placed : IsPlaced root name base machine)
    (takes : Machine.Takes (Path.join root name) name) :
    machine.findSelf (inProject root name).path =
      match machine.files.find? (base ++ [name]) with
      | none => .ok (.absent base name)
      | some entry => .ok (.present (base ++ [name]) entry) :=
  Machine.findSelf_join placed.named placed.find_root takes

/-! ## Removing the directory -/

/-- Where nothing stands, nothing is to be removed. -/
private theorem remove_of_none (placed : IsPlaced root name base machine)
    (takes : Machine.Takes (Path.join root name) name)
    (missing : machine.files.find? (base ++ [name]) = none) :
    (inProject root name).remove machine = (.ok (), machine) := by
  have found := placed.findSelf_path takes
  rw [missing] at found
  rw [remove, Machine.removeTree, found]
  rfl

private theorem remove_of_file (placed : IsPlaced root name base machine)
    (takes : Machine.Takes (Path.join root name) name)
    (file : HoldsFile machine.files (base ++ [name])) :
    (inProject root name).remove machine =
      (.error (.scratchDir (inProject root name).path .notDirectory), machine) := by
  obtain ⟨content, executable, present⟩ := file
  have found := placed.findSelf_path takes
  rw [present] at found
  rw [remove, Machine.removeTree, found]
  rfl

/-- A directory is emptied and then removed, since its path still leads there. -/
private theorem remove_of_directory (placed : IsPlaced root name base machine)
    (takes : Machine.Takes (Path.join root name) name)
    (present : machine.files.find? (base ++ [name]) = some .directory) :
    (inProject root name).remove machine =
      (.ok (), machine.withFiles
        ((machine.files.clear (base ++ [name])).remove (base ++ [name]))) := by
  have normal := normal_inProject root placed.named
  have found := placed.findSelf_path takes
  rw [present] at found
  have stillPlaced := placed.of_agrees (agreesOutside_clear (base ++ [name]) machine.files)
  have stillPresent : (machine.files.clear (base ++ [name])).find? (base ++ [name]) =
      some .directory := by
    rw [find?_clear _ (by simp), if_neg (by simp), present]
  have stillFound := stillPlaced.findSelf_path takes
  rw [Machine.withFiles, stillPresent] at stillFound
  obtain ⟨init, names⟩ := normal.exists_steps_path
  have empty := hasChildren_clear machine.files (base ++ [name])
  have removed : Machine.removeDirectory (inProject root name).path
      (machine.withFiles (machine.files.clear (base ++ [name]))) =
        (.ok (), machine.withFiles
          ((machine.files.clear (base ++ [name])).remove (base ++ [name]))) := by
    rw [Machine.removeDirectory]
    simp only [normal.withoutEndSlashes_path, Machine.withFiles, stillFound, names,
      List.getLast?_concat]
    split
    · next dot => exact absurd (Option.some.inj dot) placed.named.noStay
    · next dots => exact absurd (Option.some.inj dots) placed.named.noParent
    · simp [empty]
  rw [remove, Machine.removeTree, found]
  dsimp only
  rw [removed]

/-- Unless a file stands there, the directory is removed, or the link in its place. -/
theorem remove_spec (placed : IsPlaced root name base machine)
    (takes : Machine.Takes (Path.join root name) name)
    (noFile : ¬ HoldsFile machine.files (base ++ [name]))
    (empty : machine.files.find? (base ++ [name]) = none → machine.files.IsEmpty (base ++ [name])) :
    ∃ files, (inProject root name).remove machine = (.ok (), machine.withFiles files) ∧
      AgreesOutside (base ++ [name]) machine.files files ∧ files.IsFree (base ++ [name]) := by
  cases present : machine.files.find? (base ++ [name]) with
  | none =>
      exact ⟨machine.files, placed.remove_of_none takes present, .refl _ _,
        isFree_iff.mpr ⟨present, empty present⟩⟩
  | some entry =>
      cases entry with
      | file content executable => exact absurd ⟨content, executable, present⟩ noFile
      | link target =>
          have found := placed.findSelf_path takes
          rw [present] at found
          refine ⟨machine.files.remove (base ++ [name]), ?_, agreesOutside_remove _ _,
            isFree_remove _ (by simp)⟩
          rw [remove, Machine.removeTree, found]
      | directory =>
          exact ⟨_, placed.remove_of_directory takes present,
            (agreesOutside_clear _ _).trans (agreesOutside_remove _ _), isFree_remove _ (by simp)⟩

/-- A file is not removed, nor is anything under a path that the system does not take. -/
private theorem remove_of_refused (placed : IsPlaced root name base machine)
    (refused : Machine.Takes (Path.join root name) name →
      HoldsFile machine.files (base ++ [name])) :
    ∃ error, (inProject root name).remove machine =
      (.error (.scratchDir (inProject root name).path error), machine) := by
  have path : (inProject root name).path = Path.join root name := rfl
  by_cases takes : Machine.Takes (Path.join root name) name
  · exact ⟨.notDirectory, placed.remove_of_file takes (refused takes)⟩
  · rcases Machine.findSelf_join_of_not_takes placed.named placed.find_root takes with found | found
    · refine ⟨.nulInPath, ?_⟩
      rw [remove, Machine.removeTree, path, found]
      rfl
    · refine ⟨.nameTooLong, ?_⟩
      rw [remove, Machine.removeTree, path, found]
      rfl

/-! ## Making it anew -/

/-- Where nothing stands, the directory is made and nothing else. -/
theorem makeDirectories_spec (placed : IsPlaced root name base machine)
    (takes : Machine.Takes (Path.join root name) name)
    (free : machine.files.IsFree (base ++ [name])) :
    ∃ files, Machine.makeDirectories (inProject root name).path machine =
        (.ok (), machine.withFiles files) ∧
      AgreesOutside (base ++ [name]) machine.files files ∧
      files.find? (base ++ [name]) = some .directory ∧ files.IsEmpty (base ++ [name]) := by
  have normal := normal_inProject root placed.named
  obtain ⟨missing, empty⟩ := isFree_iff.mp free
  have found := placed.findSelf_path takes
  rw [missing] at found
  have filled : (inProject root name).path.isEmpty = false := by simpa using normal.path_ne_nil
  refine ⟨machine.files.store (base ++ [name]) .directory, ?_, .store (List.prefix_refl _) _ _,
    find?_store_self _ _ (by simp), isEmpty_store empty _⟩
  rw [Machine.makeDirectories, Machine.makeDirectoriesWithin, filled, Machine.makeDirectory,
    normal.withoutEndSlashes_path, found]
  rfl

theorem reset_spec (placed : IsPlaced root name base machine)
    (takes : Machine.Takes (Path.join root name) name)
    (noFile : ¬ HoldsFile machine.files (base ++ [name]))
    (empty : machine.files.find? (base ++ [name]) = none → machine.files.IsEmpty (base ++ [name])) :
    ∃ files, (inProject root name).reset machine = (.ok (), machine.withFiles files) ∧
      AgreesOutside (base ++ [name]) machine.files files ∧
      files.find? (base ++ [name]) = some .directory ∧ files.IsEmpty (base ++ [name]) := by
  obtain ⟨cleared, removed, agrees, free⟩ := placed.remove_spec takes noFile empty
  obtain ⟨files, made, added, present, nothing⟩ :=
    (placed.of_agrees agrees).makeDirectories_spec takes free
  refine ⟨files, ?_, agrees.trans added, present, nothing⟩
  rw [reset, removed]
  dsimp only
  rw [made]
  rfl

private theorem reset_of_refused (placed : IsPlaced root name base machine)
    (refused : Machine.Takes (Path.join root name) name →
      HoldsFile machine.files (base ++ [name])) :
    ∃ error, (inProject root name).reset machine =
      (.error (.scratchDir (inProject root name).path error), machine) := by
  obtain ⟨error, same⟩ := placed.remove_of_refused refused
  exact ⟨error, by rw [reset, same]⟩

end IsPlaced

end ScratchDir

/-! ## Steps and the changes between them -/

namespace GuardedScratch

open ScratchDir

/-- The steps that make the directory; the others remove it. -/
def Step.Makes (step : Step) : Prop :=
  step = .reset ∨ step = .acquire

/-- One guard is held at a time. -/
def Allows (guarded : GuardedScratch) (step : Step) : Prop :=
  step = .acquire → guarded.held = false

/-- Without a guard there is nothing to let go. -/
def Idles (guarded : GuardedScratch) (step : Step) : Prop :=
  (step = .release ∨ step = .drop) ∧ guarded.held = false

/-- A scratch directory at a place and its machine, after steps and after changes that others make at
the place or below it. All that the others may not do is put a file in the place of the directory. -/
inductive LifeCycle (scratch : ScratchDir) (place : Location) (start : Machine) :
    GuardedScratch → Machine → Prop where
  | begin : LifeCycle scratch place start ⟨scratch, false⟩ start
  | step {guarded : GuardedScratch} {machine : Machine} (step : Step)
      (before : LifeCycle scratch place start guarded machine) (allowed : guarded.Allows step) :
      LifeCycle scratch place start (guarded.step step machine).2.1 (guarded.step step machine).2.2
  | change {guarded : GuardedScratch} {machine : Machine} {files : FileTree}
      (before : LifeCycle scratch place start guarded machine)
      (below : AgreesOutside place machine.files files) (nested : files.IsNested)
      (noNewFile : HoldsFile files place → HoldsFile machine.files place) :
      LifeCycle scratch place start guarded (machine.withFiles files)

/-- What holds of a scratch directory at any time. -/
structure Sound (root name : Text) (base : Location) (guarded : GuardedScratch)
    (machine : Machine) : Prop where
  dir : guarded.dir = inProject root name
  placed : IsPlaced root name base machine
  empty : machine.files.find? (base ++ [name]) ≠ some .directory →
    machine.files.IsEmpty (base ++ [name])
  /-- A guard is held on what can be removed. -/
  guards : guarded.held = true →
    Machine.Takes (Path.join root name) name ∧ ¬ HoldsFile machine.files (base ++ [name])

variable {root name : Text} {base : Location} {guarded : GuardedScratch} {machine : Machine}
  {step : Step}

/-- What a step comes to: the answer and the machine that it leaves. -/
inductive Outcome (root name : Text) (base : Location) (guarded : GuardedScratch) (machine : Machine)
    (step : Step) : Option (Except Failure Unit) → Machine → Prop where
  | idle (idles : guarded.Idles step) : Outcome root name base guarded machine step none machine
  /-- A file is in the way, or the system does not take the path. -/
  | refused (error : FileError) (busy : ¬ guarded.Idles step)
      (refuses : Machine.Takes (Path.join root name) name →
        HoldsFile machine.files (base ++ [name])) :
      Outcome root name base guarded machine step
        (some (.error (.scratchDir (inProject root name).path error))) machine
  | made (files : FileTree) (makes : step.Makes)
      (takes : Machine.Takes (Path.join root name) name)
      (noFile : ¬ HoldsFile machine.files (base ++ [name]))
      (elsewhere : AgreesOutside (base ++ [name]) machine.files files)
      (found : (machine.withFiles files).findSelf (inProject root name).path =
        .ok (.present (base ++ [name]) .directory))
      (empty : files.IsEmpty (base ++ [name])) :
      Outcome root name base guarded machine step (some (.ok ())) (machine.withFiles files)
  | removed (files : FileTree) (busy : ¬ guarded.Idles step) (removes : ¬ step.Makes)
      (takes : Machine.Takes (Path.join root name) name)
      (noFile : ¬ HoldsFile machine.files (base ++ [name]))
      (elsewhere : AgreesOutside (base ++ [name]) machine.files files)
      (found : (machine.withFiles files).findSelf (inProject root name).path =
        .ok (.absent base name))
      (free : files.IsFree (base ++ [name]))
      (again : (inProject root name).remove (machine.withFiles files) =
        (.ok (), machine.withFiles files)) :
      Outcome root name base guarded machine step (some (.ok ())) (machine.withFiles files)

/-! ## A step -/

private theorem Step.Makes.not_idles (makes : step.Makes) (guarded : GuardedScratch) :
    ¬ guarded.Idles step := by
  rintro ⟨rfl | rfl, _⟩ <;> rcases makes with makes | makes <;> cases makes

/-- A step does nothing, or it makes the directory, or it removes it. -/
theorem step_cases (allowed : guarded.Allows step) (machine : Machine) :
    (guarded.Idles step ∧ guarded.step step machine = (none, guarded, machine)) ∨
    (step.Makes ∧ ∃ held, (held = true → guarded.held = true ∨
        (guarded.dir.reset machine).1 = .ok ()) ∧
      guarded.step step machine =
        (some (guarded.dir.reset machine).1, { guarded with held := held },
          (guarded.dir.reset machine).2)) ∨
    (¬ step.Makes ∧ ¬ guarded.Idles step ∧ ∃ held answer, (held = true → guarded.held = true) ∧
      (answer = (guarded.dir.remove machine).1 ∨ guarded.held = true ∧ answer = .ok ()) ∧
      guarded.step step machine =
        (some answer, { guarded with held := held }, (guarded.dir.remove machine).2)) := by
  cases step with
  | reset => exact Or.inr (Or.inl ⟨Or.inl rfl, guarded.held, Or.inl, rfl⟩)
  | remove =>
      refine Or.inr (Or.inr ⟨by simp [Step.Makes], by simp [Idles], guarded.held, _, id, Or.inl rfl,
        rfl⟩)
  | acquire =>
      have free := allowed rfl
      refine Or.inr (Or.inl ⟨Or.inr rfl, ?_⟩)
      rcases reset : guarded.dir.reset machine with ⟨failure | _, left⟩
      · exact ⟨guarded.held, Or.inl, by rw [GuardedScratch.step, reset]⟩
      · exact ⟨true, fun _ => Or.inr rfl, by simp [GuardedScratch.step, reset, free]⟩
  | release =>
      by_cases held : guarded.held = true
      · refine Or.inr (Or.inr ⟨by simp [Step.Makes], by simp [Idles, held], false, _, by simp,
          Or.inl rfl, ?_⟩)
        rw [GuardedScratch.step, if_pos held]
      · refine Or.inl ⟨⟨Or.inl rfl, by simpa using held⟩, ?_⟩
        rw [GuardedScratch.step, if_neg held]
  | drop =>
      by_cases held : guarded.held = true
      · refine Or.inr (Or.inr ⟨by simp [Step.Makes], by simp [Idles, held], false, _, by simp,
          Or.inr ⟨held, rfl⟩, ?_⟩)
        rw [GuardedScratch.step, if_pos held]
        rfl
      · refine Or.inl ⟨⟨Or.inr rfl, by simpa using held⟩, ?_⟩
        rw [GuardedScratch.step, if_neg held]

namespace Sound

private theorem of_agrees (sound : Sound root name base guarded machine) {files : FileTree}
    (agrees : AgreesOutside (base ++ [name]) machine.files files)
    (empty : files.find? (base ++ [name]) ≠ some .directory → files.IsEmpty (base ++ [name]))
    {held : Bool} (guards : held = true →
      Machine.Takes (Path.join root name) name ∧ ¬ HoldsFile files (base ++ [name])) :
    Sound root name base ⟨inProject root name, held⟩ (machine.withFiles files) where
  dir := rfl
  placed := sound.placed.of_agrees agrees
  empty := empty
  guards := guards

private theorem empty_of_none (sound : Sound root name base guarded machine)
    (missing : machine.files.find? (base ++ [name]) = none) :
    machine.files.IsEmpty (base ++ [name]) :=
  sound.empty (by rw [missing]; simp)

/-- Making the directory succeeds with an empty one, or is refused and changes nothing. -/
theorem reset_outcome (sound : Sound root name base guarded machine) (makes : step.Makes)
    {held : Bool} (holds : held = true →
      guarded.held = true ∨ ((inProject root name).reset machine).1 = .ok ()) :
    Outcome root name base guarded machine step (some ((inProject root name).reset machine).1)
        ((inProject root name).reset machine).2 ∧
      Sound root name base ⟨inProject root name, held⟩ ((inProject root name).reset machine).2 := by
  by_cases refuses : Machine.Takes (Path.join root name) name →
    HoldsFile machine.files (base ++ [name])
  · obtain ⟨error, same⟩ := sound.placed.reset_of_refused refuses
    rw [same] at holds ⊢
    refine ⟨.refused error (makes.not_idles guarded) refuses, ?_⟩
    exact ⟨rfl, sound.placed, sound.empty, fun isHeld => sound.guards (by simpa using holds isHeld)⟩
  · obtain ⟨takes, noFile⟩ := Classical.not_imp.mp refuses
    obtain ⟨files, reset, agrees, present, empty⟩ :=
      sound.placed.reset_spec takes noFile sound.empty_of_none
    have found := (sound.placed.of_agrees agrees).findSelf_path takes
    rw [Machine.withFiles, present] at found
    rw [reset]
    exact ⟨.made files makes takes noFile agrees found empty,
      sound.of_agrees agrees (fun _ => empty) fun _ => ⟨takes, not_holdsFile (Or.inr present)⟩⟩

/-- Removing the directory leaves nothing at its place, or is refused and changes nothing. Who is not
told of the refusal holds a guard, so that there is none. -/
theorem remove_outcome (sound : Sound root name base guarded machine) (removes : ¬ step.Makes)
    (busy : ¬ guarded.Idles step) {held : Bool} (holds : held = true → guarded.held = true)
    {answer : Except Failure Unit} (answers : answer = ((inProject root name).remove machine).1 ∨
      guarded.held = true ∧ answer = .ok ()) :
    Outcome root name base guarded machine step (some answer)
        ((inProject root name).remove machine).2 ∧
      Sound root name base ⟨inProject root name, held⟩ ((inProject root name).remove machine).2 := by
  by_cases refuses : Machine.Takes (Path.join root name) name →
    HoldsFile machine.files (base ++ [name])
  · obtain ⟨error, same⟩ := sound.placed.remove_of_refused refuses
    rw [same] at answers ⊢
    rcases answers with rfl | ⟨isHeld, _⟩
    · exact ⟨.refused error busy refuses,
        ⟨rfl, sound.placed, sound.empty, fun isHeld => sound.guards (holds isHeld)⟩⟩
    · obtain ⟨takes, noFile⟩ := sound.guards isHeld
      exact absurd (refuses takes) noFile
  · obtain ⟨takes, noFile⟩ := Classical.not_imp.mp refuses
    obtain ⟨files, removed, agrees, free⟩ :=
      sound.placed.remove_spec takes noFile sound.empty_of_none
    obtain ⟨missing, empty⟩ := isFree_iff.mp free
    have placed := sound.placed.of_agrees agrees
    have found := placed.findSelf_path takes
    rw [Machine.withFiles, missing] at found
    rw [removed] at answers ⊢
    obtain rfl : answer = .ok () := by
      rcases answers with known | ⟨_, known⟩ <;> exact known
    exact ⟨.removed files busy removes takes noFile agrees found free
        (placed.remove_of_none takes missing),
      sound.of_agrees agrees (fun _ => empty) fun _ => ⟨takes, not_holdsFile (Or.inl missing)⟩⟩

/-- A step comes to one of the outcomes, and what holds at any time holds after it. -/
theorem step_outcome (sound : Sound root name base guarded machine) (allowed : guarded.Allows step) :
    Outcome root name base guarded machine step (guarded.step step machine).1
        (guarded.step step machine).2.2 ∧
      Sound root name base (guarded.step step machine).2.1 (guarded.step step machine).2.2 := by
  have dir := sound.dir
  rcases step_cases allowed machine with ⟨idles, same⟩ | ⟨makes, held, holds, made⟩ |
    ⟨removes, busy, held, answer, holds, answers, removed⟩
  · rw [same]
    exact ⟨.idle idles, sound⟩
  · rw [made]
    rw [dir] at holds ⊢
    exact sound.reset_outcome makes holds
  · rw [removed]
    rw [dir] at answers ⊢
    exact sound.remove_outcome removes busy holds answers

end Sound

/-! ## A whole life -/

theorem LifeCycle.sound {start : Machine} (placed : IsPlaced root name base start)
    (nested : start.files.IsNested)
    (lived : LifeCycle (inProject root name) (base ++ [name]) start guarded machine) :
    Sound root name base guarded machine := by
  induction lived with
  | begin => exact ⟨rfl, placed, nested.isEmpty, by simp⟩
  | step step before allowed inductionHypothesis =>
      exact (inductionHypothesis.step_outcome allowed).2
  | change before below nested noNewFile inductionHypothesis =>
      refine ⟨inductionHypothesis.dir, inductionHypothesis.placed.of_agrees below, nested.isEmpty,
        fun isHeld => ?_⟩
      obtain ⟨takes, noFile⟩ := inductionHypothesis.guards isHeld
      exact ⟨takes, fun file => noFile (noNewFile file)⟩

/-- Whatever a scratch directory has been through, making it answers with success only when its path
names a real directory with nothing in it, and removing it only when its path names nothing, so that
removing it again changes nothing. With a file in its place every step is refused that can be, and
changes nothing; else no step is refused, if a file can have the path. No step changes anything
elsewhere. The root of the project is to be reached without passing through the scratch directory. -/
theorem scratch_life_cycle {start : Machine} (placed : IsPlaced root name base start)
    (nested : start.files.IsNested)
    (lived : LifeCycle (inProject root name) (base ++ [name]) start guarded machine)
    (allowed : guarded.Allows step) :
    Outcome root name base guarded machine step (guarded.step step machine).1
      (guarded.step step machine).2.2 :=
  ((lived.sound placed nested).step_outcome allowed).1

/-- A link in the place of the scratch directory is replaced, a block file and a link to a directory
are put into it, and the guard is dropped. -/
theorem scratch_life_cycle_in_place_of_link :
    let machine : Machine := ⟨⟨[(["docs".toList], .directory), (["out".toList], .link "docs".toList),
      (["docs".toList, "a.md".toList], .file [] false)]⟩, [], []⟩
    let scratch := inProject ".".toList "out".toList
    let acquired := (GuardedScratch.mk scratch false).step .acquire machine
    let filled := (acquired.2.2.files.store ["out".toList, "block-1.ts".toList] (.file [] false)).store
      ["out".toList, "docs".toList] (.link "../docs".toList)
    let used := acquired.2.2.withFiles filled
    let left := acquired.2.1.step .drop used
    IsPlaced ".".toList "out".toList [] machine ∧ machine.files.IsNested ∧
      LifeCycle scratch ["out".toList] machine acquired.2.1 used ∧ acquired.2.1.Allows .drop ∧
      Outcome ".".toList "out".toList [] acquired.2.1 used .drop left.1 left.2.2 ∧
      left.2.2.files.find? ["out".toList] = none ∧
      left.2.2.files.find? ["docs".toList, "a.md".toList] = some (.file [] false) := by
  intro machine scratch acquired filled used left
  have placed : IsPlaced ".".toList "out".toList [] machine :=
    ⟨⟨by decide, by decide, by decide, by decide⟩, by decide +kernel⟩
  have nested : machine.files.IsNested := isNested_of_all (by decide +kernel)
  have lived : LifeCycle scratch ["out".toList] machine acquired.2.1 used := by
    refine (LifeCycle.begin.step .acquire (fun _ => rfl)).change ?_ (isNested_of_all ?_) ?_
    · exact (AgreesOutside.store (List.prefix_append _ ["block-1.ts".toList]) _ _).trans
        (.store (List.prefix_append _ ["docs".toList]) _ _)
    · decide +kernel
    · exact fun file => absurd file (not_holdsFile (Or.inr (by decide +kernel)))
  have allowed : acquired.2.1.Allows .drop := fun none => by cases none
  exact ⟨placed, nested, lived, allowed, scratch_life_cycle placed nested lived allowed,
    by decide +kernel, by decide +kernel⟩

/-- A root that is reached through the scratch directory: a directory in it is made again on the way
back to the root, and the scratch directory is not empty. -/
theorem scratch_filled_on_way_to_root :
    let machine : Machine := ⟨⟨[(["x".toList], .directory),
      (["x".toList, "sub".toList], .directory)]⟩, [], []⟩
    let root := "x/sub/../..".toList
    let scratch := inProject root "x".toList
    Path.IsFileName "x".toList ∧ machine.find root = .ok (.present [] .directory) ∧
      machine.files.IsNested ∧
      let made := (GuardedScratch.mk scratch false).step .reset machine
      made.1 = some (.ok ()) ∧
        made.2.2.findSelf scratch.path = .ok (.present ["x".toList] .directory) ∧
        made.2.2.files.find? ["x".toList, "sub".toList] = some .directory := by
  intro machine root scratch
  exact ⟨⟨by decide, by decide, by decide, by decide⟩, by decide +kernel,
    isNested_of_all (by decide +kernel), by decide +kernel⟩

end GuardedScratch

end DocCheck
