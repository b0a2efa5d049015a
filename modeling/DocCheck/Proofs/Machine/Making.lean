import DocCheck.Proofs.Machine.Part

/-!
What is added where directories are made, and what is left where one is removed. Main statements:
making a directory with those above it adds that directory and the ones above it that were missing,
and nothing else; removing a tree adds nothing.
-/

namespace DocCheck

namespace FileTree

/-- A tree between two others holds what both of these hold. -/
theorem IsPart.find?_eq {part tree other : FileTree} (lower : part.IsPart other)
    (upper : other.IsPart tree) {place : Location} (same : part.find? place = tree.find? place) :
    other.find? place = tree.find? place := by
  cases present : tree.find? place with
  | none =>
      rw [Option.eq_none_iff_forall_not_mem]
      intro entry appeared
      have before := upper place entry appeared
      rw [present] at before
      cases before
  | some entry => exact lower place entry (same.trans present)

/-- Two trees hold the same but for a location and what is below it. -/
def AgreesOutside (location : Location) (tree other : FileTree) : Prop :=
  ∀ place, ¬ location <+: place → other.find? place = tree.find? place

namespace AgreesOutside

variable {location : Location} {tree middle other : FileTree}

theorem refl (location : Location) (tree : FileTree) : AgreesOutside location tree tree :=
  fun _ _ => rfl

theorem trans (first : AgreesOutside location tree middle)
    (second : AgreesOutside location middle other) : AgreesOutside location tree other :=
  fun place outside => (second place outside).trans (first place outside)

theorem store {place : Location} (below : location <+: place) (entry : Entry)
    (tree : FileTree) : AgreesOutside location tree (tree.store place entry) := by
  intro other outside
  have different : other ≠ place := by
    rintro rfl
    exact outside below
  exact find?_store_of_ne entry tree different

/-- What has lost no more than a location holds, and gained nothing, is the same elsewhere. -/
theorem of_isPart (lower : (tree.remove location).IsPart other) (upper : other.IsPart tree) :
    AgreesOutside location tree other := by
  intro place outside
  refine lower.find?_eq upper ?_
  by_cases root : place = []
  · rw [root]
    rfl
  · rw [find?_remove tree root, if_neg fun below => outside (List.isPrefixOf_iff_prefix.mp below)]

end AgreesOutside

end FileTree

namespace Machine

open FileTree

/-! ## Removals -/

/-- A removal adds nothing. -/
theorem removeTree_isPart (path : Text) (machine : Machine) :
    (removeTree path machine).2.files.IsPart machine.files := by
  unfold removeTree
  cases machine.findSelf path with
  | error error => exact .refl _
  | ok found =>
      cases found with
      | absent directory name => exact .refl _
      | present location entry =>
          cases entry with
          | file content executable => exact .refl _
          | link target => exact isPart_remove location _
          | directory =>
              have cleared := isPart_clear location machine.files
              dsimp only
              rcases removeDirectory_cases path
                  (machine.withFiles (machine.files.clear location)) with
                ⟨error, removed, _⟩ | ⟨plain, _, removed, _⟩
              · rw [removed]
                split
                · next equality =>
                    cases equality
                    exact cleared
                · exact cleared
              · rw [removed]
                exact (isPart_remove plain _).trans cleared

/-! ## Directories that are made -/

/-- A path that is not empty leads to no directory. -/
def Lacks (machine : Machine) (path : Text) : Prop :=
  path ≠ [] ∧ machine.isDirectory path = false

/-- `machine.LacksAbove ancestor path` means that the ancestor stands above the path, and that
neither it nor a path between the two leads to a directory. -/
inductive LacksAbove (machine : Machine) : Text → Text → Prop
  | parent {parent path : Text} :
      Path.parent? path = some parent → machine.Lacks parent → LacksAbove machine parent path
  | above {ancestor parent path : Text} :
      Path.parent? path = some parent → machine.Lacks parent → LacksAbove machine ancestor parent →
      LacksAbove machine ancestor path

/-- `machine.Gains path place made` means that a path, its last slashes apart, names a directory on
the second machine, at a place that holds nothing on the first. -/
structure Gains (machine : Machine) (path : Text) (place : Location) (made : Machine) : Prop where
  missing : machine.files.find? place = none
  present : made.files.find? place = some .directory
  named : made.findSelf (withoutEndSlashes path) = .ok (.present place .directory)

namespace Gains

variable {machine middle made : Machine} {path : Text} {place : Location}

private theorem of_isPart (gains : middle.Gains path place made)
    (isPart : machine.files.IsPart middle.files) : machine.Gains path place made where
  missing := by
    rw [Option.eq_none_iff_forall_not_mem]
    intro entry stood
    have still := isPart place entry stood
    rw [gains.missing] at still
    cases still
  present := gains.present
  named := gains.named

private theorem to_isPart (gains : machine.Gains path place middle)
    (isPart : middle.files.IsPart made.files) (here : made.here = middle.here) :
    machine.Gains path place made where
  missing := gains.missing
  present := isPart place _ gains.present
  named := by
    have named := gains.named
    rw [findSelf] at named ⊢
    rw [here]
    exact isPart.resolve_eq named

end Gains

/-- Making a directory adds it, or it adds nothing. -/
theorem makeDirectory_adds (path : Text) (machine : Machine) (place : Location) :
    (makeDirectory path machine).2.files.find? place = machine.files.find? place ∨
      (makeDirectory path machine).1 = .ok () ∧
        machine.Gains path place (makeDirectory path machine).2 := by
  rcases makeDirectory_cases path machine with ⟨failure, same⟩ | ⟨other, missing, made, named⟩
  · rw [same]
    exact Or.inl rfl
  · rw [made]
    by_cases isPlace : place = other
    · subst isPlace
      have inside : place ≠ [] := by
        rintro rfl
        cases missing
      exact Or.inr ⟨rfl, missing, find?_store_self _ _ inside, named⟩
    · exact Or.inl (find?_store_of_ne _ _ isPlace)

/-- Nothing is made where the path is empty or leads to a directory. -/
private theorem makeDirectoriesWithin_of_not_lacks {machine : Machine} {path : Text}
    (there : ¬ machine.Lacks path) (fuel : Nat) :
    (makeDirectoriesWithin fuel path machine).2 = machine := by
  cases fuel with
  | zero => rfl
  | succ fuel =>
      unfold makeDirectoriesWithin
      split
      · rfl
      next filled =>
        have isDirectory : machine.isDirectory path = true := by
          rw [Lacks, not_and, Bool.not_eq_false] at there
          exact there fun empty => filled (by rw [empty]; rfl)
        have found : ∃ place entry,
            machine.findSelf (withoutEndSlashes path) = .ok (.present place entry) := by
          rw [Machine.isDirectory, entry?] at isDirectory
          split at isDirectory
          · next found => exact exists_findSelf_withoutEndSlashes found
          · cases isDirectory
        obtain ⟨place, entry, found⟩ := found
        rw [makeDirectory, found]
        dsimp only
        rw [if_pos (by decide), if_pos isDirectory]

/-- Making a directory with those above it adds it and the ones above it that were missing. -/
theorem makeDirectoriesWithin_adds (fuel : Nat) (path : Text) (machine : Machine)
    (place : Location) :
    (makeDirectoriesWithin fuel path machine).2.files.find? place = machine.files.find? place ∨
      ((makeDirectoriesWithin fuel path machine).1 = .ok () ∧
        machine.Gains path place (makeDirectoriesWithin fuel path machine).2) ∨
      ∃ ancestor, machine.LacksAbove ancestor path ∧
        machine.Gains ancestor place (makeDirectoriesWithin fuel path machine).2 := by
  induction fuel generalizing path machine with
  | zero => exact Or.inl rfl
  | succ fuel inductionHypothesis =>
      rcases makeDirectoriesWithin_cases fuel path machine with
        ⟨result, succeeds⟩ | ⟨parent, ready, isParent, rfl, result⟩
      · rw [result]
        rcases makeDirectory_adds path machine place with same | ⟨made, gains⟩
        · exact Or.inl same
        · exact Or.inr (Or.inl ⟨succeeds made, gains⟩)
      · -- What is added above the path is added under the name of an ancestor.
        have parents :
            (makeDirectoriesWithin fuel parent machine).2.files.find? place =
                machine.files.find? place ∨
              ∃ ancestor, machine.LacksAbove ancestor path ∧
                machine.Gains ancestor place (makeDirectoriesWithin fuel parent machine).2 := by
          by_cases lacks : machine.Lacks parent
          · rcases inductionHypothesis parent machine with same | ⟨_, gains⟩ |
              ⟨ancestor, above, gains⟩
            · exact Or.inl same
            · exact Or.inr ⟨parent, .parent isParent lacks, gains⟩
            · exact Or.inr ⟨ancestor, .above isParent lacks above, gains⟩
          · rw [makeDirectoriesWithin_of_not_lacks lacks]
            exact Or.inl rfl
        have isPart := (isPart_makeDirectoriesWithin fuel parent machine).1
        generalize (makeDirectoriesWithin fuel parent machine).2 = ready at result parents isPart
        rcases result with result | ⟨result, succeeds⟩
        · rw [result]
          exact parents.imp_right Or.inr
        · have again := isPart_makeDirectory path ready
          rw [result]
          rcases makeDirectory_adds path ready place with same | ⟨made, gains⟩
          · rcases parents with before | ⟨ancestor, above, gains⟩
            · exact Or.inl (same.trans before)
            · exact Or.inr (Or.inr ⟨ancestor, above, gains.to_isPart again.1 again.2⟩)
          · exact Or.inr (Or.inl ⟨succeeds made, gains.of_isPart isPart⟩)

end Machine

end DocCheck
