import DocCheck.Compiler.TypeScript
import DocCheck.Proofs.Check.Workspace

/-!
The files of a block: the file that its source is written to, and the settings that the compiler of
the project writes beside it. Main statement: the files of blocks with different numbers have
different names, and so have the two files of one block.
-/

namespace DocCheck

/-! ## Block files and their settings -/

theorem Text.decimal_inj {number other : Nat}
    (same : Text.decimal number = Text.decimal other) : number = other := by
  have digits := congrArg (fun text => Nat.ofDigitChars 10 text 0) same
  simpa [Text.decimal] using digits

namespace TypeScript

/-- The name of the settings for the block with a number. -/
def settingsName (id : Nat) : Text :=
  "tsconfig-".toList ++ Text.decimal id ++ ".json".toList

private theorem isFileName_settingsName (id : Nat) : Path.IsFileName (settingsName id) where
  filled := List.cons_ne_nil _ _
  whole := by
    intro member
    rcases List.mem_append.mp member with front | back
    · rcases List.mem_append.mp front with lead | digits
      · exact absurd lead (by decide)
      · exact absurd (BlockPath.isDigit_of_mem_decimal digits) (by decide)
    · exact absurd back (by decide)
  noStay := fun same => absurd (List.cons.inj same).1 (by decide)
  noParent := fun same => absurd (List.cons.inj same).1 (by decide)

end TypeScript

namespace BlockPath

private theorem isFileName_fileName (id : Nat) : Path.IsFileName (fileName id) where
  filled := List.cons_ne_nil _ _
  whole := notMem_fileName (by decide) (by decide) (by decide) id
  noStay := fun same => absurd (List.cons.inj same).1 (by decide)
  noParent := fun same => absurd (List.cons.inj same).1 (by decide)

theorem fileName_inj {id other : Nat} (same : fileName id = fileName other) : id = other := by
  rw [fileName, fileName, List.append_assoc, List.append_assoc] at same
  exact Text.decimal_inj (List.append_cancel_right (List.append_cancel_left same))

private theorem settingsName_inj {id other : Nat}
    (same : TypeScript.settingsName id = TypeScript.settingsName other) : id = other := by
  unfold TypeScript.settingsName at same
  have front := List.append_cancel_right same
  exact Text.decimal_inj (List.append_cancel_left front)

private theorem fileName_ne_settingsName (id other : Nat) :
    fileName id ≠ TypeScript.settingsName other :=
  fun same => absurd (List.cons.inj same).1 (by decide)

private theorem stem_fileName (id : Nat) :
    Path.stem (fileName id) = fileLead ++ Text.decimal id := by
  have noDot : '.' ∉ (['s', 't'] : Text) := by decide
  have reversed : (fileName id).reverse.dropWhile (· != '.') =
      '.' :: (fileLead ++ Text.decimal id).reverse := by
    rw [fileName, List.reverse_append]
    rfl
  have filled : (fileLead ++ Text.decimal id).reverse ≠ [] := by
    simp [fileLead]
  rw [Path.stem, reversed]
  split
  · next none => cases none
  · next only => exact absurd (List.cons.inj only).2 filled
  · next before whole => rw [← (List.cons.inj whole).2, List.reverse_reverse]

/-- What tells the files of a block from those of others is its number. -/
private theorem blockToken_eq {id : Nat} {path : Text}
    (named : Path.fileName? path = some (fileName id)) :
    TypeScript.blockToken path = Text.decimal id := by
  have lead : List.isPrefixOf? fileLead (fileLead ++ Text.decimal id) =
      some (Text.decimal id) := rfl
  rw [TypeScript.blockToken, named, Option.getD_some, stem_fileName, lead, Option.getD_some]

end BlockPath

namespace ScratchDir

variable (scratch : ScratchDir)

/-- The files that are written for the block with a number: its source, and its settings for the
compiler of the project, which is started in a directory. -/
def filesOf (here : Text) (id : Nat) : List Text :=
  scratch.blockPath id ::
    ((Path.absolute? here (scratch.blockPath id)).map TypeScript.settingsPath).toList

private theorem fileName?_blockPath (id : Nat) :
    Path.fileName? (scratch.blockPath id) = some (BlockPath.fileName id) :=
  Path.fileName?_join _ (BlockPath.isFileName_fileName id)

private theorem fileName?_settingsPath {here path : Text} {id : Nat}
    (absolute : Path.absolute? here (scratch.blockPath id) = some path) :
    Path.fileName? (TypeScript.settingsPath path) = some (TypeScript.settingsName id) := by
  have named := Path.fileName?_absolute? (BlockPath.isFileName_fileName id) absolute
  rw [TypeScript.settingsPath, BlockPath.blockToken_eq named]
  exact Path.fileName?_withFileName path (TypeScript.isFileName_settingsName id)

theorem absolute?_of_absolute {machine : Machine} {path file : Text}
    (absolute : TypeScript.absolute machine path = .ok file) :
    Path.absolute? (Machine.pathOf machine.here) path = some file := by
  rw [TypeScript.absolute] at absolute
  split at absolute
  · next known =>
      cases absolute
      exact known
  · cases absolute

theorem settingsPath_mem_filesOf {here path : Text} {id : Nat}
    (absolute : Path.absolute? here (scratch.blockPath id) = some path) :
    TypeScript.settingsPath path ∈ scratch.filesOf here id := by
  rw [filesOf, absolute]
  exact List.mem_cons_of_mem _ List.mem_cons_self

private theorem fileName?_of_mem_filesOf {here file : Text} {id : Nat}
    (member : file ∈ scratch.filesOf here id) :
    Path.fileName? file = some (BlockPath.fileName id) ∨
      Path.fileName? file = some (TypeScript.settingsName id) := by
  rcases List.mem_cons.mp member with rfl | settings
  · exact Or.inl (scratch.fileName?_blockPath id)
  · obtain ⟨path, absolute, rfl⟩ := Option.map_eq_some_iff.mp (Option.mem_toList.mp settings)
    exact Or.inr (scratch.fileName?_settingsPath absolute)

/-- Blocks with different numbers have no file in common, not even by name. -/
theorem fileName?_ne_of_ne {id other : Nat} (different : id ≠ other) {here here' file file' : Text}
    (member : file ∈ scratch.filesOf here id) (member' : file' ∈ scratch.filesOf here' other) :
    Path.fileName? file ≠ Path.fileName? file' := by
  intro same
  rcases scratch.fileName?_of_mem_filesOf member with name | name
  · rcases scratch.fileName?_of_mem_filesOf member' with name' | name'
    · rw [name, name'] at same
      exact different (BlockPath.fileName_inj (Option.some.inj same))
    · rw [name, name'] at same
      exact BlockPath.fileName_ne_settingsName _ _ (Option.some.inj same)
  · rcases scratch.fileName?_of_mem_filesOf member' with name' | name'
    · rw [name, name'] at same
      exact BlockPath.fileName_ne_settingsName _ _ (Option.some.inj same).symm
    · rw [name, name'] at same
      exact different (BlockPath.settingsName_inj (Option.some.inj same))

theorem fileName?_settingsPath_ne {here path : Text} {id : Nat}
    (absolute : Path.absolute? here (scratch.blockPath id) = some path) :
    Path.fileName? (scratch.blockPath id) ≠ Path.fileName? (TypeScript.settingsPath path) := by
  rw [scratch.fileName?_blockPath, scratch.fileName?_settingsPath absolute]
  exact fun same => BlockPath.fileName_ne_settingsName _ _ (Option.some.inj same)

end ScratchDir

end DocCheck
