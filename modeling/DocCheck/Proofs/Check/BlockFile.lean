import DocCheck.Proofs.Check.Workspace
import DocCheck.Proofs.Machine.Removal

/-!
Block files in a scratch directory with any path. Main statements: while the path of the directory
leads where it led and no link bears the name of a block file, writing a block file changes that file
and nothing else, and what has been written is read back.
-/

namespace DocCheck

namespace ScratchDir

/-- The path of the directory leads to a location, and no link there bears the name of a block
file. -/
structure LeadsTo (scratch : ScratchDir) (location : Location) (machine : Machine) : Prop where
  found : machine.find scratch.path = .ok (.present location .directory)
  unlinked : ∀ (id : UInt64) (target : Text),
    machine.files.find? (location ++ [BlockPath.fileName id.toNat]) ≠ some (.link target)

/-- The path of the directory leads to a location, and not through a link as its last name, and no
link there bears the name of a block file. -/
structure StandsAt (scratch : ScratchDir) (location : Location) (machine : Machine) : Prop where
  found : machine.findSelf scratch.path = .ok (.present location .directory)
  unlinked : ∀ (id : UInt64) (target : Text),
    machine.files.find? (location ++ [BlockPath.fileName id.toNat]) ≠ some (.link target)

/-! ## Paths of block files -/

private theorem blockPath_cases {scratch : ScratchDir} (filled : scratch.path ≠ []) (id : Nat) :
    ∃ lead, scratch.blockPath id = lead ++ '/' :: BlockPath.fileName id ∧
      (scratch.path = lead ∧ Path.endsInSlash lead = false ∨ scratch.path = lead ++ ['/']) := by
  have known : scratch.path.isEmpty = false := by simpa using filled
  have relative : Path.isAbsolute (BlockPath.fileName id) = false := rfl
  rw [blockPath, Path.join, ← BlockPath.fileName, relative, known]
  by_cases slash : Path.endsInSlash scratch.path = true
  · obtain ⟨lead, path⟩ : ∃ lead, scratch.path = lead ++ ['/'] :=
      List.getLast?_eq_some_iff.mp (by simpa [Path.endsInSlash] using slash)
    rw [slash, path]
    exact ⟨lead, by simp, Or.inr rfl⟩
  · exact ⟨scratch.path, by simp [slash], Or.inl ⟨rfl, by simpa using slash⟩⟩

private theorem isAbsolute_blockPath {scratch : ScratchDir} (filled : scratch.path ≠ [])
    (id : Nat) :
    Path.isAbsolute (scratch.blockPath id) = Path.isAbsolute scratch.path := by
  obtain ⟨lead, whole, ⟨rfl, _⟩ | path⟩ := blockPath_cases filled id
  · obtain ⟨first, rest, path⟩ := List.exists_cons_of_ne_nil filled
    rw [whole, path]
    rfl
  · rw [whole, path]
    cases lead with
    | nil => rfl
    | cons first lead => rfl

private theorem notMem_blockPath {scratch : ScratchDir} (filled : scratch.path ≠ [])
    (clean : '\x00' ∉ scratch.path) (id : Nat) : '\x00' ∉ scratch.blockPath id := by
  have name : '\x00' ∉ BlockPath.fileName id :=
    BlockPath.notMem_fileName (by decide) (by decide) (by decide) id
  obtain ⟨lead, whole, ⟨rfl, _⟩ | path⟩ := blockPath_cases filled id
  · rw [whole]
    simp [clean, name]
  · rw [path] at clean
    rw [whole]
    simp_all

private theorem endsInSlash_blockPath {scratch : ScratchDir} (filled : scratch.path ≠ [])
    (id : Nat) :
    Path.endsInSlash (scratch.blockPath id) = false := by
  obtain ⟨lead, whole, _⟩ := blockPath_cases filled id
  have ends : lead ++ '/' :: BlockPath.fileName id =
      (lead ++ '/' :: (BlockPath.fileLead ++ Text.decimal id ++ ".t".toList)) ++ ['s'] := by
    simp [BlockPath.fileName, BlockPath.fileEnding]
  rw [whole, ends, Path.endsInSlash, List.getLast?_concat]
  rfl

/-- The path of a block file is walked by the names of the directory and then its own, whether or not
the path of the directory ends in a slash. -/
private theorem steps_blockPath {scratch : ScratchDir} (filled : scratch.path ≠ []) (id : Nat) :
    ∃ names tail, (tail = [] ∨ tail = [['.']]) ∧ FileTree.steps scratch.path = names ++ tail ∧
      FileTree.steps (scratch.blockPath id) = names ++ [BlockPath.fileName id] := by
  have slash : '/' ∉ BlockPath.fileName id :=
    BlockPath.notMem_fileName (by decide) (by decide) (by decide) id
  have named : BlockPath.fileName id ≠ [] := List.cons_ne_nil _ _
  obtain ⟨lead, whole, ⟨path, goesOn⟩ | path⟩ := blockPath_cases filled id
  · refine ⟨FileTree.steps lead, [], Or.inl rfl, by rw [path, List.append_nil], ?_⟩
    rw [whole, FileTree.steps_append_of_endsInSlash goesOn named slash]
  · refine ⟨_, [['.']], Or.inr rfl, ?_, whole ▸ FileTree.steps_append lead named slash⟩
    have ends : Path.endsInSlash (lead ++ ['/']) = true := by
      rw [Path.endsInSlash, List.getLast?_concat]
      rfl
    rw [path, FileTree.steps, ends, if_pos rfl]
    exact congrArg (· ++ [['.']]) (FileTree.filter_splitAt_append_slashes lead 1)

/-! ## Writing and reading -/

/-- What is stored in place of a file or of nothing is in no one's way. -/
private theorem kept_store {files : FileTree} (location : Location) (id : UInt64) (content : Bytes)
    (executable : Bool)
    (free : ∀ entry, files.find? (location ++ [BlockPath.fileName id.toNat]) = some entry →
      ∃ content executable, entry = .file content executable) :
    ∀ place entry, files.find? place = some entry →
      (∀ content executable, entry ≠ .file content executable) →
        (files.store (location ++ [BlockPath.fileName id.toNat])
          (.file content executable)).find? place = some entry := by
  intro place entry present noFile
  have different : place ≠ location ++ [BlockPath.fileName id.toNat] := by
    rintro rfl
    obtain ⟨old, runs, rfl⟩ := free entry present
    exact noFile old runs rfl
  rwa [FileTree.find?_store_of_ne _ _ different]

namespace LeadsTo

variable {scratch : ScratchDir} {location : Location} {machine : Machine}
  (leads : scratch.LeadsTo location machine)

include leads

private theorem path_ne_nil : scratch.path ≠ [] :=
  Machine.ne_nil_of_resolve leads.found

private theorem exists_reaches : ∃ left, FileTree.Reaches machine.files FileTree.linkLimit
    (if Path.isAbsolute scratch.path then [] else machine.here)
    (FileTree.steps scratch.path ++ [['.']]) location left :=
  (Machine.finds_of_resolve leads.found).exists_reaches rfl

/-- The path of a block file leads to the place of that name in the directory. -/
private theorem find_blockPath (id : UInt64)
    (short : Text.byteLength (scratch.blockPath id.toNat) < FileTree.pathLimit) :
    machine.find (scratch.blockPath id.toNat) =
      match machine.files.find? (location ++ [BlockPath.fileName id.toNat]) with
      | none => .ok (.absent location (BlockPath.fileName id.toNat))
      | some entry => .ok (.present (location ++ [BlockPath.fileName id.toNat]) entry) := by
  have filled := leads.path_ne_nil
  obtain ⟨clean, _, _⟩ := FileTree.walk_of_resolve leads.found
  obtain ⟨left, reached⟩ := leads.exists_reaches
  obtain ⟨names, tail, isTail, path, block⟩ := steps_blockPath filled id.toNat
  have nonempty : scratch.blockPath id.toNat ≠ [] := by
    obtain ⟨lead, whole, _⟩ := blockPath_cases filled id.toNat
    rw [whole]
    simp
  have walkedOn :
      machine.files.walk true FileTree.linkLimit
          (if Path.isAbsolute scratch.path then [] else machine.here)
          (names ++ [BlockPath.fileName id.toNat]) =
        machine.files.walk true left location [BlockPath.fileName id.toNat] := by
    rw [path, List.append_assoc] at reached
    refine reached.walk_append_of_stays (by simp) ?_ fun _ => rfl
    rcases isTail with rfl | rfl <;> simp
  have shortName : Text.byteLength (BlockPath.fileName id.toNat) ≤ FileTree.nameLimit :=
    Nat.le_trans (BlockPath.byteLength_fileName id) (by decide)
  have noStay : BlockPath.fileName id.toNat ≠ ['.'] := by
    rw [BlockPath.fileName_eq_cons]
    simp
  have noParent : BlockPath.fileName id.toNat ≠ ['.', '.'] := by
    rw [BlockPath.fileName_eq_cons]
    simp
  rw [Machine.find, FileTree.resolve_eq_walk (notMem_blockPath filled clean _) nonempty short,
    isAbsolute_blockPath filled, block, walkedOn, FileTree.walk_cons shortName noStay noParent]
  cases present : machine.files.find? (location ++ [BlockPath.fileName id.toNat]) with
  | none => rfl
  | some entry =>
      cases entry with
      | file content executable => rfl
      | directory => rw [FileTree.walk_nil]
      | link target => exact absurd present (leads.unlinked id target)

theorem readFile_blockPath {id : UInt64} {content : Bytes} {executable : Bool}
    (short : Text.byteLength (scratch.blockPath id.toNat) < FileTree.pathLimit)
    (present : machine.files.find? (location ++ [BlockPath.fileName id.toNat]) =
      some (.file content executable)) :
    machine.readFile (scratch.blockPath id.toNat) = .ok content := by
  rw [Machine.readFile, leads.find_blockPath id short, present]

/-- A block file cannot be written and nothing changes, or it alone is stored, in place of a file or of
nothing. -/
theorem writeFile_blockPath_cases (id : UInt64) (content : Bytes) :
    (∃ error, Machine.writeFile (scratch.blockPath id.toNat) content machine =
      (.error error, machine)) ∨
    ∃ executable,
      Text.byteLength (scratch.blockPath id.toNat) < FileTree.pathLimit ∧
      Machine.writeFile (scratch.blockPath id.toNat) content machine =
        (.ok (), machine.withFiles
          (machine.files.store (location ++ [BlockPath.fileName id.toNat])
            (.file content executable))) ∧
      ∀ entry, machine.files.find? (location ++ [BlockPath.fileName id.toNat]) = some entry →
        ∃ content executable, entry = .file content executable := by
  rw [Machine.writeFile, endsInSlash_blockPath leads.path_ne_nil]
  by_cases short : Text.byteLength (scratch.blockPath id.toNat) < FileTree.pathLimit
  · rw [leads.find_blockPath id short]
    cases present : machine.files.find? (location ++ [BlockPath.fileName id.toNat]) with
    | none => exact Or.inr ⟨false, short, rfl, by simp⟩
    | some entry =>
        cases entry with
        | file old executable =>
            refine Or.inr ⟨executable, short, rfl, ?_⟩
            intro entry same
            cases same
            exact ⟨old, executable, rfl⟩
        | directory => exact Or.inl ⟨_, rfl⟩
        | link target => exact absurd present (leads.unlinked id target)
  · left
    cases found : machine.find (scratch.blockPath id.toNat) with
    | error error => exact ⟨error, rfl⟩
    | ok found' => exact absurd (FileTree.walk_of_resolve found).2.1 short

/-- Where the path leads to a directory, it still does after a block file has been stored in place of a
file or of nothing. -/
theorem store {id : UInt64} (content : Bytes) (executable : Bool)
    (free : ∀ entry, machine.files.find? (location ++ [BlockPath.fileName id.toNat]) = some entry →
      ∃ content executable, entry = .file content executable) :
    scratch.LeadsTo location (machine.withFiles
      (machine.files.store (location ++ [BlockPath.fileName id.toNat])
        (.file content executable))) where
  found := by
    obtain ⟨clean, short, _⟩ := FileTree.walk_of_resolve leads.found
    obtain ⟨left, reached⟩ := leads.exists_reaches
    have still := reached.of_kept (kept_store location id content executable free)
    rw [Machine.find, FileTree.resolve_eq_walk clean leads.path_ne_nil short,
      ← List.append_nil (FileTree.steps scratch.path)]
    exact (still.walk_append_of_stays (by simp) (by simp) fun _ => rfl).trans
      (FileTree.walk_nil _ _ _ _)
  unlinked := by
    intro other target stored
    have inside : location ++ [BlockPath.fileName id.toNat] ≠ [] := by simp
    by_cases same : location ++ [BlockPath.fileName other.toNat] =
        location ++ [BlockPath.fileName id.toNat]
    · rw [same, Machine.withFiles, FileTree.find?_store_self _ _ inside] at stored
      cases stored
    · rw [Machine.withFiles, FileTree.find?_store_of_ne _ _ same] at stored
      exact leads.unlinked other target stored

end LeadsTo

namespace StandsAt

variable {scratch : ScratchDir} {location : Location} {machine : Machine}
  (stands : scratch.StandsAt location machine)

include stands

theorem leadsTo : scratch.LeadsTo location machine where
  found := by
    obtain ⟨clean, short, walked⟩ := FileTree.walk_of_resolve stands.found
    obtain ⟨left, reached⟩ := FileTree.exists_reaches_of_walk FileTree.linkLimit walked
    rw [Machine.find, FileTree.resolve_eq_walk clean (Machine.ne_nil_of_resolve stands.found) short]
    exact reached.walk_eq true
  unlinked := stands.unlinked

theorem store {id : UInt64} (content : Bytes) (executable : Bool)
    (free : ∀ entry, machine.files.find? (location ++ [BlockPath.fileName id.toNat]) = some entry →
      ∃ content executable, entry = .file content executable) :
    scratch.StandsAt location (machine.withFiles
      (machine.files.store (location ++ [BlockPath.fileName id.toNat])
        (.file content executable))) where
  found := by
    obtain ⟨clean, short, walked⟩ := FileTree.walk_of_resolve stands.found
    obtain ⟨left, reached⟩ := FileTree.exists_reaches_of_walk FileTree.linkLimit walked
    rw [Machine.findSelf, FileTree.resolve_eq_walk clean stands.leadsTo.path_ne_nil short]
    exact (reached.of_kept (kept_store location id content executable free)).walk_eq false
  unlinked := (stands.leadsTo.store content executable free).unlinked

end StandsAt

end ScratchDir

end DocCheck
