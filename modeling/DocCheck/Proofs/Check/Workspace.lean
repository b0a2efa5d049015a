import DocCheck.Check.Scratch
import DocCheck.Proofs.Diagnostic.BlockPath
import DocCheck.Proofs.Machine.Walk
import DocCheck.Proofs.Path

/-!
The scratch directory while blocks are compiled. It is a workspace as long as the file of every
block can be written. Main statements: writing the file of a block succeeds and leaves a workspace,
and at the end a workspace can be removed.
-/

namespace DocCheck

/-! ## The names of block files -/

namespace BlockPath

theorem notMem_fileName {c : Char} (noDigit : c.isDigit = false) (noLead : c ∉ fileLead)
    (noEnding : c ∉ fileEnding) (id : Nat) : c ∉ fileName id := by
  intro member
  rcases List.mem_append.mp member with front | back
  · rcases List.mem_append.mp front with lead | digits
    · exact noLead lead
    · have isDigit := isDigit_of_mem_decimal digits
      rw [noDigit] at isDigit
      cases isDigit
  · exact noEnding back

theorem fileName_eq_cons (id : Nat) :
    fileName id = 'b' :: ("lock-".toList ++ Text.decimal id ++ fileEnding) :=
  rfl

/-- A number that is counted by blocks has at most twenty digits. -/
theorem byteLength_fileName (id : UInt64) : Text.byteLength (fileName id.toNat) ≤ 29 := by
  have digits : (Text.decimal id.toNat).length ≤ 20 := by
    rw [Text.decimal, Nat.length_toDigits_le_iff (by decide) (by decide)]
    have bound := id.toNat_lt
    omega
  have ascii : ∀ c ∈ Text.decimal id.toNat, c.toNat < 128 := fun c member =>
    toNat_lt_of_isNameChar (isNameChar_of_isDigit (isDigit_of_mem_decimal member))
  have lead : Text.byteLength fileLead = 6 := by decide
  have ending : Text.byteLength fileEnding = 3 := by decide
  rw [fileName, Text.byteLength_append, Text.byteLength_append, Text.byteLength_eq_length ascii,
    lead, ending]
  omega

end BlockPath

namespace ScratchDir

/-! ## The path of the directory -/

/-- The directory has the name of a file and is named in some other one. -/
structure Normal (scratch : ScratchDir) : Prop where
  named : Path.IsFileName scratch.name
  placed : ∃ root, scratch.path = Path.join root scratch.name

theorem normal_inProject (root : Text) {name : Text} (named : Path.IsFileName name) :
    (inProject root name).Normal where
  named := named
  placed := ⟨root, rfl⟩

/-- The directory has a name of letters, digits, hyphens and underscores and lies in a directory
that is named too. -/
structure Proper (scratch : ScratchDir) : Prop where
  named : scratch.name ≠ []
  plain : ∀ c ∈ scratch.name, BlockPath.isNameChar c = true
  placed : ∃ lead, scratch.path = lead ++ '/' :: scratch.name

theorem isFileName_of_isNameChar {name : Text} (named : name ≠ [])
    (plain : ∀ c ∈ name, BlockPath.isNameChar c = true) : Path.IsFileName name where
  filled := named
  whole := BlockPath.notMem_name plain (by decide)
  noStay := fun dots => BlockPath.notMem_name (c := '.') plain (by decide) (by simp [dots])
  noParent := fun dots => BlockPath.notMem_name (c := '.') plain (by decide) (by simp [dots])

theorem proper_inProject {root name : Text} (rooted : root ≠ []) (named : name ≠ [])
    (plain : ∀ c ∈ name, BlockPath.isNameChar c = true) : (inProject root name).Proper where
  named := named
  plain := plain
  placed := by
    rcases (isFileName_of_isNameChar named plain).join_cases root with ⟨empty, _⟩ | ⟨lead, _, path⟩
    · exact absurd empty rooted
    · exact ⟨lead, path⟩

theorem Proper.normal {scratch : ScratchDir} (proper : scratch.Proper) : scratch.Normal where
  named := isFileName_of_isNameChar proper.named proper.plain
  placed := by
    obtain ⟨lead, placed⟩ := proper.placed
    have relative := (isFileName_of_isNameChar proper.named proper.plain).isAbsolute_eq_false
    have slash : Path.endsInSlash (lead ++ ['/']) = true := by
      rw [Path.endsInSlash, List.getLast?_concat]
      rfl
    refine ⟨lead ++ ['/'], ?_⟩
    rw [placed, Path.join, relative, slash]
    simp

namespace Normal

variable {scratch : ScratchDir} (normal : scratch.Normal)

include normal

private theorem endsInSlash_path : Path.endsInSlash scratch.path = false := by
  obtain ⟨root, placed⟩ := normal.placed
  rw [placed]
  exact normal.named.endsInSlash_join root

theorem path_ne_nil : scratch.path ≠ [] := by
  obtain ⟨root, placed⟩ := normal.placed
  rw [placed]
  rcases normal.named.join_cases root with ⟨_, alone⟩ | ⟨lead, _, behind⟩
  · rw [alone]
    exact normal.named.filled
  · rw [behind]
    simp

theorem blockPath_eq (id : Nat) :
    scratch.blockPath id = scratch.path ++ '/' :: BlockPath.fileName id := by
  have filled : scratch.path.isEmpty = false := by simpa using normal.path_ne_nil
  have relative : Path.isAbsolute (BlockPath.fileName id) = false := rfl
  rw [blockPath, Path.join, ← BlockPath.fileName, relative, filled, normal.endsInSlash_path]
  rfl

private theorem endsInSlash_blockPath (id : Nat) :
    Path.endsInSlash (scratch.blockPath id) = false := by
  have ends : scratch.path ++ '/' :: BlockPath.fileName id =
      (scratch.path ++ '/' :: (BlockPath.fileLead ++ Text.decimal id ++ ".t".toList)) ++ ['s'] := by
    simp [BlockPath.fileName, BlockPath.fileEnding]
  rw [normal.blockPath_eq, ends, Path.endsInSlash, List.getLast?_concat]
  rfl

theorem withoutEndSlashes_path : Machine.withoutEndSlashes scratch.path = scratch.path := by
  have kept : scratch.path.rdropWhile (· == '/') = scratch.path := by
    refine List.rdropWhile_eq_self_iff.mpr fun filled => ?_
    have goesOn := normal.endsInSlash_path
    rw [Path.endsInSlash, List.getLast?_eq_some_getLast filled] at goesOn
    simpa using goesOn
  rw [Machine.withoutEndSlashes, Text.dropEndWhile_eq_rdropWhile, kept]
  split
  · rfl
  · rfl

theorem exists_steps_path : ∃ init, FileTree.steps scratch.path = init ++ [scratch.name] := by
  obtain ⟨root, placed⟩ := normal.placed
  obtain ⟨init, parts⟩ := normal.named.exists_splitAt_join root
  have kept : ([scratch.name].filter fun part => !part.isEmpty) = [scratch.name] := by
    simp [normal.named.filled]
  refine ⟨init.filter fun part => !part.isEmpty, ?_⟩
  rw [placed, FileTree.steps, normal.named.endsInSlash_join root, parts, List.filter_append, kept]
  rfl

/-- Once it is emptied, the directory is removed, unless its path led through what was in it. -/
private theorem removeDirectory_clear {machine : Machine} {location : Location}
    (found : machine.findSelf scratch.path = .ok (.present location .directory)) :
    (Machine.removeDirectory scratch.path
      (machine.withFiles (machine.files.clear location))).1 = .ok () ∨
    (Machine.removeDirectory scratch.path
      (machine.withFiles (machine.files.clear location))).1 = .error .notFound := by
  obtain ⟨clean, short, walked⟩ := FileTree.walk_of_resolve found
  obtain ⟨left, reached⟩ := FileTree.exists_reaches_of_walk FileTree.linkLimit walked
  obtain ⟨init, names⟩ := normal.exists_steps_path
  have gone := machine.files.find?_clear_cases location
  have resolved : Machine.findSelf (machine.withFiles (machine.files.clear location)) scratch.path =
      (machine.files.clear location).walk false FileTree.linkLimit
        (if Path.isAbsolute scratch.path then [] else machine.here)
        (FileTree.steps scratch.path) :=
    FileTree.resolve_eq_walk clean normal.path_ne_nil short _ _ _
  rw [Machine.removeDirectory]
  simp only [normal.withoutEndSlashes_path, resolved]
  rcases reached.walk_of_gone gone with still | missing
  · have inside : location ≠ [] := by
      rw [names] at reached
      obtain ⟨above, rfl⟩ := reached.exists_parent normal.named.noStay normal.named.noParent
      simp
    have empty := FileTree.hasChildren_clear machine.files location
    rw [still, names, List.getLast?_concat]
    left
    dsimp only
    split
    · next dot => exact absurd (Option.some.inj dot) normal.named.noStay
    · next dots => exact absurd (Option.some.inj dots) normal.named.noParent
    · simp [inside, Machine.withFiles, empty]
  · rw [missing]
    exact Or.inr rfl

end Normal

end ScratchDir

/-! ## Workspaces -/

/-- What stands at a location under the name of a block file is a file. -/
def TakesBlocks (files : FileTree) (location : Location) : Prop :=
  ∀ (id : UInt64) (entry : Entry),
    files.find? (location ++ [BlockPath.fileName id.toNat]) = some entry →
      ∃ content executable, entry = .file content executable

/-- The scratch directory is there, reached without following a link as its last name, and every
block file in it either is a file already or can be made. -/
structure Workspace (scratch : ScratchDir) (machine : Machine) : Prop where
  short : ∀ id : UInt64, Text.byteLength (scratch.blockPath id.toNat) < FileTree.pathLimit
  ready : ∃ location, machine.findSelf scratch.path = .ok (.present location .directory) ∧
    TakesBlocks machine.files location

namespace Workspace

variable {scratch : ScratchDir} {machine : Machine}

/-- An empty directory is a workspace if its path leaves room for the names of block files. -/
theorem of_empty (normal : scratch.Normal) {location : Location}
    (found : machine.findSelf scratch.path = .ok (.present location .directory))
    (empty : machine.files.hasChildren location = false)
    (room : Text.byteLength scratch.path + 30 < FileTree.pathLimit) :
    Workspace scratch machine where
  short := by
    intro id
    have name := BlockPath.byteLength_fileName id
    have slash : Text.byteLength ['/'] = 1 := by decide
    rw [normal.blockPath_eq, ← List.singleton_append, Text.byteLength_append,
      Text.byteLength_append, slash]
    omega
  ready := by
    refine ⟨location, found, fun id entry present => ?_⟩
    rw [FileTree.find?_of_hasChildren empty] at present
    cases present

/-- The directory of a workspace as the end of a walk. -/
private theorem exists_leads (workspace : Workspace scratch machine) :
    ∃ location left, FileTree.Leads machine.files machine.here scratch.path location left ∧
      TakesBlocks machine.files location := by
  obtain ⟨location, found, takes⟩ := workspace.ready
  obtain ⟨_, _, walked⟩ := FileTree.walk_of_resolve found
  obtain ⟨left, leads⟩ := FileTree.exists_reaches_of_walk FileTree.linkLimit walked
  exact ⟨location, left, leads, takes⟩

private theorem notMem_path (workspace : Workspace scratch machine) : '\x00' ∉ scratch.path := by
  obtain ⟨_, found, _⟩ := workspace.ready
  exact (FileTree.walk_of_resolve found).1

/-- The path of a block file is walked to the workspace and from there to the file. -/
private theorem find_blockPath (workspace : Workspace scratch machine) (normal : scratch.Normal)
    {location : Location} {left : Nat}
    (leads : FileTree.Leads machine.files machine.here scratch.path location left) (id : UInt64) :
    machine.find (scratch.blockPath id.toNat) =
      machine.files.walk true left location [BlockPath.fileName id.toNat] := by
  have short := workspace.short id
  have slash : '/' ∉ BlockPath.fileName id.toNat :=
    BlockPath.notMem_fileName (by decide) (by decide) (by decide) _
  have nul : '\x00' ∉ BlockPath.fileName id.toNat :=
    BlockPath.notMem_fileName (by decide) (by decide) (by decide) _
  have filled : BlockPath.fileName id.toNat ≠ [] := List.cons_ne_nil _ _
  have absolute : Path.isAbsolute (scratch.path ++ '/' :: BlockPath.fileName id.toNat) =
      Path.isAbsolute scratch.path := by
    obtain ⟨first, rest, path⟩ := List.exists_cons_of_ne_nil normal.path_ne_nil
    rw [path]
    rfl
  rw [normal.blockPath_eq] at short ⊢
  have clean : '\x00' ∉ scratch.path ++ '/' :: BlockPath.fileName id.toNat := by
    have front := workspace.notMem_path
    simp [front, nul]
  rw [Machine.find, FileTree.resolve_eq_walk clean (by simp) short, absolute,
    FileTree.steps_append_of_endsInSlash normal.endsInSlash_path filled slash,
    leads.walk_append (List.cons_ne_nil _ _)]

/-- Where the directory is still reached and its block files are free, it is still a workspace. -/
theorem of_leads (workspace : Workspace scratch machine) (normal : scratch.Normal)
    {files : FileTree} {location : Location} {left : Nat}
    (leads : FileTree.Leads files machine.here scratch.path location left)
    (takes : TakesBlocks files location) :
    Workspace scratch (machine.withFiles files) where
  short := workspace.short
  ready := by
    obtain ⟨_, found, _⟩ := workspace.ready
    obtain ⟨clean, short, _⟩ := FileTree.walk_of_resolve found
    refine ⟨location, ?_, takes⟩
    rw [Machine.findSelf, FileTree.resolve_eq_walk clean normal.path_ne_nil short]
    exact leads.walk_eq false

/-- A block file that is stored leaves a workspace. -/
theorem store (workspace : Workspace scratch machine) (normal : scratch.Normal)
    {location : Location} {left : Nat}
    (leads : FileTree.Leads machine.files machine.here scratch.path location left)
    (takes : TakesBlocks machine.files location)
    (id : UInt64) (content : Bytes) (executable : Bool) :
    Workspace scratch (machine.withFiles
      (machine.files.store (location ++ [BlockPath.fileName id.toNat])
        (.file content executable))) := by
  have inside : location ++ [BlockPath.fileName id.toNat] ≠ [] := by simp
  apply workspace.of_leads normal (leads.of_kept ?_)
  · intro other entry stored
    by_cases same : location ++ [BlockPath.fileName other.toNat] =
        location ++ [BlockPath.fileName id.toNat]
    · rw [same, FileTree.find?_store_self _ _ inside] at stored
      cases stored
      exact ⟨content, executable, rfl⟩
    · rw [FileTree.find?_store_of_ne _ _ same] at stored
      exact takes other entry stored
  · intro place entry present noFile
    have different : place ≠ location ++ [BlockPath.fileName id.toNat] := by
      rintro rfl
      obtain ⟨old, runs, rfl⟩ := takes id entry present
      exact noFile old runs rfl
    rwa [FileTree.find?_store_of_ne _ _ different]

/-- The file of a block can be written, and the directory stays a workspace. -/
theorem writeFile_blockPath (workspace : Workspace scratch machine) (normal : scratch.Normal)
    (id : UInt64) (content : Bytes) :
    ∃ after, Machine.writeFile (scratch.blockPath id.toNat) content machine = (.ok (), after) ∧
      Workspace scratch after := by
  obtain ⟨location, left, leads, takes⟩ := workspace.exists_leads
  have found := workspace.find_blockPath normal leads id
  have short : Text.byteLength (BlockPath.fileName id.toNat) ≤ FileTree.nameLimit :=
    Nat.le_trans (BlockPath.byteLength_fileName id) (by decide)
  have noStay : BlockPath.fileName id.toNat ≠ ['.'] := by
    rw [BlockPath.fileName_eq_cons]
    simp
  have noParent : BlockPath.fileName id.toNat ≠ ['.', '.'] := by
    rw [BlockPath.fileName_eq_cons]
    simp
  rw [Machine.writeFile, normal.endsInSlash_blockPath, found]
  cases present : machine.files.find? (location ++ [BlockPath.fileName id.toNat]) with
  | none =>
      rw [FileTree.walk_of_none short noStay noParent present]
      exact ⟨_, rfl, workspace.store normal leads takes id content false⟩
  | some entry =>
      obtain ⟨old, executable, rfl⟩ := takes id entry present
      rw [FileTree.walk_cons short noStay noParent, present]
      exact ⟨_, rfl, workspace.store normal leads takes id content executable⟩

/-- At the end the directory can be removed. -/
theorem remove (workspace : Workspace scratch machine) (normal : scratch.Normal) :
    (scratch.remove machine).1 = .ok () := by
  obtain ⟨location, found, _⟩ := workspace.ready
  have removed := normal.removeDirectory_clear found
  rw [ScratchDir.remove, Machine.removeTree, found]
  dsimp only
  generalize Machine.removeDirectory scratch.path
    (machine.withFiles (machine.files.clear location)) = result at removed ⊢
  obtain ⟨outcome, after⟩ := result
  rcases removed with rfl | rfl
  · rfl
  · rfl

end Workspace

end DocCheck
