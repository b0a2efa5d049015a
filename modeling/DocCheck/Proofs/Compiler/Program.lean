import DocCheck.Compiler.TypeScript

/-!
The program that is started to check a block. It is found from the working directory, but started in
the root of the project, by the path that it was found by. Main statement: the file that is started
is the one that was found if that path is absolute, and otherwise only if the path leads there from
the root of the project as well, or the search for its name does.
-/

namespace DocCheck

namespace Path

private theorem isAbsolute_join (base inner : Text) :
    isAbsolute (join base inner) = (isAbsolute inner || isAbsolute base) := by
  rw [join]
  cases base with
  | nil => simp [isAbsolute]
  | cons c base =>
      cases absolute : isAbsolute inner with
      | true => simpa using absolute
      | false =>
          simp only [List.isEmpty_cons, Bool.or_false, Bool.false_eq_true, if_false]
          split <;> rfl

private theorem isAbsolute_foldl_join {base : Text} (absolute : isAbsolute base = true)
    (parts : List Text) : isAbsolute (parts.foldl join base) = true := by
  induction parts generalizing base with
  | nil => exact absolute
  | cons part parts inductionHypothesis =>
      apply inductionHypothesis
      rw [isAbsolute_join, absolute, Bool.or_true]

private theorem isAbsolute_of_absolute? {here path found : Text} (rooted : isAbsolute here = true)
    (absolute : absolute? here path = some found) : isAbsolute found = true := by
  rw [absolute?] at absolute
  split at absolute
  · cases absolute
  · dsimp only at absolute
    generalize isBase : (if isAbsolute path = true then _ else here) = base at absolute
    have baseAbsolute : isAbsolute base = true := by
      rw [← isBase]
      split
      · split <;> rfl
      · exact rooted
    have joined := isAbsolute_foldl_join baseAbsolute (names path)
    cases absolute
    split
    · rw [isAbsolute_join, joined, Bool.or_true]
    · exact joined

private theorem mem_of_isAbsolute {path : Text} (absolute : isAbsolute path = true) : '/' ∈ path :=
  List.mem_of_mem_head? (by simpa [isAbsolute] using absolute)

end Path

namespace Machine

/-- The machine as a program sees it that works in another directory. -/
def workingIn (machine : Machine) (here : Location) : Machine :=
  { machine with here := here }

/-- An absolute path names the same from every directory. -/
private theorem location_workingIn (machine : Machine) (here : Location) {path : Text}
    (absolute : Path.isAbsolute path = true) :
    (machine.workingIn here).location path = machine.location path := by
  simp only [location, find, FileTree.resolve, workingIn, if_pos absolute]

private theorem isAbsolute_pathOf (location : Location) :
    Path.isAbsolute (pathOf location) = true :=
  rfl

end Machine

namespace Shell

/-! ## Starting a program -/

private theorem isAbsolute_toText_ofText {path : Text} (absolute : Path.isAbsolute path = true) :
    Path.isAbsolute (toText (ofText path)) = true := by
  cases path with
  | nil => cases absolute
  | cons c path =>
      have slash : c = '/' := by simpa [Path.isAbsolute] using absolute
      subst slash
      rfl

/-- A search in absolute directories gives an absolute path. -/
private theorem isAbsolute_of_findProgram? {machine : Machine} {name path : Raw}
    (rooted : ∀ directory ∈ machine.searchPath, Path.isAbsolute directory = true)
    (found : findProgram? machine name = some path) :
    Path.isAbsolute (toText path) = true := by
  obtain ⟨directory, member, runs⟩ := List.exists_of_findSome?_eq_some found
  dsimp only at runs
  split at runs
  · cases runs
    apply isAbsolute_toText_ofText
    rw [Path.isAbsolute_join, rooted directory member, Bool.or_true]
  · cases runs

private theorem programPath_of_mem {machine : Machine} {program : Text} (slash : '/' ∈ program) :
    programPath machine program = .ok program := by
  have contains : program.contains '/' = true := by simpa using slash
  rw [programPath, if_pos contains]

private theorem programPath_eq_ok_iff {machine : Machine} {program path : Text}
    (bare : '/' ∉ program) :
    programPath machine program = .ok path ↔
      ∃ found, findProgram? machine (ofText program) = some found ∧ toText found = path := by
  have lacks : program.contains '/' = false := by simpa using bare
  rw [programPath, lacks, if_neg Bool.false_ne_true]
  cases findProgram? machine (ofText program) with
  | none =>
      dsimp only
      split <;> simp
  | some found => simp

/-- The directory that a program is started in and the path that it is started by. -/
def startedPath (program directory : Text) (machine : Machine) :
    Except FileError (Location × Text) :=
  match machine.find directory with
  | .error error => .error error
  | .ok (.absent _ _) => .error .notFound
  | .ok (.present there .directory) =>
      (programPath (machine.workingIn there) program).map fun path => (there, path)
  | .ok (.present _ _) => .error .notDirectory

/-- What is run is the file at that path, seen from that directory. -/
theorem start_eq (program : Text) (arguments : List Text) (directory : Text) (machine : Machine) :
    start program arguments directory machine =
      match startedPath program directory machine with
      | .error error => (.error error, machine)
      | .ok (there, path) =>
          match execute runFuel (ofText path) (arguments.map ofText)
              (startingState (machine.workingIn there)) with
          | .error error => (.error error, machine)
          | .ok after =>
              (.ok {
                  output := toBytes after.output
                  errors := toBytes after.errors
                  ending := match after.flow with
                    | .exits status | .returns status => .exited status
                    | .killed signal => .killed signal
                    | _ => .exited after.status },
                machine.withFiles after.machine.files) := by
  rw [start, startedPath]
  rcases machine.find directory with error | (⟨there, entry⟩ | ⟨_, _⟩)
  · rfl
  · cases entry with
    | directory =>
        dsimp only [Machine.workingIn]
        rcases programPath { machine with here := there } program with error | path <;> rfl
    | file content executable => rfl
    | link target => rfl
  · rfl

end Shell

namespace TypeScript

/-! ## Finding the compiler -/

/-- The path of the compiler names the same file from every directory: it is absolute, or the compiler
has been looked up. -/
def IsFixed (config : Config) (machine : Machine) : Prop :=
  match config.compiler with
  | some path => Path.isAbsolute path = true ∨ machine.isPresent path = false
  | none =>
      Path.isAbsolute config.projectRoot = true ∨ machine.isPresent (localProgram config) = false

private theorem isAbsolute_localProgram (config : Config) :
    Path.isAbsolute (localProgram config) = Path.isAbsolute config.projectRoot := by
  simp only [localProgram, List.foldl_cons, List.foldl_nil, Path.isAbsolute_join]
  rfl

section Found

variable {config : Config} {machine : Machine}
  (rooted : ∀ directory ∈ machine.searchPath, Path.isAbsolute directory = true)

include rooted

private theorem isAbsolute_of_lookUp? {name program : Text}
    (found : lookUp? machine name = some program) :
    Path.isAbsolute program = true := by
  rw [lookUp?] at found
  split at found
  · split at found
    · exact Path.isAbsolute_of_absolute? (Machine.isAbsolute_pathOf machine.here) found
    · cases found
  · obtain ⟨path, searched, rfl⟩ := Option.map_eq_some_iff.mp found
    exact Shell.isAbsolute_of_findProgram? rooted searched

/-- What is not looked up is taken as it stands. -/
theorem isAbsolute_iff_isFixed {program : Text} (found : find config machine = .ok program) :
    Path.isAbsolute program = true ↔ IsFixed config machine := by
  rw [find] at found
  rw [IsFixed]
  cases given : config.compiler with
  | some path =>
      rw [given] at found
      dsimp only at found ⊢
      by_cases present : machine.isPresent path = true
      · rw [if_pos present] at found
        cases found
        simp [present]
      · rw [if_neg present] at found
        split at found
        · next searched =>
            cases found
            simp [present, isAbsolute_of_lookUp? rooted searched]
        · cases found
  | none =>
      rw [given] at found
      dsimp only at found ⊢
      by_cases present : machine.isPresent (localProgram config) = true
      · rw [if_pos present] at found
        cases found
        simp [present, isAbsolute_localProgram]
      · rw [if_neg present] at found
        split at found
        · next searched =>
            cases found
            simp [present, isAbsolute_of_lookUp? rooted searched]
        · cases found

end Found

private theorem find_of_ofConfig {config : Config} {machine : Machine} {compiler : TypeScript}
    (created : ofConfig config machine = .ok compiler) :
    find config machine = .ok compiler.program := by
  rw [ofConfig] at created
  split at created
  · cases created
  · next program found =>
      split at created
      · cases created
      · split at created
        · split at created
          · cases created
          · cases created
            exact found
        · cases created
          exact found

/-! ## Starting it -/

/-- The file that is started to check a block. -/
def startedFile (compiler : TypeScript) (machine : Machine) : Except FileError Location :=
  match Shell.startedPath compiler.program compiler.projectRoot machine with
  | .error error => .error error
  | .ok (there, path) => (machine.workingIn there).location path

theorem startedFile_eq_ok_iff {compiler : TypeScript} {machine : Machine} {there file : Location}
    (root : machine.find compiler.projectRoot = .ok (.present there .directory)) :
    compiler.startedFile machine = .ok file ↔
      ∃ path, Shell.programPath (machine.workingIn there) compiler.program = .ok path ∧
        (machine.workingIn there).location path = .ok file := by
  rw [startedFile, Shell.startedPath, root]
  dsimp only
  rcases Shell.programPath (machine.workingIn there) compiler.program with error | path
  · simp [Except.map]
  · simp [Except.map]

/-- The file that is started to check a block, at any later time, is the one by which the compiler
was found in the working directory exactly if the path of the compiler is fixed, or leads to that
file from the root of the project as well, or is a name that is found there by the search. -/
theorem startedFile_eq_iff {config : Config} {machine later : Machine} {compiler : TypeScript}
    {there file : Location}
    (rooted : ∀ directory ∈ machine.searchPath, Path.isAbsolute directory = true)
    (created : ofConfig config machine = .ok compiler)
    (root : later.find compiler.projectRoot = .ok (.present there .directory))
    (stands : (later.workingIn machine.here).location compiler.program = .ok file) :
    compiler.startedFile later = .ok file ↔
      IsFixed config machine ∨
        ('/' ∈ compiler.program ∧
          (later.workingIn there).location compiler.program = .ok file) ∨
        ('/' ∉ compiler.program ∧ ∃ path,
          Shell.findProgram? (later.workingIn there) (Shell.ofText compiler.program) = some path ∧
            (later.workingIn there).location (Shell.toText path) = .ok file) := by
  rw [← isAbsolute_iff_isFixed rooted (find_of_ofConfig created), startedFile_eq_ok_iff root]
  by_cases slash : '/' ∈ compiler.program
  · have fixed (absolute : Path.isAbsolute compiler.program = true) :
        (later.workingIn there).location compiler.program = .ok file := by
      rw [later.location_workingIn there absolute, ← later.location_workingIn machine.here absolute,
        stands]
    rw [Shell.programPath_of_mem slash]
    constructor
    · rintro ⟨path, ⟨⟩, same⟩
      exact Or.inr (Or.inl ⟨slash, same⟩)
    · rintro (absolute | ⟨_, same⟩ | ⟨bare, _⟩)
      · exact ⟨_, rfl, fixed absolute⟩
      · exact ⟨_, rfl, same⟩
      · exact absurd slash bare
  · have relative : Path.isAbsolute compiler.program ≠ true := fun absolute =>
      slash (Path.mem_of_isAbsolute absolute)
    simp only [Shell.programPath_eq_ok_iff slash]
    constructor
    · rintro ⟨_, ⟨path, searched, rfl⟩, same⟩
      exact Or.inr (Or.inr ⟨slash, path, searched, same⟩)
    · rintro (absolute | ⟨inside, _⟩ | ⟨_, path, searched, same⟩)
      · exact absurd absolute relative
      · exact absurd inside slash
      · exact ⟨_, ⟨path, searched, rfl⟩, same⟩

/-- A machine with a package in a directory below the working directory, and in this package a
directory of the same name that holds a compiler, too. -/
def nestedMachine : Machine where
  files :=
    let place := fun (names : List String) => "demo".toList :: names.map String.toList
    ⟨[(["demo".toList], .directory), (place ["sub"], .directory),
      (place ["sub", "node_modules"], .directory),
      (place ["sub", "node_modules", ".bin"], .directory),
      (place ["sub", "node_modules", ".bin", "tsc"], .file [] true),
      (place ["sub", "sub"], .directory), (place ["sub", "sub", "node_modules"], .directory),
      (place ["sub", "sub", "node_modules", ".bin"], .directory),
      (place ["sub", "sub", "node_modules", ".bin", "tsc"], .file [] true)]⟩
  here := ["demo".toList]
  searchPath := ["/demo/bin".toList]

theorem startedFile_eq_iff_in_package :
    let machine := nestedMachine.workingIn ["demo".toList, "sub".toList]
    let config := Config.ofProject ".".toList
    let compiler : TypeScript := ⟨"./node_modules/.bin/tsc".toList, "/demo/sub".toList, none⟩
    let file := ["demo", "sub", "node_modules", ".bin", "tsc"].map String.toList
    ofConfig config machine = .ok compiler ∧ ¬ IsFixed config machine ∧
      compiler.startedFile machine = .ok file := by
  intro machine config compiler file
  have rooted : ∀ directory ∈ machine.searchPath, Path.isAbsolute directory = true :=
    List.forall_mem_singleton.mpr rfl
  have created : ofConfig config machine = .ok compiler := rfl
  have root : machine.find compiler.projectRoot =
      .ok (.present ["demo".toList, "sub".toList] .directory) :=
    rfl
  have stands : (machine.workingIn machine.here).location compiler.program = .ok file :=
    rfl
  have loose : ¬ IsFixed config machine := by
    rintro (absolute | missing)
    · cases absolute
    · cases missing
  -- The path depends on the directory, but the working directory is the root of the project.
  have same : (machine.workingIn ["demo".toList, "sub".toList]).location compiler.program =
      .ok file :=
    stands
  exact ⟨created, loose,
    (startedFile_eq_iff rooted created root stands).mpr (Or.inr (Or.inl ⟨by decide, same⟩))⟩

/-- Where the root of the project is a relative path, the compiler is found in the package, but it is
looked for in the package once more when it is started. -/
theorem other_file_started_below_root :
    let config := Config.ofProject "sub".toList
    let compiler : TypeScript := ⟨"sub/node_modules/.bin/tsc".toList, "/demo/sub".toList, none⟩
    ofConfig config nestedMachine = .ok compiler ∧
      nestedMachine.location compiler.program =
        .ok (["demo", "sub", "node_modules", ".bin", "tsc"].map String.toList) ∧
      compiler.startedFile nestedMachine =
        .ok (["demo", "sub", "sub", "node_modules", ".bin", "tsc"].map String.toList) := by
  intro config compiler
  have root : nestedMachine.find compiler.projectRoot =
      .ok (.present ["demo".toList, "sub".toList] .directory) :=
    rfl
  have slash : '/' ∈ compiler.program := by decide
  exact ⟨rfl, rfl, (startedFile_eq_ok_iff root).mpr ⟨_, Shell.programPath_of_mem slash, rfl⟩⟩

end TypeScript

end DocCheck
