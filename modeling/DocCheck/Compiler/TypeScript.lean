import DocCheck.Compiler
import DocCheck.Diagnostic.Report
import DocCheck.Json.Value
import DocCheck.Shell.Run

/-!
The compiler of the project, a program of its own. It is found by the path that the run is told, or
in the project, or among the programs of the machine. For every block it is given settings of its
own: those of the project, restricted to the one file.
-/

namespace DocCheck

structure TypeScript where
  program : Text
  /-- The directory it is started in. -/
  projectRoot : Text
  /-- The settings of the project, if there are any. -/
  baseSettings : Option Text
  deriving Repr, DecidableEq

namespace TypeScript

/-! ## Finding the program -/

def programName : Text := "tsc".toList

/-- Looks a program up as the system does: a name among the programs of the machine, and a path as
it stands. -/
def lookUp? (machine : Machine) (name : Text) : Option Text :=
  if name.contains '/' then
    if machine.isExecutable name then Path.absolute? (Machine.pathOf machine.here) name else none
  else (Shell.findProgram? machine (Shell.ofText name)).map Shell.toText

/-- The place of the program in the packages of a project. -/
def localProgram (config : Config) : Text :=
  ["node_modules", ".bin", "tsc"].foldl (fun path name => Path.join path name.toList)
    config.projectRoot

def find (config : Config) (machine : Machine) : Except Failure Text :=
  match config.compiler with
  | some path =>
      if machine.isPresent path then .ok path
      else
        match lookUp? machine path with
        | some found => .ok found
        | none => .error (.toolchain ("tsc not found at ".toList ++ path))
  | none =>
      if machine.isPresent (localProgram config) then .ok (localProgram config)
      else
        match lookUp? machine programName with
        | some found => .ok found
        | none => .error (.toolchain "tsc not found in node_modules/.bin or PATH".toList)

/-- The path seen from the root of the file system. -/
def absolute (machine : Machine) (path : Text) : Except FileError Text :=
  match Path.absolute? (Machine.pathOf machine.here) path with
  | some absolute => .ok absolute
  | none => .error .emptyPath

def ofConfig (config : Config) (machine : Machine) : Except Failure TypeScript :=
  match find config machine with
  | .error failure => .error failure
  | .ok program =>
      match absolute machine config.projectRoot with
      | .error error => .error (.io error)
      | .ok projectRoot =>
          if machine.isFile config.tsconfigPath then
            match absolute machine config.tsconfigPath with
            | .error error => .error (.io error)
            | .ok settings => .ok ⟨program, projectRoot, some settings⟩
          else .ok ⟨program, projectRoot, none⟩

/-! ## Checking a block -/

/-- What tells the files of a block from those of the others: the name of its file without the lead
and the ending. -/
def blockToken (path : Text) : Text :=
  let stem := Path.stem ((Path.fileName? path).getD [])
  (List.isPrefixOf? BlockPath.fileLead stem).getD stem

def settingsPath (path : Text) : Text :=
  Path.withFileName ("tsconfig-".toList ++ blockToken path ++ ".json".toList) path

def withSlashes (path : Text) : Json :=
  .string (Text.replaceChar '\\' '/' path)

/-- The options of the settings for a block. Nothing is written, and names that are not used are
allowed, for a block often shows only how something is declared. -/
def blockOptions : Json :=
  .object [("composite".toList, .bool false), ("incremental".toList, .bool false),
    ("noEmit".toList, .bool true), ("noUnusedLocals".toList, .bool false)]

def blockSettings (compiler : TypeScript) (path : Text) : Json :=
  let base := compiler.baseSettings.map fun settings => ("extends".toList, withSlashes settings)
  .object (("compilerOptions".toList, blockOptions) :: base.toList ++
    [("files".toList, .list [withSlashes path]), ("include".toList, .list [])])

/-- The diagnostic for what has come of the program, unless it was successful. -/
def diagnosticOf (outcome : Shell.Outcome) : Option Diagnostic :=
  let report := fun (status : Option Int) =>
    some (Diagnostic.ofReport (Text.Utf8.decodeLossy outcome.output)
      (Text.Utf8.decodeLossy outcome.errors) status)
  match outcome.ending with
  | .exited status => if status = 0 then none else report (some status)
  | .killed _ => report none

def arguments (settings : Text) : List Text :=
  ["--project".toList, settings, "--pretty".toList, "false".toList]

def crashAt (task path : Text) (error : FileError) : Option Diagnostic :=
  some (Diagnostic.crash (task ++ path ++ ": ".toList ++ error.message))

def check (compiler : TypeScript) (path : Text) (machine : Machine) :
    Option Diagnostic × Machine :=
  match absolute machine path with
  | .error error => (crashAt "cannot resolve ".toList path error, machine)
  | .ok file =>
      let settings := settingsPath file
      let content := Text.Utf8.encode (compiler.blockSettings file).text
      match Machine.writeFile settings content machine with
      | (.error error, after) => (crashAt "cannot write ".toList settings error, after)
      | (.ok (), ready) =>
          match Shell.start compiler.program (arguments settings) compiler.projectRoot ready with
          | (.error error, after) =>
              (crashAt "failed to run ".toList compiler.program error, after)
          | (.ok outcome, after) => (diagnosticOf outcome, after)

def compiler (compiler : TypeScript) : Compiler where
  check := fun _ path machine => compiler.check path machine

def toolchain : Toolchain := fun config machine =>
  match ofConfig config machine with
  | .ok found => .ok found.compiler
  | .error failure => .error failure

end TypeScript

end DocCheck
