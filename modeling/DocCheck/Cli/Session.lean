import DocCheck.Check.Run
import DocCheck.Cli.Arguments
import DocCheck.Report.Data
import DocCheck.Report.Human

/-!
What the program does: it reads its command line, checks the documents, and reports. A run in which
every block compiles ends with status 0, one in which some block does not with 1, and one without
results with 2.
-/

namespace DocCheck.Cli

/-- What has come of the program. -/
structure Session where
  status : Nat
  /-- What it has written, given the hundredths of a second that checking takes. -/
  output : Nat → Text
  errors : Text
  machine : Machine
  rejected : Bool

namespace Session

/-- A session that has changed nothing. -/
def still (status : Nat) (output errors : Text) (machine : Machine) : Session :=
  ⟨status, fun _ => output, errors, machine, false⟩

def version : Text := "snipcheck 0.1.0\n".toList

def usage : Text :=
  Report.line "Usage: snipcheck [OPTIONS] [FILES]...".toList

def errorLine (message : Text) : Text :=
  Report.line (Report.painted Colour.red "Error:".toList ++ ' ' :: message)

/-! ## Checking once -/

def report (format : Format) (results : List Result) (elapsed : Nat) : Text :=
  match format with
  | .human => Report.human results elapsed
  | .json => Report.data results

def statusOf (results : List Result) : Nat :=
  if results.all Result.succeeded then 0 else 1

/-- The status of a program that has been abandoned. -/
def abandonedStatus : Nat := 101

def abandonedMessage : Text :=
  Report.line ("a semaphore may not have more than MAX_PERMITS permits (".toList ++
    Text.decimal Run.mostJobs ++ [')'])

def ofRun (format : Format) (ended : RunEnd × Workshop) : Session :=
  let machine := ended.2.machine
  match ended.1 with
  | .finished results => ⟨statusOf results, report format results, [], machine, false⟩
  | .failed failure => still 2 [] (errorLine failure.report) machine
  | .abandoned => still abandonedStatus [] abandonedMessage machine

/-- A run that nothing has preceded. -/
def firstRun (config : Config) (toolchain : Toolchain) (documents : List Text)
    (machine : Machine) : RunEnd × Workshop :=
  run config toolchain documents ⟨machine, 1, []⟩

def check (config : Config) (toolchain : Toolchain) (documents : List Text) (format : Format)
    (machine : Machine) : Session :=
  ofRun format (firstRun config toolchain documents machine)

/-! ## Watching -/

/-- The first document that is not there. -/
def missing? (config : Config) (documents : List Text) (machine : Machine) : Option Text :=
  documents.find? fun document =>
    !machine.isPresent (Path.join config.projectRoot document)

def watchHeader (documents : List Text) : Text :=
  '\n' :: Report.line (Report.painted Colour.bold "snipcheck watch".toList ++ " - ".toList ++
    Report.painted Colour.cyan (Text.joinWith ", ".toList documents)) ++ Report.line Report.rule

def watchFooter : Text :=
  '\n' :: Report.line
    (Report.painted Colour.dim "Watching for changes... (Ctrl+C to stop)".toList)

/-- The first error in finding where documents are. -/
def lost? (config : Config) (documents : List Text) (machine : Machine) : Option FileError :=
  documents.findSome? fun document =>
    match machine.location (Path.join config.projectRoot document) with
    | .ok _ => none
    | .error error => some error

/-- Checks documents and then watches them. -/
def watch (config : Config) (toolchain : Toolchain) (documents : List Text) (format : Format)
    (machine : Machine) : Session :=
  match missing? config documents machine with
  | some document =>
      still 2 [] (errorLine (Failure.documentNotFound document).report) machine
  | none =>
      let ended := firstRun config toolchain documents machine
      let checked := ofRun format ended
      let header := watchHeader documents
      if ended.1 = .abandoned then
        { checked with output := fun elapsed => header ++ checked.output elapsed }
      else
        let output := fun elapsed => header ++ checked.output elapsed ++ watchFooter
        -- Checking has made and removed files, and a document may be gone since.
        match lost? config documents checked.machine with
        | some error =>
            let message := "Failed to create file watcher: ".toList ++ error.message
            { checked with
              status := 2
              output := output
              errors := checked.errors ++ errorLine message }
        | none => { checked with status := 0, output := output }

/-! ## The program -/

def ofArguments (toolchain : Toolchain) (texts : List Text) (machine : Machine) : Session :=
  match Arguments.read texts with
  | .error .rejected => { still 2 [] usage machine with rejected := true }
  | .error .help => still 0 usage [] machine
  | .error .version => still 0 version [] machine
  | .ok arguments =>
      let task := if arguments.watch then watch else check
      task arguments.config toolchain arguments.chosenDocuments arguments.chosenFormat machine

end Session

end DocCheck.Cli
