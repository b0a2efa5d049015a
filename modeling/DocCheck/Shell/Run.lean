import DocCheck.Shell.Channel
import DocCheck.Shell.FileMatch
import DocCheck.Shell.Program
import DocCheck.Shell.Steering

/-!
Running scripts. Words are expanded, commands are run for their effect on the state. The fuel bounds
the depth of what is nested and the number of rounds of loops.
-/

namespace DocCheck.Shell

/-! ## Expansion without running anything -/

/-- The pieces that a parameter stands for. The arguments of the script are fields of their own. -/
def parameterPieces (state : State) (name : Raw) (isQuoted : Bool) : List Piece :=
  if name = ['@'] || (name = ['*'] && !isQuoted) then
    (state.arguments.map fun argument =>
      if isQuoted then .mark :: piecesOf true argument else piecesOf false argument).intersperse
      [.cut] |>.flatten
  else piecesOf isQuoted (state.parameter name)

/-- The word stands for the arguments of a script that has none. -/
def isNoArguments (state : State) (word : Word) : Bool :=
  match word with
  | [.literal [] true, .parameter ['@'] true] => state.arguments.isEmpty
  | _ => false

/-- The signs of assignments in arithmetic, with the operator that is used on the old value. -/
def assignmentSigns : List (String × Option String) :=
  [("+=", some "+"), ("-=", some "-"), ("*=", some "*"), ("/=", some "/"), ("%=", some "%"),
    ("=", none)]

/-- The value of an arithmetic expression, which may be an assignment. -/
def calculate (expression : Raw) (state : State) : Option (Int × State) :=
  let text := Text.trim expression
  let name := text.takeWhile isNameChar
  let rest := skipGaps (text.drop name.length)
  let plain := (Arithmetic.evaluate? state.parameter text).map fun value => (value, state)
  if name.isEmpty || List.isPrefixOf ['=', '='] rest then plain
  else
    match assignmentSigns.findSome? fun row =>
        (List.isPrefixOf? row.1.toList rest).map fun after => (row.2, after) with
    | none => plain
    | some (sign, after) =>
        match Arithmetic.evaluate? state.parameter after with
        | none => none
        | some right =>
            let value := match sign with
              | none => some right
              | some sign =>
                  Arithmetic.applySign sign (Arithmetic.valueOf (state.parameter name)) right
            value.map fun value => (value, state.assign name (toString value).toList)

/-- Whether a part holds the output of commands. -/
def hasOutput (word : Word) : Bool :=
  word.any fun part =>
    match part with
    | .output _ _ => true
    | _ => false

/-- Ends the shell after an error in an expansion. -/
def failExpansion (message : Raw) (state : State) : State :=
  { state.report state.line message with flow := .exits 2 }

/-- Ends the shell after a command that has failed, if it is to end then. -/
def afterCommand (state : State) : State :=
  if state.flow = .goesOn && state.status != 0 && state.exitsOnFailure && !state.asks then
    { state with flow := .exits state.status }
  else state

/-- The state after something that can be returned from. -/
def returnedFrom (after : State) : State :=
  match after.flow with
  | .returns status => { after with status := status, flow := .goesOn }
  | _ => after

/-- A state in which it is asked whether a command succeeds. -/
def asking (state : State) : State :=
  { state with asks := true }

/-- The state after that has been asked. -/
def answered (before after : State) : State :=
  { after with asks := before.asks }

/-! ## Programs in files -/

/-- The interpreter that the first line of a script names, and what it passes to it. -/
def interpreter? (content : Raw) : Option (Raw × List Raw) :=
  match content with
  | '#' :: '!' :: rest =>
      let line := (rest.takeWhile (· != '\n')).dropWhile isGap
      let name := line.takeWhile fun c => !isGap c
      let argument := Text.dropEndWhile isGap ((line.drop name.length).dropWhile isGap)
      if name.isEmpty then none else some (name, if argument.isEmpty then [] else [argument])
  | _ => none

/-- The paths of the shell. -/
def shellPaths : List String :=
  ["/bin/sh", "/usr/bin/sh", "/bin/dash", "/usr/bin/dash", "/bin/bash", "/usr/bin/bash"]

/-- The paths of the program that calls another one by its name. -/
def callerPaths : List String :=
  ["/usr/bin/env", "/bin/env"]

def findProgram? (machine : Machine) (name : Raw) : Option Raw :=
  machine.searchPath.findSome? fun directory =>
    let path := Path.join directory (toText name)
    if machine.isExecutable path then some (ofText path) else none

/-! ## Commands -/

mutual

def expandPart : Nat → Part → State → List Piece × State
  | 0, _, state => ([], state)
  | fuel + 1, part, state =>
      match part with
      | .literal text isQuoted =>
          let chars := text.map fun c => Piece.char c isQuoted false
          -- Quotes make a field even if there is nothing between them.
          (if isQuoted then .mark :: chars else chars, state)
      | .parameter name isQuoted => (parameterPieces state name isQuoted, state)
      | .size name => (piecesOf true (Text.decimal (state.parameter name).length), state)
      | .trimmed name atEnd longest pattern isQuoted =>
          let found := expandWord fuel pattern state
          let glob := globOf found.1
          let value := found.2.parameter name
          (piecesOf isQuoted
            (if atEnd then Glob.trimEnd longest glob value else Glob.trimStart longest glob value),
            found.2)
      | .alternative name kind emptyIsUnset word isQuoted =>
          let isSet := match state.parameter? name with
            | some value => !(emptyIsUnset && value.isEmpty)
            | none => false
          if kind = '+' then if isSet then expandWord fuel word state else ([], state)
          else if isSet then (parameterPieces state name isQuoted, state)
          else
            let found := expandWord fuel word state
            let value := joined found.1
            match kind with
            | '-' => found
            | '=' => (piecesOf isQuoted value, found.2.assign name value)
            | _ =>
                let message := if value.isEmpty then "parameter not set".toList else value
                ([], failExpansion (name ++ ": ".toList ++ message) found.2)
      | .arithmetic expression =>
          let found := expandWord fuel expression state
          match calculate (joined found.1) found.2 with
          | some (value, state) => (piecesOf true (toString value).toList, state)
          | none => ([], failExpansion "arithmetic expression: expecting primary".toList found.2)
      | .output script isQuoted =>
          let ran := runText fuel script { state with output := [], outputSink := .output }
          let text := Text.dropEndWhile (· == '\n') ran.output
          (piecesOf isQuoted text, { state.rejoin ran with
            status := state.status
            takenStatus := ran.finalStatus
            output := state.output })

def expandWord : Nat → Word → State → List Piece × State
  | 0, _, state => ([], state)
  | _ + 1, [], state => ([], state)
  | fuel + 1, part :: parts, state =>
      let first := expandPart fuel part state
      let more := expandWord fuel parts first.2
      (first.1 ++ more.1, more.2)

/-- The fields that words stand for. -/
def expandWords : Nat → List Word → State → List Raw × State
  | 0, _, state => ([], state)
  | _ + 1, [], state => ([], state)
  | fuel + 1, word :: words, state =>
      let found := expandWord fuel word state
      let texts :=
        if isNoArguments state word then []
        else
          (fieldsFrom found.2.separators none found.1).flatMap (textsOf found.2.machine)
      let more := expandWords fuel words found.2
      (texts ++ more.1, more.2)

def assignAll : Nat → List (Raw × Word) → State → State
  | 0, _, state => state
  | _ + 1, [], state => state
  | fuel + 1, (name, word) :: settings, state =>
      let found := expandWord fuel word state
      assignAll fuel settings (found.2.assign name (joined found.1))

/-- Connects channels; the first component says whether that succeeds. -/
def connectAll : Nat → Nat → List Redirect → State → Bool × State
  | 0, _, _, state => (false, state)
  | _ + 1, _, [], state => (true, state)
  | fuel + 1, line, redirect :: redirects, state =>
      let found := expandWord fuel redirect.target state
      match found.2.connect line redirect.channel redirect.mode (joined found.1) with
      | (true, state) => connectAll fuel line redirects state
      | (false, state) => (false, state)

/-- Runs a program in a file, with the channels of the caller; its state at the end, or the reason
why it cannot be run. -/
def execute : Nat → Raw → List Raw → State → Except FileError State
  | 0, _, _, _ => .error .tooManyLinks
  | fuel + 1, path, arguments, state =>
      match Program.installed? path with
      | some program => .ok (program arguments (state.called path arguments))
      | none =>
          if shellPaths.any fun shell => shell.toList == path then
            .ok (shellProgram fuel path arguments state)
          else if callerPaths.any fun caller => caller.toList == path then
            .ok (callerProgram fuel path arguments state)
          else
            match state.machine.find (toText path) with
            | .error error => .error error
            | .ok (.absent _ _) => .error .notFound
            | .ok (.present _ (.file content true)) =>
                match interpreter? (ofBytes content) with
                | some (interpreter, extra) =>
                    execute fuel interpreter (extra ++ path :: arguments) state
                | none => .error .badFormat
            | .ok (.present _ _) => .error .denied

/-- Runs the shell as a program: on a script in a file, on one that is given, or on its input. -/
def shellProgram : Nat → Raw → List Raw → State → State
  | 0, _, _, state => state
  | fuel + 1, path, arguments, state =>
      let switches := arguments.takeWhile fun argument =>
        argument.head? == some '-' && argument != ['-', 'c']
      let called := fun (name : Raw) (rest : List Raw) =>
        { state.called name rest with
          exitsOnFailure := switches.any fun switch => switch.contains 'e' }
      match arguments.drop switches.length with
      | ['-', 'c'] :: script :: rest =>
          runText fuel script (called (rest.head?.getD path) (rest.drop 1))
      | script :: rest =>
          match state.machine.readFile (toText script) with
          | .ok content => runText fuel (ofBytes content) (called script rest)
          | .error error =>
              ((called path []).report 0 ("cannot open ".toList ++ script ++ ": ".toList ++
                State.openingWords true error)).done 2
      | [] => runText fuel state.input { called path [] with input := [] }

/-- Runs the program that calls another one by its name. -/
def callerProgram : Nat → Raw → List Raw → State → State
  | 0, _, _, state => state
  | fuel + 1, path, arguments, state =>
      let called := state.called path []
      match arguments.dropWhile fun argument => argument.contains '=' with
      | [] => called
      | name :: rest =>
          let found := if name.contains '/' then some name else findProgram? state.machine name
          let failed := fun (error : FileError) =>
            (called.complain (Program.fileMessage path [] (Program.quoted name) error)).done
              (if error = .notFound then 127 else 126)
          match found with
          | none => failed .notFound
          | some program =>
              match execute fuel program rest state with
              | .ok after => after
              | .error error => failed error

/-- Calls a program that is not part of the shell. -/
def launch : Nat → Nat → Raw → List Raw → State → State
  | 0, _, _, _, state => state
  | fuel + 1, line, name, arguments, state =>
      let found := if name.contains '/' then some name else findProgram? state.machine name
      match found with
      | none => (state.report line (name ++ ": not found".toList)).done 127
      | some path =>
          match execute fuel path arguments state with
          | .ok after => state.returned after
          | .error error =>
              -- A file that names no interpreter is a script of the shell itself.
              if error = .badFormat then
                match state.machine.readFile (toText path) with
                | .ok content =>
                    state.returned (runText fuel (ofBytes content) (state.called path arguments))
                | .error _ => state.done 126
              else if error = .notFound || error = .notDirectory then
                (state.report line (name ++ ": not found".toList)).done 127
              else
                (state.report line (name ++ ": ".toList ++ State.words error)).done 126

def call : Nat → Nat → List Raw → State → State
  | 0, _, _, state => state
  | _ + 1, _, [], state => state
  | fuel + 1, line, name :: arguments, state =>
      match state.named.find? fun known => known.1 == name with
      | some (_, body) => callNamed fuel body arguments state
      | none =>
          match String.ofList name with
          | "eval" => runText fuel (Text.joinWith [' '] arguments) (state.done 0)
          | "." => includeFile fuel line (arguments.head?.getD []) state
          | "exec" =>
              if arguments.isEmpty then state.done 0
              else
                let after := call fuel line arguments state
                if after.flow = .goesOn then { after with flow := .exits after.status } else after
          | "command" => call fuel line arguments state
          | _ =>
              match Program.steering? name, Program.builtin? name with
              | some program, _ => program line arguments state
              | none, some program => program arguments state
              | none, none => launch fuel line name arguments state

/-- Calls a command that has been given a name, with arguments of its own. -/
def callNamed : Nat → Command → List Raw → State → State
  | 0, _, _, state => state
  | fuel + 1, body, arguments, state =>
      let after := run fuel body { state with arguments := arguments }
      returnedFrom { after with arguments := state.arguments }

/-- Runs a script in a file as a part of the one that names it. -/
def includeFile : Nat → Nat → Raw → State → State
  | 0, _, _, state => state
  | fuel + 1, line, path, state =>
      match state.machine.readFile (toText path) with
      | .ok content => returnedFrom (runText fuel (ofBytes content) state)
      | .error error =>
          { state.report line (".: cannot open ".toList ++ path ++ ": ".toList ++
            State.openingWords true error) with flow := .exits 2 }

def runText : Nat → Raw → State → State
  | 0, _, state => state
  | fuel + 1, text, state =>
      match script? text with
      | some command => run fuel command state
      | none =>
          { state.report (text.count '\n' + 1) "Syntax error".toList with flow := .exits 2 }

def run : Nat → Command → State → State
  | 0, _, state => { state with flow := .exits 2 }
  | fuel + 1, command, state =>
      match command with
      | .nothing => state
      | .simple line settings words redirects =>
          let expanded := expandWords fuel words { state with line := line }
          if expanded.2.flow ≠ .goesOn then expanded.2
          else
            match connectAll fuel line redirects expanded.2 with
            | (false, failed) => (expanded.2.reconnect true failed).done 2
            | (true, connected) =>
                let prepared := assignAll fuel settings connected
                if prepared.flow ≠ .goesOn then prepared
                else
                  let readsOther := redirects.any fun redirect => redirect.channel = 0
                  match expanded.1 with
                  | [] =>
                      let ran := settings.any (fun setting => hasOutput setting.2) ||
                        words.any hasOutput
                      afterCommand ((expanded.2.reconnect readsOther prepared).done
                        (if ran then prepared.takenStatus else 0))
                  | name :: arguments =>
                      let after := call fuel line (name :: arguments) prepared
                      -- The assignments hold for this command only.
                      let restored := state.withOld (settings.map Prod.fst) after
                      if name = "exec".toList && arguments.isEmpty then restored
                      else afterCommand (expanded.2.reconnect readsOther restored)
      | .pipe left right =>
          let first := run fuel left { state with output := [], outputSink := .output }
          let between : State :=
            { state.rejoin first with output := state.output, input := first.output }
          if between.flow ≠ .goesOn then between
          else afterCommand { between.rejoin (run fuel right between) with input := first.input }
      | .both left right =>
          let first := answered state (run fuel left (asking state))
          if first.flow ≠ .goesOn || first.status != 0 then first else run fuel right first
      | .either left right =>
          let first := answered state (run fuel left (asking state))
          if first.flow ≠ .goesOn || first.status == 0 then first else run fuel right first
      | .negated command =>
          let after := answered state (run fuel command (asking state))
          if after.flow ≠ .goesOn then after else after.done (if after.status = 0 then 1 else 0)
      | .inOrder first second =>
          let after := run fuel first state
          if after.flow ≠ .goesOn then after else run fuel second after
      | .choice condition consequence alternative =>
          let tested := answered state (run fuel condition (asking state))
          if tested.flow ≠ .goesOn then tested
          else if tested.status = 0 then run fuel consequence tested
          else
            match alternative with
            | .nothing => tested.done 0
            | other => run fuel other tested
      | .repeated whileFails condition body => repeatLoop fuel whileFails condition body 0 state
      | .forEach name words body =>
          let found := match words with
            | none => (state.arguments, state)
            | some words => expandWords fuel words state
          if found.2.flow ≠ .goesOn then found.2 else forLoopOver fuel name body found.1
            (found.2.done 0)
      | .select subject branches =>
          let found := expandWord fuel subject state
          if found.2.flow ≠ .goesOn then found.2
          else selectBranch fuel (joined found.1) branches found.2
      | .redirected line body redirects =>
          match connectAll fuel line redirects state with
          | (false, failed) => (state.reconnect true failed).done 2
          | (true, connected) =>
              state.reconnect (redirects.any fun redirect => redirect.channel = 0)
                (run fuel body connected)
      | .isolated body => afterCommand (state.rejoin (run fuel body state))
      | .define name body => { state with named := (name, body) :: state.named }.done 0

/-- Repeats a loop; `last` is the status of its last round. -/
def repeatLoop : Nat → Bool → Command → Command → Nat → State → State
  | 0, _, _, _, _, state => { state with flow := .exits 2 }
  | fuel + 1, whileFails, condition, body, last, state =>
      let tested := answered state (run fuel condition (asking state))
      match tested.flow with
      | .breaks => { tested with status := last, flow := .goesOn }
      | .goesOn =>
          if (tested.status == 0) == whileFails then tested.done last
          else
            let after := run fuel body tested
            match after.flow with
            | .goesOn | .continues =>
                repeatLoop fuel whileFails condition body after.status
                  { after with flow := .goesOn }
            | .breaks => { after with flow := .goesOn }
            | _ => after
      | _ => tested

def forLoopOver : Nat → Raw → Command → List Raw → State → State
  | 0, _, _, _, state => { state with flow := .exits 2 }
  | _ + 1, _, _, [], state => state
  | fuel + 1, name, body, value :: values, state =>
      let after := run fuel body (state.assign name value)
      match after.flow with
      | .goesOn | .continues => forLoopOver fuel name body values { after with flow := .goesOn }
      | .breaks => { after with flow := .goesOn }
      | _ => after

/-- Runs the first branch with a pattern that matches. -/
def selectBranch : Nat → Raw → List (List Word × Command) → State → State
  | 0, _, _, state => { state with flow := .exits 2 }
  | _ + 1, _, [], state => state.done 0
  | fuel + 1, subject, (patterns, body) :: branches, state =>
      let tried := matchesSome fuel subject patterns state
      if tried.1 then
        match body with
        | .nothing => tried.2.done 0
        | other => run fuel other tried.2
      else selectBranch fuel subject branches tried.2

def matchesSome : Nat → Raw → List Word → State → Bool × State
  | 0, _, _, state => (false, state)
  | _ + 1, _, [], state => (false, state)
  | fuel + 1, subject, pattern :: patterns, state =>
      let found := expandWord fuel pattern state
      if Glob.matchesAll (globOf found.1) subject then (true, found.2)
      else matchesSome fuel subject patterns found.2

end

/-! ## Starting a program -/

inductive Ending where
  | exited (status : Nat)
  | killed (signal : Nat)
  deriving Repr, DecidableEq

/-- What has come of a program. -/
structure Outcome where
  output : Bytes
  errors : Bytes
  ending : Ending
  deriving Repr, DecidableEq

/-- The depth and the number of rounds that scripts may have. -/
def runFuel : Nat := 100000

def startingState (machine : Machine) : State where
  machine := machine
  name := []
  arguments := []
  line := 1
  bindings := []
  named := []
  exitsOnFailure := false
  asks := false
  status := 0
  takenStatus := 0
  input := []
  outputSink := .output
  errorSink := .errors
  output := []
  errors := []
  flow := .goesOn

/-- The path of the program that a name stands for. A name without a slash is looked up in the
directories for programs. -/
def programPath (machine : Machine) (program : Text) : Except FileError Text :=
  if program.contains '/' then .ok program
  else
    match findProgram? machine (ofText program) with
    | some path => .ok (toText path)
    | none =>
        -- What stands there but cannot be run is only blamed if nothing better is found.
        if machine.searchPath.any fun directory =>
            machine.isPresent (Path.join directory program) then .error .denied
        else .error .notFound

/-- Starts a program in a directory and waits for its end. A relative path of the program is seen
from that directory. -/
def start (program : Text) (arguments : List Text) (directory : Text) : Operation Outcome :=
  fun machine =>
    match machine.find directory with
    | .error error => (.error error, machine)
    | .ok (.absent _ _) => (.error .notFound, machine)
    | .ok (.present location .directory) =>
        let there := { machine with here := location }
        match programPath there program with
        | .error error => (.error error, machine)
        | .ok path =>
            match execute runFuel (ofText path) (arguments.map ofText) (startingState there) with
            | .error error => (.error error, machine)
            | .ok after =>
                (.ok {
                    output := toBytes after.output
                    errors := toBytes after.errors
                    ending := match after.flow with
                      | .exits status | .returns status => .exited status
                      | .killed signal => .killed signal
                      | _ => .exited after.status },
                  machine.withFiles after.machine.files)
    | .ok (.present _ _) => (.error .notDirectory, machine)

end DocCheck.Shell
