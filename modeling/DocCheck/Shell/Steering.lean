import DocCheck.Shell.Channel
import DocCheck.Shell.Program

/-!
The commands that steer the shell: they end it or a loop, change its arguments, its variables, its
directory, or the way it deals with failures.
-/

namespace DocCheck.Shell.Program

/-- How the shell goes on at the end of a script or of a named command. -/
def leave (name : Raw) (status : Nat) : Flow :=
  if name = "return".toList then .returns status else .exits status

/-- Ends the script, or the named command, with a status. -/
def leaving (name : Raw) (line : Nat) (arguments : List Raw) (state : State) : State :=
  match arguments with
  | [] => { state with flow := leave name state.status }
  | text :: _ =>
      if text.all Text.isAsciiDigit && !text.isEmpty then
        { state with flow := leave name (Text.decimalValue text % 256) }
      else
        { state.report line (name ++ ": Illegal number: ".toList ++ text) with flow := .exits 2 }

def shift (line : Nat) (arguments : List Raw) (state : State) : State :=
  let count := match arguments with
    | [] => 1
    | text :: _ => (number text).toNat
  if state.arguments.length < count then
    { state.report line "shift: can't shift that many".toList with flow := .exits 2 }
  else { state with arguments := state.arguments.drop count }.done 0

def changeDirectory (line : Nat) (arguments : List Raw) (state : State) : State :=
  let path := arguments.head?.getD []
  if state.machine.isDirectory (toText path) then
    match state.machine.location (toText path) with
    | .ok location => { state with machine := { state.machine with here := location } }.done 0
    | .error _ => state.done 2
  else (state.report line ("cd: can't cd to ".toList ++ path)).done 2

/-- Sets the variables that are given with values. -/
def setVariables (_line : Nat) (arguments : List Raw) (state : State) : State :=
  (arguments.foldl
    (fun state argument =>
      match Text.splitOnce? ['='] argument with
      | some (name, value) => state.assign name value
      | none => state)
    state).done 0

/-- Whether the shell ends when a command fails, after some options. -/
def exitsAfter (options : List Raw) (exits : Bool) : Bool :=
  options.foldl
    (fun exits option =>
      match option with
      | '-' :: letters => exits || letters.contains 'e'
      | '+' :: letters => exits && !letters.contains 'e'
      | _ => exits)
    exits

/-- Sets options and the arguments of the script. -/
def set (_line : Nat) (arguments : List Raw) (state : State) : State :=
  if arguments.head? == some "--".toList then
    { state with arguments := arguments.drop 1 }.done 0
  else
    let options := arguments.takeWhile fun argument =>
      argument.head? == some '-' || argument.head? == some '+'
    let rest := arguments.drop options.length
    let switched := { state with exitsOnFailure := exitsAfter options state.exitsOnFailure }
    (if rest.isEmpty then switched else { switched with arguments := rest }).done 0

/-- The commands that steer the shell; they are told the line they stand on. -/
def steering? (name : Raw) : Option (Nat → List Raw → State → State) :=
  match String.ofList name with
  | "exit" | "return" => some (leaving name)
  | "break" => some fun _ _ state => { state with status := 0, flow := .breaks }
  | "continue" => some fun _ _ state => { state with status := 0, flow := .continues }
  | "shift" => some shift
  | "cd" => some changeDirectory
  | "export" | "readonly" | "local" => some setVariables
  | "set" => some set
  | _ => none

end DocCheck.Shell.Program
