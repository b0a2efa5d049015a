import DocCheck.Shell.State

/-!
Connecting the channels of a shell, and what a part of a script that runs on its own leaves behind.
-/

namespace DocCheck.Shell.State

def openingWords (forReading : Bool) (error : FileError) : Raw :=
  if error = .notFound || error = .notDirectory then
    (if forReading then "No such file" else "Directory nonexistent").toList
  else words error

def withSink (channel : Nat) (sink : Sink) (state : State) : State :=
  match channel with
  | 1 => { state with outputSink := sink }
  | 2 => { state with errorSink := sink }
  | _ => state

/-- Where a path leads that stands for a channel. -/
def device? (state : State) (path : Raw) : Option Sink :=
  match String.ofList path with
  | "/dev/null" => some .nowhere
  | "/dev/stdout" | "/dev/fd/1" => some state.outputSink
  | "/dev/stderr" | "/dev/fd/2" => some state.errorSink
  | _ => none

/-- Connects a channel to where another one goes, or to nothing. -/
def join (channel : Nat) (target : Raw) (state : State) : State :=
  match target with
  | ['1'] => state.withSink channel state.outputSink
  | ['2'] => state.withSink channel state.errorSink
  | ['0'] => state
  | _ => if channel = 0 then { state with input := [] } else state.withSink channel .nowhere

/-- Reads a channel from a file. The first component says whether that succeeds. -/
def readFrom (line channel : Nat) (path : Raw) (state : State) : Bool × State :=
  if (state.device? path).isSome then (true, { state with input := [] })
  else
    match state.machine.readFile (toText path) with
    | .ok content =>
        (true, if channel = 0 then { state with input := ofBytes content } else state)
    | .error error =>
        (false, state.report line
          ("cannot open ".toList ++ path ++ ": ".toList ++ openingWords true error))

/-- Writes a channel to a file, behind what it holds if `keep`. -/
def writeTo (line channel : Nat) (keep : Bool) (path : Raw) (state : State) : Bool × State :=
  match state.device? path with
  | some sink => (true, state.withSink channel sink)
  | none =>
      let content := match keep, state.machine.readFile (toText path) with
        | true, .ok content => content
        | _, _ => []
      match Machine.writeFile (toText path) content state.machine with
      | (.ok (), machine) =>
          let place := Path.join (Machine.pathOf machine.here) (toText path)
          (true, { state with machine := machine }.withSink channel (.file (ofText place)))
      | (.error error, machine) =>
          (false, { state with machine := machine }.report line
            ("cannot create ".toList ++ path ++ ": ".toList ++ openingWords false error))

def connect (line channel : Nat) (mode : RedirectMode) (target : Raw) (state : State) :
    Bool × State :=
  match mode with
  | .same => (true, state.join channel target)
  | .given => (true, { state with input := target })
  | .read => state.readFrom line channel target
  | .write => state.writeTo line channel false target
  | .append => state.writeTo line channel true target

/-- The channels as they were before a command that had some of its own. -/
def reconnect (before : State) (readsOther : Bool) (after : State) : State :=
  { after with
    outputSink := before.outputSink
    errorSink := before.errorSink
    input := if readsOther then before.input else after.input }

def finalStatus (state : State) : Nat :=
  match state.flow with
  | .exits status | .returns status => status
  | .killed signal => 128 + signal
  | _ => state.status

/-- What is left of a part of a script that has run on its own: its changes to files and what it
has written, but none to the shell. A signal has reached the shell itself. -/
def rejoin (before after : State) : State :=
  { before with
    machine := { after.machine with here := before.machine.here }
    status := after.finalStatus
    input := after.input
    output := after.output
    errors := after.errors
    flow := match after.flow with
      | .killed signal => .killed signal
      | _ => .goesOn }

def startingVariables (machine : Machine) : List (Raw × Raw) :=
  [("PATH".toList, ofText (Text.joinWith [':'] machine.searchPath)),
    ("IFS".toList, [' ', '\t', '\n'])]

/-- A program that is called, with the channels of its caller. -/
def called (name : Raw) (arguments : List Raw) (state : State) : State :=
  { state with
    name := name
    arguments := arguments
    bindings := startingVariables state.machine
    named := []
    exitsOnFailure := false
    asks := false
    status := 0
    flow := .goesOn }

def returned (caller callee : State) : State :=
  { caller.rejoin callee with flow := .goesOn }

def withOld (before : State) (names : List Raw) (after : State) : State :=
  names.foldl
    (fun state name =>
      match before.parameter? name with
      | some value => state.assign name value
      | none => state.unset name)
    after

end DocCheck.Shell.State
