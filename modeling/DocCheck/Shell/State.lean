import DocCheck.Shell.Arithmetic
import DocCheck.Shell.Pattern

/-!
The state of a shell: the machine it works on, its variables, where its channels go and what has
been written to them, and how it goes on.
-/

namespace DocCheck.Shell

inductive Sink where
  | output
  | errors
  | file (path : Raw)
  | nowhere
  deriving Repr, DecidableEq

/-- How the shell goes on. -/
inductive Flow where
  | goesOn
  | exits (status : Nat)
  | returns (status : Nat)
  | killed (signal : Nat)
  | breaks
  | continues
  deriving Repr, DecidableEq

structure State where
  machine : Machine
  /-- The name that the script was called by. -/
  name : Raw
  arguments : List Raw
  line : Nat
  bindings : List (Raw × Raw)
  /-- Commands that have been given names. -/
  named : List (Raw × Command)
  /-- The shell ends when a command fails. -/
  exitsOnFailure : Bool
  /-- Whether a command succeeds is being asked, so that a failure does not end the shell. -/
  asks : Bool
  status : Nat
  /-- The status of the commands whose output was last taken into a word. -/
  takenStatus : Nat
  input : Raw
  outputSink : Sink
  errorSink : Sink
  output : Raw
  errors : Raw
  flow : Flow

namespace State

def processNumber : Raw := "4242".toList

def assign (name value : Raw) (state : State) : State :=
  { state with bindings := (name, value) :: state.bindings.filter fun stored => stored.1 != name }

def unset (name : Raw) (state : State) : State :=
  { state with bindings := state.bindings.filter fun stored => stored.1 != name }

def parameter? (state : State) (name : Raw) : Option Raw :=
  match name with
  | ['?'] => some (Text.decimal state.status)
  | ['#'] => some (Text.decimal state.arguments.length)
  | ['$'] => some processNumber
  | ['-'] => some []
  | ['!'] => none
  | ['*'] | ['@'] =>
      if state.arguments.isEmpty then none else some (Text.joinWith [' '] state.arguments)
  | _ =>
      match name with
      | c :: _ =>
          if Text.isAsciiDigit c then
            let index := Text.decimalValue name
            if index = 0 then some state.name else state.arguments[index - 1]?
          else if name = "PWD".toList then
            some (ofText (Machine.pathOf state.machine.here))
          else (state.bindings.find? fun stored => stored.1 == name).map Prod.snd
      | [] => none

/-- The value of a parameter, empty if it is not set. -/
def parameter (state : State) (name : Raw) : Raw :=
  (state.parameter? name).getD []

def put (sink : Sink) (text : Raw) (state : State) : State :=
  match sink with
  | .output => { state with output := state.output ++ text }
  | .errors => { state with errors := state.errors ++ text }
  | .nowhere => state
  | .file path =>
      let path := toText path
      match state.machine.readFile path with
      | .ok content =>
          { state with
            machine := (Machine.writeFile path (content ++ toBytes text) state.machine).2 }
      | .error _ => state

def write (text : Raw) (state : State) : State :=
  state.put state.outputSink text

/-- Writes to the standard error output. -/
def complain (text : Raw) (state : State) : State :=
  state.put state.errorSink text

/-- Writes a message of the shell itself. -/
def report (line : Nat) (message : Raw) (state : State) : State :=
  state.complain
    (state.name ++ ": ".toList ++ Text.decimal line ++ ": ".toList ++ message ++ ['\n'])

/-- Ends a command with a status. -/
def done (status : Nat) (state : State) : State :=
  { state with status := status }

/-- The words for an error of the system, without its number. -/
def words (error : FileError) : Raw :=
  match Text.splitOnce? " (os error".toList error.message with
  | some found => found.1
  | none => error.message

def separators (state : State) : Raw :=
  (state.parameter? "IFS".toList).getD [' ', '\t', '\n']

end State

/-! ## Fields -/

/-- A piece of an expanded word. -/
inductive Piece where
  /-- A character; it may separate fields if it comes from an expansion that is not quoted. -/
  | char (c : Char) (isQuoted separates : Bool)
  /-- A field ends here in any case. -/
  | cut
  /-- Quotes that hold nothing, but make a field. -/
  | mark
  deriving Repr, DecidableEq

/-- A field; each character comes with the fact whether it is quoted. -/
abbrev Field := List (Char × Bool)

def Field.text (field : Field) : Raw :=
  field.map Prod.fst

/-- The fields of an expanded word. `current` is the field that has been begun, if one has. -/
def fieldsFrom (separators : Raw) (current : Option Field) : List Piece → List Field
  | [] => current.toList
  | .cut :: rest => current.toList ++ fieldsFrom separators none rest
  | .mark :: rest => fieldsFrom separators (some (current.getD [])) rest
  | .char c isQuoted separates :: rest =>
      if separates && separators.contains c then
        current.toList ++ fieldsFrom separators none rest
      else fieldsFrom separators (some (current.getD [] ++ [(c, isQuoted)])) rest

def joined (pieces : List Piece) : Raw :=
  pieces.filterMap fun piece =>
    match piece with
    | .char c _ _ => some c
    | .cut => some ' '
    | .mark => none

def globOf (pieces : List Piece) : List Glob :=
  Glob.ofChars <| pieces.filterMap fun piece =>
    match piece with
    | .char c isQuoted _ => some (c, isQuoted)
    | _ => none

def piecesOf (isQuoted : Bool) (value : Raw) : List Piece :=
  value.map fun c => .char c isQuoted (!isQuoted)

end DocCheck.Shell
