import DocCheck.Check.Config
import DocCheck.Text.Digit

/-!
The command line. Options and documents may be mixed; an option is given once at most. Arguments are
taken from left to right, and the first one that settles the matter decides: a fault, or the wish to
see the version or the help.
-/

namespace DocCheck.Cli

inductive Format where
  | human
  | json
  deriving Repr, DecidableEq

structure Arguments where
  documents : List Text
  project : Option Text
  compiler : Option Text
  tsconfig : Option Text
  scratchName : Option Text
  jobs : Option Nat
  format : Option Format
  watch : Bool
  verbose : Bool
  deriving Repr, DecidableEq

/-- An option that has a value. -/
inductive Setting where
  | project
  | compiler
  | tsconfig
  | scratchName
  | jobs
  | format
  deriving Repr, DecidableEq

/-- An option without a value. -/
inductive Flag where
  | watch
  | verbose
  | help
  | version
  deriving Repr, DecidableEq

/-- Why the command line is not followed. -/
inductive Stop where
  | rejected
  | help
  | version
  deriving Repr, DecidableEq

namespace Arguments

def none : Arguments :=
  ⟨[], .none, .none, .none, .none, .none, .none, false, false⟩

/-! ## Names -/

def longNames : List (String × (Setting ⊕ Flag)) :=
  [("project", .inl .project), ("tsc", .inl .compiler), ("tsconfig", .inl .tsconfig),
    ("scratch-dir", .inl .scratchName), ("jobs", .inl .jobs), ("format", .inl .format),
    ("watch", .inr .watch), ("verbose", .inr .verbose), ("help", .inr .help),
    ("version", .inr .version)]

def shortNames : List (Char × (Setting ⊕ Flag)) :=
  [('p', .inl .project), ('j', .inl .jobs), ('w', .inr .watch), ('v', .inr .verbose),
    ('h', .inr .help), ('V', .inr .version)]

def ofLongName? (name : Text) : Option (Setting ⊕ Flag) :=
  (longNames.find? fun row => row.1.toList == name).map Prod.snd

def ofShortName? (name : Char) : Option (Setting ⊕ Flag) :=
  (shortNames.find? fun row => row.1 == name).map Prod.snd

/-! ## Values -/

/-- Reads a number below `2 ^ 64`, which may have a plus sign. -/
def number? (text : Text) : Option Nat :=
  Text.parseDecimal? ((List.isPrefixOf? ['+'] text).getD text)

def format? (text : Text) : Option Format :=
  if text = "human".toList then some .human
  else if text = "json".toList then some .json
  else .none

/-- Sets what is not set yet. -/
def once {α : Type} (old : Option α) (value : Option α) : Option (Option α) :=
  match old, value with
  | .none, some value => some (some value)
  | _, _ => .none

/-- A path; there is none without characters. -/
def path? (text : Text) : Option Text :=
  if text.isEmpty then .none else some text

def set (setting : Setting) (value : Text) (arguments : Arguments) : Option Arguments :=
  match setting with
  | .project =>
      (once arguments.project (path? value)).map fun new => { arguments with project := new }
  | .compiler =>
      (once arguments.compiler (path? value)).map fun new => { arguments with compiler := new }
  | .tsconfig =>
      (once arguments.tsconfig (path? value)).map fun new => { arguments with tsconfig := new }
  | .scratchName =>
      (once arguments.scratchName (some value)).map fun new =>
        { arguments with scratchName := new }
  | .jobs =>
      (once arguments.jobs (number? value)).map fun new => { arguments with jobs := new }
  | .format =>
      (once arguments.format (format? value)).map fun new => { arguments with format := new }

/-- Gives an option its value, or rejects it. -/
def setting (setting : Setting) (value : Text) (arguments : Arguments) : Except Stop Arguments :=
  match arguments.set setting value with
  | some arguments => .ok arguments
  | .none => .error .rejected

def flag (flag : Flag) (arguments : Arguments) : Except Stop Arguments :=
  match flag with
  | .watch => if arguments.watch then .error .rejected else .ok { arguments with watch := true }
  | .verbose =>
      if arguments.verbose then .error .rejected else .ok { arguments with verbose := true }
  | .help => .error .help
  | .version => .error .version

def document (path : Text) (arguments : Arguments) : Except Stop Arguments :=
  if path.isEmpty then .error .rejected
  else .ok { arguments with documents := arguments.documents ++ [path] }

/-! ## Reading -/

/-- An option with a long name, without the dashes. The option is returned if its value is still to
come. -/
def long (text : Text) (arguments : Arguments) : Except Stop (Option Setting × Arguments) :=
  let parts := match Text.splitOnce? ['='] text with
    | some (name, value) => (name, some value)
    | .none => (text, .none)
  match ofLongName? parts.1, parts.2 with
  | some (.inl option), some value =>
      (arguments.setting option value).map fun arguments => (.none, arguments)
  | some (.inl option), .none => .ok (some option, arguments)
  | some (.inr option), .none => (arguments.flag option).map fun arguments => (.none, arguments)
  | _, _ => .error .rejected

/-- Options with short names, without the dash. -/
def short : Text → Arguments → Except Stop (Option Setting × Arguments)
  | [], arguments => .ok (.none, arguments)
  | name :: rest, arguments =>
      match ofShortName? name with
      | .none => .error .rejected
      | some (.inr option) =>
          match arguments.flag option with
          | .error stop => .error stop
          | .ok arguments => short rest arguments
      | some (.inl option) =>
          if rest.isEmpty then .ok (some option, arguments)
          else
            -- What follows the name is the value, and no further options.
            let value := (List.isPrefixOf? ['='] rest).getD rest
            (arguments.setting option value).map fun arguments => (.none, arguments)

/-- Reads a command line. `awaiting` is the option whose value comes next. -/
def readFrom (awaiting : Option Setting) (arguments : Arguments) :
    List Text → Except Stop Arguments
  | [] => if awaiting.isSome then .error .rejected else .ok arguments
  | text :: rest =>
      match text with
      | '-' :: '-' :: name =>
          if awaiting.isSome then .error .rejected
          else if name.isEmpty then
            rest.foldlM (fun arguments path => arguments.document path) arguments
          else
            match arguments.long name with
            | .error stop => .error stop
            | .ok (awaiting, arguments) => readFrom awaiting arguments rest
      | '-' :: name :: names =>
          if awaiting.isSome then .error .rejected
          else
            match arguments.short (name :: names) with
            | .error stop => .error stop
            | .ok (awaiting, arguments) => readFrom awaiting arguments rest
      | _ =>
          let taken := match awaiting with
            | some option => arguments.setting option text
            | .none => arguments.document text
          match taken with
          | .error stop => .error stop
          | .ok arguments => readFrom .none arguments rest

def read (texts : List Text) : Except Stop Arguments :=
  readFrom .none none texts

/-! ## Meaning -/

def defaultDocuments : List Text :=
  ["README.md".toList]

def chosenDocuments (arguments : Arguments) : List Text :=
  if arguments.documents.isEmpty then defaultDocuments else arguments.documents

def config (arguments : Arguments) : Config :=
  let usual := Config.ofProject (arguments.project.getD ['.'])
  { usual with
    scratchName := arguments.scratchName.getD usual.scratchName
    tsconfig := arguments.tsconfig.getD usual.tsconfig
    compiler := arguments.compiler
    jobs := arguments.jobs }

def chosenFormat (arguments : Arguments) : Format :=
  arguments.format.getD .human

end Arguments

end DocCheck.Cli
