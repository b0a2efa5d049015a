import DocCheck.Shell.FileMatch
import DocCheck.Text.Quoted

/-!
The programs that scripts call: those that are part of the shell, and the usual ones for files. They
get their arguments and change the state; the status that they end with says whether they succeeded.
-/

namespace DocCheck.Shell.Program

/-! ## Escapes -/

def octalDigit? (c : Char) : Option Nat :=
  if 48 ≤ c.toNat && c.toNat ≤ 55 then some (c.toNat - 48) else none

/-- The character that up to so many octal digits spell, and how many they are. -/
def octal (limit : Nat) (text : Raw) : Nat × Nat :=
  let digits := (text.take limit).takeWhile fun c => (octalDigit? c).isSome
  (digits.foldl (fun value c => 8 * value + (octalDigit? c).getD 0) 0 % 256, digits.length)

/-- The character that a letter after a backslash stands for. -/
def escaped? (c : Char) : Option Char :=
  match c with
  | 'a' => some '\x07'
  | 'b' => some '\x08'
  | 'f' => some '\x0c'
  | 'n' => some '\n'
  | 'r' => some '\r'
  | 't' => some '\t'
  | 'v' => some '\x0b'
  | '\\' => some '\\'
  | _ => none

/-- Replaces escapes; the first component says that one of them ended the text. An octal escape of
`echo` begins with a zero and has three more digits. -/
def unescape (leadingZero : Bool) : Nat → Raw → Bool × Raw
  | 0, text => (false, text)
  | _ + 1, [] => (false, [])
  | fuel + 1, c :: rest =>
      if c != '\\' then
        let more := unescape leadingZero fuel rest
        (more.1, c :: more.2)
      else
        match rest with
        | [] => (false, [c])
        | next :: after =>
            if next = 'c' && leadingZero then (true, [])
            else
              match escaped? next with
              | some replaced =>
                  let more := unescape leadingZero fuel after
                  (more.1, replaced :: more.2)
              | none =>
                  let found :=
                    if leadingZero then
                      if next = '0' then
                        let found := octal 3 after
                        (found.1, found.2 + 1)
                      else (0, 0)
                    else octal 3 rest
                  if found.2 = 0 then
                    let more := unescape leadingZero fuel after
                    (more.1, c :: next :: more.2)
                  else
                    let more := unescape leadingZero fuel (rest.drop found.2)
                    (more.1, Char.ofNat found.1 :: more.2)

/-! ## Writing -/

def echo (arguments : List Raw) (state : State) : State :=
  let silent := arguments.head? == some "-n".toList
  let text := Text.joinWith [' '] (if silent then arguments.drop 1 else arguments)
  let replaced := unescape true (text.length + 1) text
  (state.write (replaced.2 ++ if silent || replaced.1 then [] else ['\n'])).done 0

def number (text : Raw) : Int :=
  Arithmetic.valueOf text

/-- A text in a field of some width. -/
def padded (left : Bool) (zero : Bool) (width : Nat) (text : Raw) : Raw :=
  let fill := List.replicate (width - text.length) (if zero then '0' else ' ')
  if left then text ++ List.replicate (width - text.length) ' ' else fill ++ text

/-- Writes a format once: the text, what is left of the arguments, and whether one was used. -/
def formatOnce : Nat → Raw → List Raw → Raw × List Raw × Bool
  | 0, _, arguments => ([], arguments, false)
  | _ + 1, [], arguments => ([], arguments, false)
  | fuel + 1, c :: rest, arguments =>
      if c != '%' then
        let more := formatOnce fuel rest arguments
        (c :: more.1, more.2)
      else
        let flags := rest.takeWhile fun c => c = '-' || c = '0' || c = '+' || c = ' '
        let rest := rest.drop flags.length
        let width := rest.takeWhile Text.isAsciiDigit
        let rest := rest.drop width.length
        let precision := match rest with
          | '.' :: digits => some (digits.takeWhile Text.isAsciiDigit)
          | _ => none
        let rest := match precision with
          | some digits => rest.drop (digits.length + 1)
          | none => rest
        match rest with
        | [] => (['%'], arguments, false)
        | kind :: rest =>
            if kind = '%' then
              let more := formatOnce fuel rest arguments
              ('%' :: more.1, more.2)
            else
              let argument := arguments.head?.getD []
              let text := match kind with
                | 'd' | 'i' | 'u' => (toString (number argument)).toList
                | 'x' => Text.hexadecimal (number argument).toNat
                | 'o' => Nat.toDigits 8 (number argument).toNat
                | 'c' => argument.take 1
                | 'b' => (unescape true (argument.length + 1) argument).2
                | _ => argument
              let cut := match precision, kind with
                | some digits, 's' => text.take (Text.decimalValue digits)
                | _, _ => text
              let filled := padded (flags.contains '-') (flags.contains '0' && kind != 's')
                (Text.decimalValue width) cut
              let more := formatOnce fuel rest (arguments.drop 1)
              (filled ++ more.1, more.2.1, true)

/-- Writes a format as often as there are arguments for it. -/
def format (text : Raw) : Nat → List Raw → Raw
  | 0, _ => []
  | fuel + 1, arguments =>
      let once := formatOnce (text.length + 1) text arguments
      if once.2.2 && !once.2.1.isEmpty then once.1 ++ format text fuel once.2.1 else once.1

def printf (arguments : List Raw) (state : State) : State :=
  match arguments with
  | [] => (state.complain "usage: printf format [arg ...]\n".toList).done 2
  | text :: values =>
      let replaced := (unescape false (text.length + 1) text).2
      (state.write (format replaced (values.length + 1) values)).done 0

/-! ## Tests -/

def unary (machine : Machine) (sign : Raw) (operand : Raw) : Bool :=
  let path := toText operand
  match String.ofList sign with
  | "-n" => !operand.isEmpty
  | "-z" => operand.isEmpty
  | "-e" => machine.isPresent path
  | "-f" => machine.isFile path
  | "-d" => machine.isDirectory path
  | "-r" | "-w" => machine.isPresent path
  | "-x" => machine.isExecutable path || machine.isDirectory path
  | "-s" =>
      match machine.readFile path with
      | .ok content => !content.isEmpty
      | .error _ => machine.isDirectory path
  | "-h" | "-L" =>
      match machine.findSelf path with
      | .ok (.present _ (.link _)) => true
      | _ => false
  | _ => false

def binary (left sign right : Raw) : Bool :=
  match String.ofList sign with
  | "=" | "==" => left == right
  | "!=" => left != right
  | "-eq" => number left == number right
  | "-ne" => number left != number right
  | "-lt" => number left < number right
  | "-le" => number left ≤ number right
  | "-gt" => number right < number left
  | "-ge" => number right ≤ number left
  | _ => false

/-- Whether a condition holds; `fuel` bounds its operands. -/
def holds (machine : Machine) : Nat → List Raw → Bool
  | 0, _ => false
  | fuel + 1, arguments =>
      match arguments with
      | [] => false
      | [text] => !text.isEmpty
      | [sign, operand] =>
          if sign = ['!'] then !holds machine fuel [operand] else unary machine sign operand
      | [left, sign, right] =>
          if left = ['!'] then !holds machine fuel [sign, right]
          else if sign = "-a".toList then !left.isEmpty && !right.isEmpty
          else if sign = "-o".toList then !left.isEmpty || !right.isEmpty
          else binary left sign right
      | first :: rest =>
          if first = ['!'] then !holds machine fuel rest
          else
            match arguments.findIdx? (· == "-o".toList) with
            | some index =>
                holds machine fuel (arguments.take index) ||
                  holds machine fuel (arguments.drop (index + 1))
            | none =>
                match arguments.findIdx? (· == "-a".toList) with
                | some index =>
                    holds machine fuel (arguments.take index) &&
                      holds machine fuel (arguments.drop (index + 1))
                | none => false

def test (arguments : List Raw) (state : State) : State :=
  state.done (if holds state.machine (arguments.length + 1) arguments then 0 else 1)

/-! ## Reading -/

/-- A line of input without its newline, what is left, and whether a newline ended it. -/
def lineOfInput (input : Raw) : Raw × Raw × Bool :=
  let line := input.takeWhile (· != '\n')
  (line, input.drop (line.length + 1), line.length < input.length)

/-- Cuts a line into as many fields as there are variables; the last one takes the rest. -/
def assignFields (separators : Raw) : List Raw → Raw → State → State
  | [], _, state => state
  | [name], text, state =>
      let isSpace := fun c => separators.contains c && (c = ' ' || c = '\t' || c = '\n')
      state.assign name (Text.dropEndWhile isSpace (text.dropWhile isSpace))
  | name :: names, text, state =>
      let isSpace := fun c => separators.contains c
      let start := text.dropWhile isSpace
      let field := start.takeWhile fun c => !isSpace c
      assignFields separators names (start.drop field.length) (state.assign name field)

def read (arguments : List Raw) (state : State) : State :=
  let raw := arguments.head? == some "-r".toList
  let names := if raw then arguments.drop 1 else arguments
  let found := lineOfInput state.input
  let line := if raw then found.1 else found.1.filter (· != '\\')
  let after := assignFields state.separators names line { state with input := found.2.1 }
  after.done (if found.2.2 then 0 else 1)

/-! ## Signals -/

def signalNames : List (String × Nat) :=
  [("HUP", 1), ("INT", 2), ("QUIT", 3), ("ABRT", 6), ("KILL", 9), ("USR1", 10), ("SEGV", 11),
    ("USR2", 12), ("PIPE", 13), ("ALRM", 14), ("TERM", 15)]

def signalOf (text : Raw) : Nat :=
  if text.all Text.isAsciiDigit then Text.decimalValue text
  else
    let name := (List.isPrefixOf? "SIG".toList text).getD text
    ((signalNames.find? fun row => row.1.toList == name).map Prod.snd).getD 15

/-- Sends a signal; only the shell's own process can be reached. -/
def kill (arguments : List Raw) (state : State) : State :=
  let found := match arguments with
    | ['-', 's'] :: name :: rest => (signalOf name, rest)
    | ('-' :: name) :: rest => (signalOf name, rest)
    | rest => (15, rest)
  if found.2.contains State.processNumber then
    if found.1 = 0 then state.done 0 else { state with status := 0, flow := .killed found.1 }
  else state.done 1

/-! ## Files -/

def fileMessage (program message path : Raw) (error : FileError) : Raw :=
  program ++ ": ".toList ++ message ++ path ++ ": ".toList ++ State.words error ++ ['\n']

def quoted (path : Raw) : Raw :=
  '\'' :: path ++ ['\'']

/-- Does something to every file that is named, and goes on after a failure. -/
def forFiles (program message : Raw) (inQuotes : Bool) (operation : Text → Operation Unit) :
    List Raw → State → State
  | [], state => state
  | path :: paths, state =>
      match operation (toText path) state.machine with
      | (.ok (), machine) =>
          forFiles program message inQuotes operation paths { state with machine := machine }
      | (.error error, machine) =>
          let shown := if inQuotes then quoted path else path
          let failed := ({ state with machine := machine }.complain
            (fileMessage program message shown error)).done 1
          forFiles program message inQuotes operation paths failed

/-- Removes a file, and a directory with all in it if `deep`; what is missing counts as removed if
`forced`. -/
def removal (deep forced : Bool) (path : Text) : Operation Unit := fun machine =>
  let result := match machine.findSelf path with
    | .ok (.present _ .directory) =>
        if deep then Machine.removeTree path machine else (.error .isDirectory, machine)
    | _ => Machine.removeFile path machine
  match result with
  | (.error .notFound, same) => if forced then (.ok (), same) else (.error .notFound, same)
  | other => other

/-- The letters of the options before the arguments, and the arguments. -/
def options (arguments : List Raw) : Raw × List Raw :=
  let isOption := fun (argument : Raw) =>
    argument.head? == some '-' && argument != ['-'] && argument != "--".toList
  let before := arguments.takeWhile isOption
  let rest := arguments.drop before.length
  (before.flatMap fun option => option.drop 1,
    if rest.head? == some "--".toList then rest.drop 1 else rest)

def remove (program : Raw) (arguments : List Raw) (state : State) : State :=
  let found := options arguments
  let deep := found.1.contains 'r' || found.1.contains 'R'
  forFiles program "cannot remove ".toList true (removal deep (found.1.contains 'f')) found.2
    (state.done 0)

def makeDirectories (program : Raw) (arguments : List Raw) (state : State) : State :=
  let found := options arguments
  let operation :=
    if found.1.contains 'p' then Machine.makeDirectories else Machine.makeDirectory
  forFiles program "cannot create directory ".toList true operation found.2 (state.done 0)

def removeDirectories (program : Raw) (arguments : List Raw) (state : State) : State :=
  forFiles program "failed to remove ".toList true Machine.removeDirectory (options arguments).2
    (state.done 0)

/-- Makes files that are missing. -/
def touch (program : Raw) (arguments : List Raw) (state : State) : State :=
  let operation := fun (path : Text) (machine : Machine) =>
    if machine.isPresent path then (.ok (), machine) else Machine.writeFile path [] machine
  forFiles program "cannot touch ".toList true operation (options arguments).2 (state.done 0)

/-- Writes the content of files, or else its input. -/
def concatenate (program : Raw) : List Raw → State → State
  | [], state => state
  | path :: paths, state =>
      if path = ['-'] then
        concatenate program paths ({ state with input := [] }.write state.input)
      else
        match state.machine.readFile (toText path) with
        | .ok content => concatenate program paths (state.write (ofBytes content))
        | .error error =>
            concatenate program paths
              ((state.complain (fileMessage program [] path error)).done 1)

def cat (program : Raw) (arguments : List Raw) (state : State) : State :=
  let files := (options arguments).2
  concatenate program (if files.isEmpty then [['-']] else files) (state.done 0)

/-- Copies a file, to a name or into a directory. -/
def copy (program : Raw) (keep : Bool) (arguments : List Raw) (state : State) : State :=
  match (options arguments).2 with
  | [source, target] =>
      let place := toText target
      let name := (Path.fileName? (toText source)).getD []
      let place := if state.machine.isDirectory place then Path.join place name else place
      match state.machine.readFile (toText source) with
      | .error error =>
          (state.complain (fileMessage program "cannot stat ".toList (quoted source) error)).done 1
      | .ok content =>
          match Machine.writeFile place content state.machine with
          | (.error error, machine) =>
              ({ state with machine := machine }.complain
                (fileMessage program "cannot create regular file ".toList (quoted target)
                  error)).done 1
          | (.ok (), machine) =>
              let machine :=
                if keep then machine else (Machine.removeFile (toText source) machine).2
              { state with machine := machine }.done 0
  | _ => state.done 1

def link (program : Raw) (arguments : List Raw) (state : State) : State :=
  let found := options arguments
  match found.2 with
  | [target, path] =>
      let place := toText path
      let name := (Path.fileName? (toText target)).getD []
      let place := if state.machine.isDirectory place then Path.join place name else place
      let ready :=
        if found.1.contains 'f' then (Machine.removeFile place state.machine).2
        else state.machine
      match Machine.makeLink (toText target) place ready with
      | (.ok (), machine) => { state with machine := machine }.done 0
      | (.error error, machine) =>
          ({ state with machine := machine }.complain
            (fileMessage program "failed to create symbolic link ".toList (quoted path)
              error)).done 1
  | _ => state.done 1

def shownNames (machine : Machine) (path : Text) : List Raw :=
  ((namesIn machine path).map ofText |>.filter fun name => name.head? != some '.').mergeSort
    fun left right => !decide (right < left)

/-- Writes the names in a directory, or the path of a file. -/
def list (program : Raw) (arguments : List Raw) (state : State) : State :=
  let paths := (options arguments).2
  let path := paths.head?.getD ['.']
  match state.machine.find (toText path) with
  | .ok (.present _ .directory) =>
      (state.write ((shownNames state.machine (toText path)).flatMap (· ++ ['\n']))).done 0
  | .ok (.present _ _) => (state.write (path ++ ['\n'])).done 0
  | .ok (.absent _ _) =>
      (state.complain (fileMessage program "cannot access ".toList (quoted path) .notFound)).done 2
  | .error error =>
      (state.complain (fileMessage program "cannot access ".toList (quoted path) error)).done 2

/-! ## Names -/

/-- Writes the last name of a path, without an ending if one is given. -/
def lastName (arguments : List Raw) (state : State) : State :=
  match arguments with
  | [] => state.done 1
  | path :: rest =>
      let name := ofText ((Path.fileName? (toText path)).getD (toText path))
      let cut := match rest with
        | ending :: _ =>
            match List.isSuffixOf? ending name with
            | some [] | none => name
            | some stem => stem
        | [] => name
      (state.write (cut ++ ['\n'])).done 0

def directoryName (arguments : List Raw) (state : State) : State :=
  match arguments with
  | [] => state.done 1
  | path :: _ =>
      let directory := match Path.parent? (toText path) with
        | some [] | none => if Path.isAbsolute path then ['/'] else ['.']
        | some parent => parent
      (state.write (ofText directory ++ ['\n'])).done 0

/-! ## Calling programs -/

/-- The programs that the shell has itself, other than those that steer it. -/
def builtin? (name : Raw) : Option (List Raw → State → State) :=
  match String.ofList name with
  | ":" | "true" => some fun _ state => state.done 0
  | "false" => some fun _ state => state.done 1
  | "echo" => some echo
  | "printf" => some printf
  | "test" => some test
  | "[" => some fun arguments state =>
      if arguments.getLast? == some [']'] then test arguments.dropLast state
      else (state.report state.line "[: missing ]".toList).done 2
  | "read" => some read
  | "kill" => some kill
  | "pwd" => some fun _ state =>
      (state.write (ofText (Machine.pathOf state.machine.here) ++ ['\n'])).done 0
  | "unset" => some fun arguments state =>
      (arguments.foldl (fun state name => state.unset name) state).done 0
  | "umask" | "trap" | "wait" | "hash" | "ulimit" | "alias" => some fun _ state =>
      state.done 0
  | _ => none

/-- A program that has no options with long names. -/
def withoutLongOptions (path : Raw) (program : List Raw → State → State) (arguments : List Raw)
    (state : State) : State :=
  let isLong := fun (argument : Raw) => List.isPrefixOf ['-', '-'] argument && 2 < argument.length
  match (arguments.takeWhile (· != ['-', '-'])).find? isLong with
  | none => program arguments state
  | some option =>
      (state.complain (path ++ ": unrecognized option ".toList ++ quoted option ++
        "\nTry ".toList ++ quoted (path ++ " --help".toList) ++
        " for more information.\n".toList)).done 1

def systemDirectories : List String :=
  ["/bin/", "/usr/bin/"]

/-- The usual programs, by their absolute paths. -/
def installed? (path : Raw) : Option (List Raw → State → State) :=
  match systemDirectories.findSome? fun directory => List.isPrefixOf? directory.toList path with
  | none => none
  | some name =>
      match String.ofList name with
      | "cat" => some (withoutLongOptions path (cat path))
      | "rm" => some (withoutLongOptions path (remove path))
      | "mkdir" => some (withoutLongOptions path (makeDirectories path))
      | "rmdir" => some (withoutLongOptions path (removeDirectories path))
      | "touch" => some (withoutLongOptions path (touch path))
      | "cp" => some (withoutLongOptions path (copy path true))
      | "mv" => some (withoutLongOptions path (copy path false))
      | "ln" => some (withoutLongOptions path (link path))
      | "ls" => some (withoutLongOptions path (list path))
      | "basename" => some (withoutLongOptions path lastName)
      | "dirname" => some (withoutLongOptions path directoryName)
      | "sleep" => some fun _ state => state.done 0
      | "true" => some fun _ state => state.done 0
      | "false" => some fun _ state => state.done 1
      | "echo" => some echo
      | "printf" => some printf
      | "test" => some test
      | "kill" => some kill
      | "pwd" => builtin? "pwd".toList
      | _ => none

end DocCheck.Shell.Program
