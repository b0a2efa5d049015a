import DocCheck.Shell.Command
import DocCheck.Text.Digit
import DocCheck.Text.Word

/-!
Reading shell scripts. A word is first cut out of the script with all that its quotes and brackets
enclose, and then taken apart. Readers return what they read and the rest, and have a fuel that the
length of the script bounds.
-/

namespace DocCheck.Shell

/-! ## Characters -/

def isGap (c : Char) : Bool :=
  c = ' ' || c = '\t'

def endsToken (c : Char) : Bool :=
  isGap c || c = '\n' || c = ';' || c = '&' || c = '|' || c = '<' || c = '>' || c = '(' || c = ')'

def startsName (c : Char) : Bool :=
  Text.isAsciiLetter c || c = '_'

def isNameChar (c : Char) : Bool :=
  Text.isAsciiWord c

/-- A parameter that is named by one sign. -/
def isSpecial (c : Char) : Bool :=
  c = '?' || c = '#' || c = '*' || c = '@' || c = '$' || c = '!' || c = '-'

def backtick : Char := '\x60'

def openBrace : Char := '\x7b'

def closeBrace : Char := '\x7d'

/-! ## Cutting out words -/

/-- The number of characters up to the end of a word. `closers` holds the characters that close what
is open, innermost first; with nothing open, `ends` tells where the word ends. -/
def extent (ends : Char → Bool) (closers : List Char) (afterDollar escaped : Bool) : Raw → Nat
  | [] => 0
  | c :: rest =>
      if escaped then extent ends closers false false rest + 1
      else
        match closers with
        | [] =>
            if ends c && !(afterDollar && c = '(') then 0
            else if c = '\\' then extent ends [] false true rest + 1
            else if c = '\'' || c = '"' || c = backtick then extent ends [c] false false rest + 1
            else if afterDollar && c = '(' then extent ends [')'] false false rest + 1
            else if afterDollar && c = openBrace then
              extent ends [closeBrace] false false rest + 1
            else extent ends [] (c = '$') false rest + 1
        | closer :: outer =>
            if c = closer then extent ends outer false false rest + 1
            else if closer = '\'' then extent ends closers false false rest + 1
            else if c = '\\' then extent ends closers false true rest + 1
            else if c = '"' || c = backtick then
              extent ends (c :: closers) false false rest + 1
            else if c = '\'' && closer != '"' then
              extent ends (c :: closers) false false rest + 1
            else if c = '(' && (afterDollar || closer = ')') then
              extent ends (')' :: closers) false false rest + 1
            else if afterDollar && c = openBrace then
              extent ends (closeBrace :: closers) false false rest + 1
            else extent ends closers (c = '$') false rest + 1

/-- Cuts a text before and behind the character that closes what has just been opened. -/
def enclosed (closer : Char) (text : Raw) : Raw × Raw :=
  let width := extent (fun _ => true) [closer] false false text
  let taken := text.take width
  (if taken.getLast? == some closer then taken.dropLast else taken, text.drop width)

/-! ## Taking words apart -/

/-- Plain characters up to the next one with a meaning. -/
def plainRun (inDouble : Bool) (text : Raw) : Raw :=
  text.takeWhile fun c =>
    c != '$' && c != '\\' && c != backtick && c != '"' && (inDouble || c != '\'')

def parameterName (text : Raw) : Raw :=
  match text with
  | [] => []
  | c :: _ =>
      if startsName c then text.takeWhile isNameChar
      else if Text.isAsciiDigit c || isSpecial c then [c]
      else []

mutual

/-- The parts of a word, or of a text between double quotes. -/
def parts : Nat → Bool → Raw → Word
  | 0, _, _ => []
  | _ + 1, _, [] => []
  | fuel + 1, inDouble, c :: rest =>
      if c = '$' then
        let found := dollar fuel inDouble rest
        found.1 :: parts fuel inDouble found.2
      else if c = backtick then
        let inner := enclosed backtick rest
        .output inner.1 inDouble :: parts fuel inDouble inner.2
      else if c = '\\' then
        match rest with
        | [] => [.literal ['\\'] true]
        | next :: after =>
            if next = '\n' then parts fuel inDouble after
            else if inDouble && next != '$' && next != '"' && next != '\\' && next != backtick then
              .literal ['\\', next] true :: parts fuel inDouble after
            else .literal [next] true :: parts fuel inDouble after
      else if c = '"' then
        let inner := enclosed '"' rest
        .literal [] true :: parts fuel true inner.1 ++ parts fuel inDouble inner.2
      else if c = '\'' && !inDouble then
        let inner := rest.takeWhile (· != '\'')
        .literal inner true :: parts fuel inDouble (rest.drop (inner.length + 1))
      else
        let run := plainRun inDouble (c :: rest)
        .literal run inDouble :: parts fuel inDouble ((c :: rest).drop run.length)

def dollar : Nat → Bool → Raw → Part × Raw
  | 0, _, text => (.literal ['$'] true, text)
  | fuel + 1, inDouble, text =>
      match text with
      | '(' :: '(' :: rest =>
          let inner := enclosed ')' rest
          (.arithmetic (parts fuel true inner.1), inner.2.drop 1)
      | '(' :: rest =>
          let inner := enclosed ')' rest
          (.output inner.1 inDouble, inner.2)
      | '\x7b' :: rest =>
          let inner := enclosed closeBrace rest
          (braced fuel inDouble inner.1, inner.2)
      | _ =>
          let name := parameterName text
          if name.isEmpty then (.literal ['$'] true, text)
          else (.parameter name inDouble, text.drop name.length)

def braced : Nat → Bool → Raw → Part
  | 0, _, _ => .literal [] true
  | fuel + 1, inDouble, text =>
      match text with
      | '#' :: c :: rest => .size (parameterName (c :: rest))
      | _ =>
          let name := parameterName text
          match text.drop name.length with
          | '#' :: '#' :: pattern => .trimmed name false true (parts fuel false pattern) inDouble
          | '#' :: pattern => .trimmed name false false (parts fuel false pattern) inDouble
          | '%' :: '%' :: pattern => .trimmed name true true (parts fuel false pattern) inDouble
          | '%' :: pattern => .trimmed name true false (parts fuel false pattern) inDouble
          | ':' :: kind :: word => .alternative name kind true (parts fuel inDouble word) inDouble
          | kind :: word => .alternative name kind false (parts fuel inDouble word) inDouble
          | [] => .parameter name inDouble

end

def wordOf (raw : Raw) : Word :=
  parts (2 * raw.length + 2) false raw

/-! ## Between words -/

/-- What follows blanks, escaped line ends and a comment. -/
def skipGaps : Raw → Raw
  | [] => []
  | c :: rest =>
      if isGap c then skipGaps rest
      else
        match c, rest with
        | '\\', '\n' :: after => skipGaps after
        | '#', _ => rest.dropWhile (· != '\n')
        | _, _ => c :: rest

/-- What follows blanks, comments and line ends; `fuel` bounds their number. -/
def skipLinesWithin : Nat → Raw → Raw
  | 0, text => text
  | fuel + 1, text =>
      match skipGaps text with
      | '\n' :: rest => skipLinesWithin fuel rest
      | other => other

def skipLines (text : Raw) : Raw :=
  skipLinesWithin (text.length + 1) text

def keyword? (word : String) (text : Raw) : Option Raw :=
  match List.isPrefixOf? word.toList text with
  | some [] => some []
  | some (c :: rest) => if endsToken c then some (c :: rest) else none
  | none => none

/-- Words that end a list of commands. -/
def closingWords : List String :=
  ["then", "do", "done", "fi", "else", "elif", "esac", "\x7d"]

def atListEnd (text : Raw) : Bool :=
  text.isEmpty || text.head? == some ')' || List.isPrefixOf [';', ';'] text ||
    closingWords.any fun word => (keyword? word text).isSome

def word? (text : Raw) : Option (Raw × Raw) :=
  let width := extent endsToken [] false false text
  if width = 0 then none else some (text.take width, text.drop width)

def redirect? (text : Raw) : Option (Redirect × Raw) :=
  let digits := text.takeWhile Text.isAsciiDigit
  let made (mode : RedirectMode) (usual : Nat) (rest : Raw) : Option (Redirect × Raw) :=
    match word? (skipGaps rest) with
    | some (raw, rest) =>
        some (⟨if digits.isEmpty then usual else Text.decimalValue digits, mode, wordOf raw⟩, rest)
    | none => none
  match text.drop digits.length with
  | '>' :: '>' :: rest => made .append 1 rest
  | '>' :: '&' :: rest => made .same 1 rest
  | '>' :: '|' :: rest => made .write 1 rest
  | '>' :: rest => made .write 1 rest
  | '<' :: '&' :: rest => made .same 0 rest
  | '<' :: '<' :: rest => made .given 0 rest
  | '<' :: rest => made .read 0 rest
  | _ => none

def redirects : Nat → Raw → List Redirect × Raw
  | 0, text => ([], text)
  | fuel + 1, text =>
      match redirect? (skipGaps text) with
      | some (redirect, rest) =>
          let more := redirects fuel rest
          (redirect :: more.1, more.2)
      | none => ([], text)

/-- A name and the word that it is set to. -/
def setting? (raw : Raw) : Option (Raw × Word) :=
  let name := raw.takeWhile isNameChar
  match name, raw.drop name.length with
  | first :: _, '=' :: value => if startsName first then some (name, wordOf value) else none
  | _, _ => none

/-- What makes up a simple command. -/
structure Simple where
  settings : List (Raw × Word)
  words : List Word
  redirects : List Redirect

/-- The assignments, words and redirections of a simple command; `fuel` bounds their number. -/
def simpleParts : Nat → Bool → Raw → Simple × Raw
  | 0, _, text => (⟨[], [], []⟩, text)
  | fuel + 1, named, text =>
      let spaced := skipGaps text
      match redirect? spaced with
      | some (redirect, rest) =>
          let more := simpleParts fuel named rest
          ({ more.1 with redirects := redirect :: more.1.redirects }, more.2)
      | none =>
          match word? spaced with
          | none => (⟨[], [], []⟩, spaced)
          | some (raw, rest) =>
              match if named then none else setting? raw with
              | some setting =>
                  let more := simpleParts fuel named rest
                  ({ more.1 with settings := setting :: more.1.settings }, more.2)
              | none =>
                  let more := simpleParts fuel true rest
                  ({ more.1 with words := wordOf raw :: more.1.words }, more.2)

def simpleCommand? (line : Nat) (text : Raw) : Option (Command × Raw) :=
  let found := simpleParts (text.length + 1) false text
  if found.1.settings.isEmpty && found.1.words.isEmpty && found.1.redirects.isEmpty then none
  else some (.simple line found.1.settings found.1.words found.1.redirects, found.2)

/-- Words up to the end of the line or a semicolon; `fuel` bounds their number. -/
def wordList : Nat → Raw → List Word × Raw
  | 0, text => ([], text)
  | fuel + 1, text =>
      match word? (skipGaps text) with
      | some (raw, rest) =>
          let more := wordList fuel rest
          (wordOf raw :: more.1, more.2)
      | none => ([], skipGaps text)

/-- The patterns of a branch, up to the parenthesis behind them; `fuel` bounds their number. -/
def branchPatterns : Nat → Raw → Option (List Word × Raw)
  | 0, _ => none
  | fuel + 1, text =>
      match word? (skipGaps text) with
      | none => none
      | some (raw, rest) =>
          match skipGaps rest with
          | ')' :: rest => some ([wordOf raw], rest)
          | '|' :: rest =>
              (branchPatterns fuel rest).map fun more => (wordOf raw :: more.1, more.2)
          | _ => none

/-- A name that is given to a command, with the parentheses behind it. -/
def definedName? (text : Raw) : Option (Raw × Raw) :=
  match word? text with
  | none => none
  | some (name, rest) =>
      if !name.all isNameChar then none
      else
        match skipGaps rest with
        | '(' :: rest =>
            match skipGaps rest with
            | ')' :: rest => some (name, rest)
            | _ => none
        | _ => none

/-! ## Text given in the script -/

/-- The lines up to one that consists of a mark, and the lines after it. -/
def linesUpTo (mark : Raw) (trims : Bool) : List Raw → List Raw × List Raw
  | [] => ([], [])
  | line :: rest =>
      let line := if trims then line.dropWhile (· == '\t') else line
      if line = mark then ([], rest)
      else
        let more := linesUpTo mark trims rest
        (line :: more.1, more.2)

/-- A text between quotes that stands for lines: between double ones if they are to be expanded. -/
def quotedLines (expands : Bool) (lines : List Raw) : Raw :=
  let text := lines.flatMap fun line => line ++ ['\n']
  if expands then
    '"' :: (text.flatMap fun c => if c = '"' then ['\\', '"'] else [c]) ++ ['"']
  else
    '\'' :: (text.flatMap fun c => if c = '\'' then "'\\''".toList else [c]) ++ ['\'']

/-- Moves the lines that follow a line with `<<` and a mark to the place of the mark; `fuel` bounds
the number of lines. -/
def gatherLines : Nat → List Raw → List Raw
  | 0, lines => lines
  | _ + 1, [] => []
  | fuel + 1, line :: rest =>
      match Text.splitOnce? ['<', '<'] line with
      | none => line :: gatherLines fuel rest
      | some (before, after) =>
          let trims := after.head? == some '-'
          match word? (skipGaps (if trims then after.drop 1 else after)) with
          | none => line :: gatherLines fuel rest
          | some (raw, behind) =>
              let isQuote := fun c => c = '\'' || c = '"' || c = '\\'
              let found := linesUpTo (raw.filter fun c => !isQuote c) trims rest
              let given := quotedLines (!raw.any isQuote) found.1
              (before ++ "<<".toList ++ given ++ behind) :: gatherLines fuel found.2

/-- A script with the texts given in it at the places that they are given to. -/
def gathered (text : Raw) : Raw :=
  if Text.occursIn ['<', '<'] text then
    let lines := Text.splitAt '\n' text
    Text.joinWith ['\n'] (gatherLines lines.length lines)
  else text

/-! ## Commands -/

/-- The number of the line that `text`, the rest of a script of so many lines, begins on. -/
def lineOf (lines : Nat) (text : Raw) : Nat :=
  lines - text.count '\n'

mutual

/-- Commands up to a word or sign that ends the list. -/
def commandList (lines : Nat) : Nat → Raw → Option (Command × Raw)
  | 0, _ => none
  | fuel + 1, text =>
      let start := skipLines text
      if atListEnd start then some (.nothing, start)
      else
        match andOr lines fuel start with
        | none => none
        | some (first, rest) =>
            match skipGaps rest with
            | ';' :: ';' :: rest => some (first, ';' :: ';' :: rest)
            | c :: rest =>
                if c = ';' || c = '\n' || c = '&' then
                  (commandList lines fuel rest).map fun more => (.inOrder first more.1, more.2)
                else some (first, c :: rest)
            | [] => some (first, [])

/-- Pipelines joined by `&&` and `||`. -/
def andOr (lines : Nat) : Nat → Raw → Option (Command × Raw)
  | 0, _ => none
  | fuel + 1, text =>
      match pipeline lines fuel text with
      | none => none
      | some (first, rest) => andOrMore lines fuel first rest

def andOrMore (lines : Nat) : Nat → Command → Raw → Option (Command × Raw)
  | 0, _, _ => none
  | fuel + 1, first, text =>
      match skipGaps text with
      | '&' :: '&' :: rest =>
          match pipeline lines fuel (skipLines rest) with
          | none => none
          | some (second, rest) => andOrMore lines fuel (.both first second) rest
      | '|' :: '|' :: rest =>
          match pipeline lines fuel (skipLines rest) with
          | none => none
          | some (second, rest) => andOrMore lines fuel (.either first second) rest
      | other => some (first, other)

/-- Commands joined by `|`, perhaps negated. -/
def pipeline (lines : Nat) : Nat → Raw → Option (Command × Raw)
  | 0, _ => none
  | fuel + 1, text =>
      match keyword? "!" text with
      | some rest =>
          (pipeline lines fuel (skipGaps rest)).map fun found => (.negated found.1, found.2)
      | none =>
          match command lines fuel text with
          | none => none
          | some (first, rest) =>
              match skipGaps rest with
              | '|' :: '|' :: rest => some (first, '|' :: '|' :: rest)
              | '|' :: rest =>
                  (pipeline lines fuel (skipLines rest)).map fun found =>
                    (.pipe first found.1, found.2)
              | other => some (first, other)

def command (lines : Nat) : Nat → Raw → Option (Command × Raw)
  | 0, _ => none
  | fuel + 1, text =>
      match compound lines fuel text with
      | some (body, rest) =>
          let found := redirects (rest.length + 1) rest
          if found.1.isEmpty then some (body, rest)
          else some (.redirected (lineOf lines text) body found.1, found.2)
      | none =>
          match definedName? text with
          | some (name, rest) =>
              (command lines fuel (skipLines rest)).map fun found =>
                (.define name found.1, found.2)
          | none => simpleCommand? (lineOf lines text) text

/-- A command that a keyword or a parenthesis begins. -/
def compound (lines : Nat) : Nat → Raw → Option (Command × Raw)
  | 0, _ => none
  | fuel + 1, text =>
      match text with
      | '(' :: rest =>
          match commandList lines fuel rest with
          | some (body, ')' :: rest) => some (.isolated body, rest)
          | _ => none
      | _ =>
          match keyword? "\x7b" text with
          | some rest =>
              match commandList lines fuel rest with
              | some (body, rest) => (keyword? "\x7d" rest).map fun rest => (body, rest)
              | none => none
          | none =>
              match keyword? "if" text with
              | some rest => branch lines fuel rest
              | none =>
                  match keyword? "while" text with
                  | some rest => loop lines fuel false rest
                  | none =>
                      match keyword? "until" text with
                      | some rest => loop lines fuel true rest
                      | none =>
                          match keyword? "for" text with
                          | some rest => forLoop lines fuel rest
                          | none =>
                              match keyword? "case" text with
                              | some rest => selection lines fuel rest
                              | none => none

/-- A condition, what is done if it holds, and what is done otherwise. -/
def branch (lines : Nat) : Nat → Raw → Option (Command × Raw)
  | 0, _ => none
  | fuel + 1, text => do
      let (condition, rest) ← commandList lines fuel text
      let rest ← keyword? "then" rest
      let (consequence, rest) ← commandList lines fuel rest
      match keyword? "elif" rest with
      | some rest =>
          let (alternative, rest) ← branch lines fuel rest
          pure (.choice condition consequence alternative, rest)
      | none =>
          match keyword? "else" rest with
          | some rest =>
              let (alternative, rest) ← commandList lines fuel rest
              let rest ← keyword? "fi" rest
              pure (.choice condition consequence alternative, rest)
          | none =>
              let rest ← keyword? "fi" rest
              pure (.choice condition consequence .nothing, rest)

def loop (lines : Nat) : Nat → Bool → Raw → Option (Command × Raw)
  | 0, _, _ => none
  | fuel + 1, whileFails, text => do
      let (condition, rest) ← commandList lines fuel text
      let rest ← keyword? "do" rest
      let (body, rest) ← commandList lines fuel rest
      let rest ← keyword? "done" rest
      pure (.repeated whileFails condition body, rest)

def forLoop (lines : Nat) : Nat → Raw → Option (Command × Raw)
  | 0, _ => none
  | fuel + 1, text => do
      let (name, rest) ← word? (skipGaps text)
      let listed := (keyword? "in" (skipLines rest)).map fun rest =>
        wordList (rest.length + 1) rest
      let rest := match listed with
        | some found => found.2
        | none => rest
      let rest := match skipGaps rest with
        | ';' :: rest => rest
        | other => other
      let rest ← keyword? "do" (skipLines rest)
      let (body, rest) ← commandList lines fuel rest
      let rest ← keyword? "done" rest
      pure (.forEach name (listed.map Prod.fst) body, rest)

def selection (lines : Nat) : Nat → Raw → Option (Command × Raw)
  | 0, _ => none
  | fuel + 1, text => do
      let (subject, rest) ← word? (skipGaps text)
      let rest ← keyword? "in" (skipLines rest)
      let (branches, rest) ← selectionBranches lines fuel rest
      pure (.select (wordOf subject) branches, rest)

def selectionBranches (lines : Nat) : Nat → Raw → Option (List (List Word × Command) × Raw)
  | 0, _ => none
  | fuel + 1, text =>
      let start := skipLines text
      match keyword? "esac" start with
      | some rest => some ([], rest)
      | none => do
          let opened := match start with
            | '(' :: rest => rest
            | other => other
          let (patterns, rest) ← branchPatterns (opened.length + 1) opened
          let (body, rest) ← commandList lines fuel rest
          let rest := match skipLines rest with
            | ';' :: ';' :: rest => rest
            | other => other
          let (more, rest) ← selectionBranches lines fuel rest
          pure ((patterns, body) :: more, rest)

end

def script? (source : Raw) : Option Command :=
  let text := gathered source
  match commandList (text.count '\n' + 1) (20 * text.length + 20) text with
  | some (body, []) => some body
  | _ => none

end DocCheck.Shell
