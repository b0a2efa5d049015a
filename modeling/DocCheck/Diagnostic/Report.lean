import DocCheck.Diagnostic.Reference

/-!
The report that the compiler writes when it fails, and the diagnostic that it amounts to. A report
has a line `file(line,column): level code: text` for every fault at a place, and a line
`level code: text` for every other; lines of any other form only count as text.
-/

namespace DocCheck.Diagnostic

inductive ReportLine where
  | located (file line column code : Text)
  | general (code : Text)
  | other
  deriving Repr, DecidableEq

namespace ReportLine

def locatedLevels : List Text :=
  ["error".toList, "warning".toList, "message".toList]

def generalLevels : List Text :=
  ["error".toList, "warning".toList]

/-- The code at the beginning of a text: a level, a space, the code, a colon and a space. -/
def levelAndCode? (levels : List Text) (text : Text) : Option Text :=
  levels.findSome? fun level =>
    match List.isPrefixOf? (level ++ " TS".toList) text with
    | none => none
    | some rest =>
        match digits? rest with
        | some (number, ':' :: ' ' :: _) => some ('T' :: 'S' :: number)
        | _ => none

/-- The digits of line and column and the code, where a text begins with a place and a code. -/
def placed? (text : Text) : Option (Text × Text × Text) :=
  match parenthesised? text with
  | some ((line, column), ':' :: ' ' :: rest) =>
      (levelAndCode? locatedLevels rest).map fun code => (line, column, code)
  | _ => none

/-- The shortest file name, of one character at least, that a place and a code follow. -/
def located? : Text → Option (Text × Text × Text × Text)
  | [] => none
  | c :: rest =>
      match placed? rest with
      | some found => some ([c], found)
      | none => (located? rest).map fun found => (c :: found.1, found.2)

def ofText (line : Text) : ReportLine :=
  match located? line with
  | some (file, lineDigits, columnDigits, code) => .located file lineDigits columnDigits code
  | none =>
      match levelAndCode? generalLevels line with
      | some code => .general code
      | none => .other

/-- The position that a line reports, if its numbers are below `2 ^ 64`. -/
def position? : ReportLine → Option Position
  | .located file line column _ =>
      match Text.parseDecimal? line, Text.parseDecimal? column with
      | some line, some column => some ⟨file, line, column⟩
      | _, _ => none
  | _ => none

/-- The code that a line reports. -/
def code? (line : ReportLine) : Option Text :=
  match line with
  -- A place that cannot be read takes its code with it.
  | .located _ _ _ code => line.position?.map fun _ => code
  | .general code => some code
  | .other => none

end ReportLine

/-- The diagnostic of a compiler that has failed, from what it wrote to its two outputs and the
status that it exited with, if it did exit. -/
def ofReport (stdout stderr : Text) (exitStatus : Option Int) : Diagnostic :=
  let lines := (Text.lines stdout).map ReportLine.ofText
  let positions := lines.filterMap ReportLine.position?
  let codes := lines.filterMap ReportLine.code?
  let output := Text.trimEnd stdout
  let errors := Text.trimEnd stderr
  let detail := if output.isEmpty then errors else output
  let named := withField "name".toList "TSError".toList
    { kind := if codes.isEmpty then .crash else .typeCheck
      message := "Unable to compile TypeScript:\n".toList ++ detail
      detail := detail
      positions := positions
      codes := codes
      extra := [] }
  let exited := match exitStatus with
    | some status => withField "exitCode".toList (toString status).toList named
    | none => named
  if output.isEmpty || errors.isEmpty then exited else withField "stderr".toList errors exited

end DocCheck.Diagnostic
