import DocCheck.Check.Block
import DocCheck.Diagnostic.Terminal
import DocCheck.Report.Colour

/-!
The report for people: a line for every block, the code of those that do not compile with the lines
at fault marked, what the compiler says of them, and a summary.
-/

namespace DocCheck.Report

def line (text : Text) : Text :=
  text ++ ['\n']

/-- A text in a colour, or with a weight. -/
def painted (colour text : Text) : Text :=
  colour ++ text ++ Colour.reset

def rule : Text :=
  List.replicate 50 '─'

/-! ## Code -/

/-- A line number in three columns at least. -/
def column (number : Nat) : Text :=
  let digits := Text.decimal number
  List.replicate (3 - digits.length) ' ' ++ digits

def codeLine (atFault : Bool) (number : Nat) (code : Text) : Text :=
  if atFault then
    painted Colour.red ("  > ".toList ++ column number ++ " | ".toList ++ code)
  else
    painted Colour.dim ("    ".toList ++ column number ++ " |".toList) ++ ' ' :: code

/-- Lines of code, numbered onwards from `number`. -/
def codeLines (faults : List Nat) (number : Nat) : List Text → Text
  | [] => []
  | code :: rest =>
      line (codeLine (faults.contains number) number code) ++ codeLines faults (number + 1) rest

/-- The code of a block, the lines at fault marked. -/
def code (snippet : Text) (faults : List Nat) : Text :=
  codeLines faults 1 (Text.lines snippet)

/-! ## Blocks -/

/-- Where a block stands in its document. -/
def place (result : Result) : Text :=
  painted Colour.dim ("(line ".toList ++ Text.decimal result.snippet.line ++ [')'])

def ofResult (result : Result) : Text :=
  match result.error with
  | none =>
      line (painted Colour.green ['✓'] ++ ' ' :: result.label ++ ' ' :: place result)
  | some diagnostic =>
      line (painted Colour.red ['✗'] ++ ' ' :: painted Colour.bold result.label ++
          ' ' :: place result) ++
        code result.snippet.text result.linesWithErrors ++ diagnostic.terminal

/-! ## The whole report -/

/-- A number of hundredths, with two places after the point. -/
def hundredths (number : Nat) : Text :=
  let places := Text.decimal (number % 100)
  Text.decimal (number / 100) ++ '.' :: List.replicate (2 - places.length) '0' ++ places

def summary (results : List Result) (elapsed : Nat) : Text :=
  let failed := (results.filter fun result => !result.succeeded).length
  let verdict :=
    if failed = 0 then painted Colour.green "Passed".toList
    else painted Colour.red "Failed".toList
  line (verdict ++ ' ' :: Text.decimal results.length ++ " blocks, ".toList ++
    Text.decimal failed ++ " failed in ".toList ++ hundredths elapsed ++ ['s'])

def nothingFound : Text :=
  line (painted Colour.yellow "No TypeScript code blocks found.".toList) ++
    line "Code blocks are fenced with ```ts or ```typescript".toList

/-- The report on a run that has taken some hundredths of a second. -/
def human (results : List Result) (elapsed : Nat) : Text :=
  if results.isEmpty then nothingFound
  else
    results.flatMap ofResult ++ '\n' :: line rule ++ summary results elapsed

end DocCheck.Report
