import DocCheck.Diagnostic
import DocCheck.Text.Segment
import DocCheck.Text.Digit

/-!
References to places inside texts: `(line,column)`, as the compiler writes them, and
`Code Block n:line:column`, as a block's label is followed by them. The lines that a diagnostic
refers to are the numbers in its detail, ascending and each once.
-/

namespace DocCheck.Diagnostic

/-- The decimal digits at the beginning of a text, at least one, and what follows them. -/
def digits? (text : Text) : Option (Text × Text) :=
  match text.takeWhile Text.isDigit with
  | [] => none
  | run => some (run, text.dropWhile Text.isDigit)

def parenthesised? (text : Text) : Option ((Text × Text) × Text) :=
  match text with
  | '(' :: rest =>
      match digits? rest with
      | some (line, ',' :: rest) =>
          match digits? rest with
          | some (column, ')' :: rest) => some ((line, column), rest)
          | _ => none
      | _ => none
  | _ => none

/-- Matches `(line,column)`; the value is the digits of the line. -/
def parenReference : Text.Pattern Text := fun _ text =>
  (parenthesised? text).map fun found => (found.1.1, found.2)

/-- Matches `Code Block n:line:column`; the value is the digits of the line. -/
def labelReference : Text.Pattern Text := fun _ text =>
  match List.isPrefixOf? "Code Block ".toList text with
  | none => none
  | some rest =>
      match digits? rest with
      | some (_, ':' :: rest) =>
          match digits? rest with
          | some (line, ':' :: rest) => (digits? rest).map fun column => (line, column.2)
          | _ => none
      | _ => none

/-- Puts a number among ascending ones, unless it is one of them. -/
def insertLine (n : Nat) : List Nat → List Nat
  | [] => [n]
  | m :: rest =>
      if n = m then m :: rest else if n < m then n :: m :: rest else m :: insertLine n rest

/-- The lines that a text refers to, ascending. Digits that spell no number below `2 ^ 64` are passed
over. -/
def referredLines (text : Text) : List Nat :=
  let found := Text.findAll labelReference text ++ Text.findAll parenReference text
  (found.filterMap Text.parseDecimal?).foldr insertLine []

def errorLines (diagnostic : Diagnostic) : List Nat :=
  referredLines diagnostic.detail

end DocCheck.Diagnostic
