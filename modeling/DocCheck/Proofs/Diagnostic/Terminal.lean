import DocCheck.Diagnostic.Terminal
import DocCheck.Proofs.Report.Listing

/-!
What a terminal shows of a diagnostic: every line of the detail in one row, or in two where it reports
an error. Main statement: the lines can be told from the rows, unless they hold the character that
begins sequences for terminals.
-/

namespace DocCheck.Diagnostic

/-! ## Rows -/

def indentation : Text := "  ".toList

def arrow : Text := "\x1b[1;34m-->\x1b[0m ".toList

/-- What stands before the place of an error, in a row of its own. -/
def placeLead : Text := indentation ++ arrow

/-- What stands before the text of an error, in the row behind. -/
def textLead : Text := "      \x1b[1;31merror\x1b[0m ".toList

/-- The rows in which a line is shown. -/
def rowsOfLine (line : Text) : List Text :=
  match Text.splitOnce? errorMark line with
  | some (place, text) => [placeLead ++ place, textLead ++ text]
  | none => [indentation ++ line]

private theorem terminalLine_eq (line : Text) :
    terminalLine line = (rowsOfLine line).flatMap fun row => row ++ ['\n'] := by
  rw [terminalLine, rowsOfLine]
  cases Text.splitOnce? errorMark line with
  | none => exact (List.flatMap_singleton _ _).symm
  | some parts =>
      have first : "  \x1b[1;34m-->\x1b[0m ".toList = placeLead := rfl
      have second : "\n      \x1b[1;31merror\x1b[0m ".toList = '\n' :: textLead := rfl
      dsimp only
      rw [first, second]
      simp only [List.flatMap_cons, List.flatMap_nil, List.append_assoc, List.cons_append,
        List.nil_append, List.append_nil]

private theorem newline_notMem_rowsOfLine {line : Text} (unbroken : '\n' ∉ line) :
    ∀ row ∈ rowsOfLine line, '\n' ∉ row := by
  have leads : '\n' ∉ indentation ∧ '\n' ∉ placeLead ∧ '\n' ∉ textLead := by decide
  rw [rowsOfLine]
  split
  · next place text isSplit =>
      rw [Text.eq_append_of_splitOnce? isSplit] at unbroken
      simp only [List.mem_append, not_or] at unbroken
      simp [leads, unbroken]
  · simp [leads, unbroken]

/-! ## Reading rows -/

/-- The lines that are shown in rows. -/
def linesOfRows : List Text → List Text
  | [] => []
  | [row] => [row.drop indentation.length]
  | row :: second :: rest =>
      match List.isPrefixOf? placeLead row with
      | some place =>
          (place ++ (errorMark ++ second.drop textLead.length)) :: linesOfRows rest
      | none => row.drop indentation.length :: linesOfRows (second :: rest)

private theorem linesOfRows_of_place (place text : Text) (rest : List Text) :
    linesOfRows ((placeLead ++ place) :: (textLead ++ text) :: rest) =
      (place ++ (errorMark ++ text)) :: linesOfRows rest := by
  rw [linesOfRows, Text.isPrefixOf?_append]
  simp

/-- A line that does not begin a sequence for terminals is not taken for the place of an error. -/
private theorem linesOfRows_of_plain {line : Text} (plain : '\x1b' ∉ line) (rest : List Text) :
    linesOfRows ((indentation ++ line) :: rest) = line :: linesOfRows rest := by
  have noPlace : List.isPrefixOf? placeLead (indentation ++ line) = none := by
    rw [Option.eq_none_iff_forall_ne_some]
    intro place stripped
    have whole := List.append_eq_of_isPrefixOf?_eq_some stripped
    rw [placeLead, List.append_assoc] at whole
    have passes : line = arrow ++ place := (List.append_cancel_left whole).symm
    have inArrow : '\x1b' ∈ arrow := by decide
    exact plain (passes ▸ List.mem_append_left place inArrow)
  have indented : (indentation ++ line).drop indentation.length = line :=
    List.drop_left
  cases rest with
  | nil => exact congrArg ([·]) indented
  | cons second rest => rw [linesOfRows, noPlace, indented]

private theorem linesOfRows_flatMap {lines : List Text} (plain : ∀ line ∈ lines, '\x1b' ∉ line) :
    linesOfRows (lines.flatMap rowsOfLine) = lines := by
  induction lines with
  | nil => rfl
  | cons line lines inductionHypothesis =>
      rw [List.forall_mem_cons] at plain
      have others := inductionHypothesis plain.2
      rw [List.flatMap_cons, rowsOfLine]
      split
      · next place text isSplit =>
          rw [List.cons_append, List.cons_append, List.nil_append, linesOfRows_of_place, others,
            Text.eq_append_of_splitOnce? isSplit]
      · rw [List.cons_append, List.nil_append, linesOfRows_of_plain plain.1, others]

/-- The lines that a terminal shows. There is nothing behind the last newline. -/
def shownLines (shown : Text) : List Text :=
  linesOfRows (Text.splitAt '\n' shown).dropLast

private theorem splitAt_terminal (diagnostic : Diagnostic) :
    Text.splitAt '\n' diagnostic.terminal =
      (Text.lines diagnostic.detail).flatMap rowsOfLine ++ [[]] := by
  have rows : diagnostic.terminal = ((Text.lines diagnostic.detail).flatMap rowsOfLine).flatMap
      fun row => row ++ ['\n'] := by
    rw [List.flatMap_assoc, terminal]
    exact congrArg (List.flatMap · _) (funext terminalLine_eq)
  rw [rows, Text.splitAt_flatMap]
  intro row member
  obtain ⟨line, isLine, isRow⟩ := List.mem_flatMap.mp member
  exact newline_notMem_rowsOfLine (Text.notMem_of_mem_lines isLine) row isRow

theorem shownLines_terminal {diagnostic : Diagnostic} (plain : '\x1b' ∉ diagnostic.detail) :
    shownLines diagnostic.terminal = Text.lines diagnostic.detail := by
  rw [shownLines, splitAt_terminal, List.dropLast_concat]
  exact linesOfRows_flatMap fun line isLine inside =>
    plain ((Text.isInfix_of_mem_lines isLine).subset inside)

/-- Two diagnostics are shown alike exactly if their details have the same lines. -/
theorem terminal_eq_iff {left right : Diagnostic} (leftPlain : '\x1b' ∉ left.detail)
    (rightPlain : '\x1b' ∉ right.detail) :
    left.terminal = right.terminal ↔ Text.lines left.detail = Text.lines right.detail := by
  constructor
  · intro same
    rw [← shownLines_terminal leftPlain, same, shownLines_terminal rightPlain]
  · intro same
    rw [terminal, same, terminal]

/-- Errors are reported several times in a line, at its end and in a line behind, and lines may end in
different ways. -/
theorem terminal_eq_iff_of_line_ends :
    let left := plain .typeCheck [] "a: error b: error \r\n\n: error c\r\n  d".toList
    let right := plain .crash [] "a: error b: error \n\r\n: error c\n  d\n".toList
    '\x1b' ∉ left.detail ∧ '\x1b' ∉ right.detail ∧ left.terminal = right.terminal ∧
      Text.lines left.detail = Text.lines right.detail := by
  intro left right
  have leftPlain : '\x1b' ∉ left.detail := by decide
  have rightPlain : '\x1b' ∉ right.detail := by decide
  have same : left.terminal = right.terminal := by decide
  exact ⟨leftPlain, rightPlain, same, (terminal_eq_iff leftPlain rightPlain).mp same⟩

/-- Lines that hold such characters may pass for the rows of another line. -/
theorem terminal_eq_of_passing_rows :
    let left := plain .typeCheck [] "a: error b".toList
    let right := plain .typeCheck [] "\x1b[1;34m-->\x1b[0m a\n    \x1b[1;31merror\x1b[0m b".toList
    left.terminal = right.terminal ∧ Text.lines left.detail ≠ Text.lines right.detail := by
  decide

end DocCheck.Diagnostic
