import DocCheck.Proofs.Check.FileName
import DocCheck.Proofs.Diagnostic.Blame
import DocCheck.Report.Human

/-!
The code of a block in the report for people. Main statement: the lines of the code are listed in order,
each once with its number and marked if it is at fault, but an empty last line, behind a newline, is
not listed: a fault there is not marked.
-/

namespace DocCheck

/-! ## All lines of a text -/

namespace Text

/-- What holds of a text without newlines, and of a line before a text that it holds of, holds of any
text. -/
@[elab_as_elim]
theorem by_lines {motive : Text → Prop} (last : ∀ line, '\n' ∉ line → motive line)
    (line : ∀ line rest, '\n' ∉ line → motive rest → motive (line ++ '\n' :: rest)) (text : Text) :
    motive text := by
  by_cases broken : '\n' ∈ text
  · obtain ⟨front, rest, whole, unbroken⟩ := List.eq_append_cons_of_mem broken
    rw [whole]
    exact line front rest unbroken (by_lines last line rest)
  · exact last text broken
termination_by text.length
decreasing_by
  rw [whole, List.length_append, List.length_cons]
  omega

def withoutReturn (line : Text) : Text :=
  if line.getLast? = some '\r' then line.dropLast else line

/-- The lines between newlines, without the carriage returns that stand before these. -/
def withoutReturns : List Text → List Text
  | [] => []
  | [last] => [last]
  | line :: next :: rest => withoutReturn line :: withoutReturns (next :: rest)

/-- The lines of a text as a compiler counts them. What follows the last newline is a line, even if it
is empty. -/
def allLines (text : Text) : List Text :=
  withoutReturns (splitAt '\n' text)

private theorem allLines_of_notMem {line : Text} (unbroken : '\n' ∉ line) :
    allLines line = [line] := by
  rw [allLines, splitAt_of_notMem unbroken, withoutReturns]

private theorem allLines_append {line : Text} (unbroken : '\n' ∉ line) (rest : Text) :
    allLines (line ++ '\n' :: rest) = withoutReturn line :: allLines rest := by
  obtain ⟨first, more, isSplit⟩ := List.exists_cons_of_ne_nil (splitAt_ne_nil '\n' rest)
  rw [allLines, splitAt_append, splitAt_of_notMem unbroken, allLines, isSplit]
  rfl

private theorem lines_append {line : Text} (unbroken : '\n' ∉ line) (rest : Text) :
    lines (line ++ '\n' :: rest) = withoutReturn line :: lines rest := by
  rw [withoutReturn]
  split
  · next returned =>
      obtain ⟨lead, rfl⟩ := List.getLast?_eq_some_iff.mp returned
      have inLead : '\n' ∉ lead := fun member => unbroken (List.mem_append_left _ member)
      rw [List.append_assoc, List.dropLast_concat]
      exact lines_append_returned inLead rest
  · next unreturned => exact lines_append_newline unbroken unreturned rest

/-- The last line of a text is empty. -/
def EndsEmpty (text : Text) : Prop :=
  text = [] ∨ text.getLast? = some '\n'

instance (text : Text) : Decidable text.EndsEmpty :=
  inferInstanceAs (Decidable (_ ∨ _))

private theorem endsEmpty_append (line rest : Text) :
    EndsEmpty (line ++ '\n' :: rest) ↔ rest.EndsEmpty := by
  cases rest with
  | nil => simp [EndsEmpty]
  | cons c rest => simp [EndsEmpty]

/-- The lines of a text are all of its lines but for an empty last one. -/
theorem allLines_eq (text : Text) :
    allLines text = lines text ++ if text.EndsEmpty then [[]] else [] := by
  induction text using by_lines with
  | last line unbroken =>
      rw [allLines_of_notMem unbroken]
      by_cases empty : line = []
      · rw [empty]
        rfl
      · have filled : ¬ EndsEmpty line := by
          rintro (none | last)
          · exact empty none
          · exact unbroken (List.mem_of_getLast? last)
        rw [lines_of_notMem unbroken empty, if_neg filled, List.append_nil]
  | line line rest unbroken inductionHypothesis =>
      rw [allLines_append unbroken, lines_append unbroken, inductionHypothesis, List.cons_append]
      simp only [endsEmpty_append]

theorem length_allLines (text : Text) : (allLines text).length = text.count '\n' + 1 := by
  induction text using by_lines with
  | last line unbroken =>
      rw [allLines_of_notMem unbroken, List.count_eq_zero.mpr unbroken]
      rfl
  | line line rest unbroken inductionHypothesis =>
      rw [allLines_append unbroken, List.length_cons, inductionHypothesis, List.count_append,
        List.count_eq_zero.mpr unbroken, List.count_cons_self, Nat.zero_add]

theorem notMem_of_mem_lines {text line : Text} (member : line ∈ lines text) : '\n' ∉ line := by
  induction text using by_lines with
  | last whole unbroken => exact fun inside => unbroken ((isInfix_of_mem_lines member).subset inside)
  | line first rest unbroken inductionHypothesis =>
      rw [lines_append unbroken] at member
      rcases List.mem_cons.mp member with rfl | later
      · intro inside
        rw [withoutReturn] at inside
        split at inside
        · exact unbroken ((List.dropLast_sublist first).subset inside)
        · exact unbroken inside
      · exact inductionHypothesis later

end Text

namespace Report

/-! ## Rows of a listing -/

/-- The rows in which lines of code are listed, numbered onwards from `number`. -/
def rows (faults : List Nat) (number : Nat) (lines : List Text) : List Text :=
  (lines.zipIdx number).map fun numbered =>
    codeLine (faults.contains numbered.2) numbered.2 numbered.1

private theorem codeLines_eq (faults : List Nat) (number : Nat) (lines : List Text) :
    codeLines faults number lines = (rows faults number lines).flatMap line := by
  induction lines generalizing number with
  | nil => rfl
  | cons code rest inductionHypothesis =>
      have first : rows faults number (code :: rest) =
          codeLine (faults.contains number) number code :: rows faults (number + 1) rest := by
        rw [rows, List.zipIdx_cons, List.map_cons, ← rows]
      rw [codeLines, inductionHypothesis, first, List.flatMap_cons]

private theorem getElem?_rows (faults : List Nat) (lines : List Text) (i : Nat) :
    (rows faults 1 lines)[i]? =
      lines[i]?.map (codeLine (faults.contains (i + 1)) (i + 1)) := by
  rw [rows, List.getElem?_map, List.getElem?_zipIdx, Option.map_map, Nat.add_comm 1 i]
  rfl

private theorem dropWhile_column_append (number : Nat) (rest : Text) :
    (column number ++ rest).dropWhile (· == ' ') = Text.decimal number ++ rest := by
  obtain ⟨digit, digits, isDecimal⟩ :=
    List.exists_cons_of_ne_nil (BlockPath.isNumber_decimal number).1
  have isDigit : digit.isDigit = true :=
    BlockPath.isDigit_of_mem_decimal (isDecimal ▸ List.mem_cons_self)
  have noSpace : ¬ (digit == ' ') = true := by
    intro space
    rw [beq_iff_eq.mp space] at isDigit
    cases isDigit
  rw [column, List.append_assoc, List.dropWhile_append_of_pos (by simp), isDecimal, List.cons_append,
    List.dropWhile_cons_of_neg (p := (· == ' ')) noSpace]

/-- A number is read off its column where a space follows. -/
private theorem column_append_inj {number other : Nat} {rest rest' : Text}
    (same : column number ++ ' ' :: rest = column other ++ ' ' :: rest') : number = other := by
  have noSpace (number : Nat) : ∀ c ∈ Text.decimal number, (c == ' ') = false := by
    intro c member
    have isDigit := BlockPath.isDigit_of_mem_decimal member
    rw [beq_eq_false_iff_ne]
    rintro rfl
    cases isDigit
  have digits := congrArg (List.dropWhile (· == ' ')) same
  rw [dropWhile_column_append, dropWhile_column_append] at digits
  obtain ⟨sameDigits, _⟩ := Text.append_cons_unique (· == ' ') rfl rfl (noSpace number)
    (noSpace other) digits
  exact Text.decimal_inj sameDigits

/-- A row that is marked shows that it is, and its number. -/
private theorem eq_of_codeLine_eq {atFault : Bool} {number other : Nat} {code code' : Text}
    (same : codeLine true number code = codeLine atFault other code') :
    atFault = true ∧ other = number := by
  cases atFault with
  | false =>
      -- The colours differ.
      have colours : ['\x1b', '[', '3'] = ['\x1b', '[', '2'] := congrArg (List.take 3) same
      exact absurd colours (by decide)
  | true =>
      have spread (number : Nat) (code : Text) : codeLine true number code =
          (Colour.red ++ "  > ".toList) ++
            (column number ++ ' ' :: ("| ".toList ++ code ++ Colour.reset)) := by
        simp [codeLine, painted]
      rw [spread, spread] at same
      exact ⟨rfl, (column_append_inj (List.append_cancel_left same)).symm⟩

private theorem newline_notMem_codeLine {code : Text} (unbroken : '\n' ∉ code) (atFault : Bool)
    (number : Nat) : '\n' ∉ codeLine atFault number code := by
  have noDigit : '\n' ∉ Text.decimal number := fun member =>
    absurd (BlockPath.isDigit_of_mem_decimal member) (by decide)
  have inColumn : '\n' ∉ column number := by
    simp [column, noDigit]
  have sequences : '\n' ∉ Colour.red ++ Colour.dim ++ Colour.reset ++ "  > ".toList ++
      " | ".toList ++ "    ".toList ++ " |".toList := by
    decide
  simp only [List.mem_append, not_or] at sequences
  cases atFault <;> simp [codeLine, painted, unbroken, inColumn, sequences]

/-! ## Listings -/

/-- `Lists snippet faults listed` means that some rows list the lines of a snippet in order, each once
with its number, and marked exactly if it is among the faults. An empty last line is left out. -/
structure Lists (snippet : Text) (faults : List Nat) (listed : List Text) : Prop where
  whole : ∀ row ∈ listed, '\n' ∉ row
  length_eq : listed.length = snippet.count '\n' + if snippet.EndsEmpty then 0 else 1
  row : ∀ i < listed.length, ∃ code, (Text.allLines snippet)[i]? = some code ∧
    listed[i]? = some (codeLine (faults.contains (i + 1)) (i + 1) code)

/-- The line of a snippet with a number is listed with its mark. -/
def Marks (snippet : Text) (listed : List Text) (number : Nat) : Prop :=
  ∃ code, (Text.allLines snippet)[number - 1]? = some code ∧ codeLine true number code ∈ listed

theorem lists_rows (snippet : Text) (faults : List Nat) :
    Lists snippet faults (rows faults 1 (Text.lines snippet)) where
  whole := by
    intro row member
    obtain ⟨numbered, known, rfl⟩ := List.mem_map.mp member
    exact newline_notMem_codeLine (Text.notMem_of_mem_lines (List.fst_mem_of_mem_zipIdx known)) _ _
  length_eq := by
    have counted := Text.length_allLines snippet
    rw [Text.allLines_eq, List.length_append] at counted
    rw [rows, List.length_map, List.length_zipIdx]
    split at counted
    · next empty =>
        rw [if_pos empty]
        exact Nat.succ.inj counted
    · next filled =>
        rw [if_neg filled]
        exact counted
  row := by
    intro i inside
    rw [rows, List.length_map, List.length_zipIdx] at inside
    refine ⟨(Text.lines snippet)[i], ?_, ?_⟩
    · rw [Text.allLines_eq, List.getElem?_append_left inside, List.getElem?_eq_getElem inside]
    · rw [getElem?_rows, List.getElem?_eq_getElem inside, Option.map_some]

theorem Lists.marks_iff {snippet : Text} {faults : List Nat} {listed : List Text}
    (lists : Lists snippet faults listed) {number : Nat} (counted : 1 ≤ number) :
    Marks snippet listed number ↔ number ∈ faults ∧ number ≤ listed.length := by
  constructor
  · rintro ⟨code, _, member⟩
    obtain ⟨i, inside, isRow⟩ := List.getElem_of_mem member
    obtain ⟨known, _, isListed⟩ := lists.row i inside
    rw [List.getElem?_eq_getElem inside, isRow] at isListed
    obtain ⟨atFault, rfl⟩ := eq_of_codeLine_eq (Option.some.inj isListed)
    exact ⟨by simpa using atFault, inside⟩
  · rintro ⟨atFault, inside⟩
    obtain ⟨i, rfl⟩ := Nat.exists_eq_add_of_le' counted
    obtain ⟨code, known, isListed⟩ := lists.row i inside
    have marked : faults.contains (i + 1) = true := by simpa using atFault
    rw [marked] at isListed
    exact ⟨code, known, List.mem_of_getElem? isListed⟩

/-- The first line on a block that does not compile. -/
def failedTitle (result : Result) : Text :=
  painted Colour.red ['✗'] ++ ' ' :: painted Colour.bold result.label ++ ' ' :: place result

/-- The code of a block that does not compile is listed between the line for the block and what the
compiler says. All the faults on lines of the code are marked, unless there is one on an empty last
line, since that line is not listed. -/
theorem faults_marked_iff {result : Result} {diagnostic : Diagnostic}
    (failed : result.error = some diagnostic) :
    let snippet := result.snippet.text
    let lineCount := snippet.count '\n' + 1
    ∃ listed, ofResult result =
        line (failedTitle result) ++ listed.flatMap line ++ diagnostic.terminal ∧
      Lists snippet result.linesWithErrors listed ∧
      ((∀ number ∈ result.linesWithErrors, 1 ≤ number → number ≤ lineCount →
          Marks snippet listed number) ↔
        ¬ (lineCount ∈ result.linesWithErrors ∧ snippet.EndsEmpty)) := by
  intro snippet lineCount
  have lists := lists_rows snippet result.linesWithErrors
  refine ⟨_, ?_, lists, ?_⟩
  · rw [ofResult, failed, ← codeLines_eq]
    rfl
  · have length := lists.length_eq
    constructor
    · rintro allMarked ⟨atFault, empty⟩
      have marked := allMarked lineCount atFault (Nat.le_add_left 1 _) (Nat.le_refl _)
      have inside := ((lists.marks_iff (Nat.le_add_left 1 _)).mp marked).2
      rw [length, if_pos empty] at inside
      exact absurd inside (Nat.not_succ_le_self _)
    · intro listedLast number atFault counted inSnippet
      refine (lists.marks_iff counted).mpr ⟨atFault, ?_⟩
      rw [length]
      split
      · next empty =>
          have noLast : number ≠ lineCount := fun last => listedLast ⟨last ▸ atFault, empty⟩
          exact Nat.le_of_lt_succ (Nat.lt_of_le_of_ne inSnippet noLast)
      · exact inSnippet

/-- A block of two lines, the second of which is at fault and does not end. -/
theorem faults_marked_iff_on_open_line :
    let snippet : Text := "let a = 1\nlet b = c".toList
    let diagnostic := Diagnostic.plain .typeCheck [] "(2,9): error TS2304: Cannot find name".toList
    let result : Result := ⟨"README.md".toList, ⟨1, 1, snippet⟩, some diagnostic⟩
    result.error = some diagnostic ∧ result.linesWithErrors = [2] ∧
      ∃ listed, ofResult result =
          line (failedTitle result) ++ listed.flatMap line ++ diagnostic.terminal ∧
        Lists snippet [2] listed ∧ listed.length = 2 ∧ Marks snippet listed 2 := by
  intro snippet diagnostic result
  have faults : result.linesWithErrors = [2] := by decide
  obtain ⟨listed, whole, lists, allMarked⟩ := @faults_marked_iff result diagnostic rfl
  rw [faults] at lists allMarked
  have filled : ¬ (snippet.count '\n' + 1 ∈ [2] ∧ snippet.EndsEmpty) := by decide
  have listedLength : listed.length = 2 := lists.length_eq
  exact ⟨rfl, faults, listed, whole, lists, listedLength,
    allMarked.mpr filled 2 List.mem_cons_self (by decide) (by decide)⟩

/-- A brace that is not closed is missed behind the last newline. That is the second line of the block,
and no line of the report marks it. -/
theorem fault_unmarked_behind_last_newline :
    let scratch := ScratchDir.inProject ".".toList "compiled-docs".toList
    let block : Block := ⟨"README.md".toList, ⟨1, 1, "if (a) \x7b\n".toList⟩, "if (a) \x7b\n".toList⟩
    let report := "compiled-docs/block-1.ts(2,1): error TS1005: '\x7d' expected.\n".toList
    let result := block.result (some (block.diagnosticOfReport scratch report [] (some 2)))
    result.linesWithErrors = [2] ∧ result.snippet.text.count '\n' + 1 = 2 ∧
      ∀ code, codeLine true 2 code ∉ Text.splitAt '\n' (ofResult result) := by
  intro scratch block report result
  have unmarked : ((Text.splitAt '\n' (ofResult result)).all fun row =>
      !List.isPrefixOf (Colour.red ++ "  > ".toList) row) = true := by
    decide
  refine ⟨by decide, rfl, fun code member => ?_⟩
  have begins : List.isPrefixOf (Colour.red ++ "  > ".toList) (codeLine true 2 code) = true := rfl
  have none := List.all_eq_true.mp unmarked _ member
  rw [begins] at none
  cases none

end Report

end DocCheck
