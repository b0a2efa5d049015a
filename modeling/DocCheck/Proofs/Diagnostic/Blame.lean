import DocCheck.Check.Block
import DocCheck.Diagnostic.Report
import DocCheck.Proofs.Diagnostic.Reference

/-!
Lines that a block is blamed for. They are read off the whole detail of its diagnostic, whereas the
places that the compiler reports are read off the lines of its report, and only the latter know of
files. Main statement: a block is blamed for lines of its own only exactly if every reference in the
detail is to a line on which the report places a fault in the file of the block.
-/

namespace DocCheck

namespace Diagnostic

/-- Everything but the further fields, which only the exit status and the other output add to. -/
theorem exists_ofReport_eq (stdout stderr : Text) (exitStatus : Option Int) :
    ∃ message extra, ofReport stdout stderr exitStatus =
      let codes := ((Text.lines stdout).map ReportLine.ofText).filterMap ReportLine.code?
      { kind := if codes.isEmpty then .crash else .typeCheck
        message := message
        detail := if (Text.trimEnd stdout).isEmpty then Text.trimEnd stderr
          else Text.trimEnd stdout
        positions := ((Text.lines stdout).map ReportLine.ofText).filterMap ReportLine.position?
        codes := codes
        extra := extra } := by
  unfold ofReport
  cases exitStatus with
  | none => dsimp only; split <;> exact ⟨_, _, rfl⟩
  | some status => dsimp only; split <;> exact ⟨_, _, rfl⟩

theorem ofReport_positions (stdout stderr : Text) (exitStatus : Option Int) :
    (ofReport stdout stderr exitStatus).positions =
      ((Text.lines stdout).map ReportLine.ofText).filterMap ReportLine.position? := by
  obtain ⟨message, extra, read⟩ := exists_ofReport_eq stdout stderr exitStatus
  rw [read]

/-- A line of a report has a position where it names a file, a line and a column that can be
counted. -/
theorem position?_ofText_eq_some_iff {text : Text} {position : Position} :
    (ReportLine.ofText text).position? = some position ↔
      ∃ lineDigits columnDigits code,
        ReportLine.located? text = some (position.file, lineDigits, columnDigits, code) ∧
          Text.parseDecimal? lineDigits = some position.line ∧
            Text.parseDecimal? columnDigits = some position.column := by
  rw [ReportLine.ofText]
  constructor
  · intro reported
    split at reported
    · next file lineDigits columnDigits code located =>
        rw [ReportLine.position?] at reported
        split at reported
        · next line column parsedLine parsedColumn =>
            cases reported
            exact ⟨lineDigits, columnDigits, code, located, parsedLine, parsedColumn⟩
        · cases reported
    · split at reported
      · cases reported
      · cases reported
  · rintro ⟨lineDigits, columnDigits, code, located, parsedLine, parsedColumn⟩
    simp only [located, ReportLine.position?, parsedLine, parsedColumn]

end Diagnostic

namespace Block

/-- The diagnostic for a report, as the result of the block holds it. -/
def diagnosticOfReport (block : Block) (scratch : ScratchDir) (stdout stderr : Text)
    (exitStatus : Option Int) : Diagnostic :=
  (Diagnostic.ofReport stdout stderr exitStatus).scrub scratch.blockPattern block.label

/-- The diagnostic has a position on that line, and its file goes by the label of the block. -/
def IsReported (block : Block) (diagnostic : Diagnostic) (line : Nat) : Prop :=
  ∃ position ∈ diagnostic.positions, position.file = block.label ∧ position.line = line

instance (block : Block) (diagnostic : Diagnostic) (line : Nat) :
    Decidable (block.IsReported diagnostic line) :=
  inferInstanceAs (Decidable (∃ position ∈ diagnostic.positions, _ ∧ _))

/-- A line of the compiler's output places a fault on that line of the file of the block. -/
def IsPlacedIn (block : Block) (scratch : ScratchDir) (stdout : Text) (line : Nat) : Prop :=
  ∃ text ∈ Text.lines stdout, ∃ file lineDigits columnDigits code column,
    Diagnostic.ReportLine.located? text = some (file, lineDigits, columnDigits, code) ∧
      Text.parseDecimal? lineDigits = some line ∧
        Text.parseDecimal? columnDigits = some column ∧
          Text.replaceAll scratch.blockPattern (fun _ _ => block.label) file = block.label

theorem isReported_iff_isPlacedIn {scratch : ScratchDir} {block : Block} {stdout stderr : Text}
    {exitStatus : Option Int} {line : Nat} :
    block.IsReported (block.diagnosticOfReport scratch stdout stderr exitStatus) line ↔
      block.IsPlacedIn scratch stdout line := by
  have positions : (block.diagnosticOfReport scratch stdout stderr exitStatus).positions =
      (((Text.lines stdout).map Diagnostic.ReportLine.ofText).filterMap
        Diagnostic.ReportLine.position?).map fun position =>
          { position with
            file := Text.replaceAll scratch.blockPattern (fun _ _ => block.label)
              position.file } := by
    rw [← Diagnostic.ofReport_positions stdout stderr exitStatus]
    rfl
  rw [IsReported, positions]
  constructor
  · rintro ⟨scrubbed, member, isLabel, isLine⟩
    obtain ⟨position, known, rfl⟩ := List.mem_map.mp member
    obtain ⟨reportLine, present, reported⟩ := List.mem_filterMap.mp known
    obtain ⟨text, inOutput, rfl⟩ := List.mem_map.mp present
    obtain ⟨lineDigits, columnDigits, code, located, parsedLine, parsedColumn⟩ :=
      Diagnostic.position?_ofText_eq_some_iff.mp reported
    exact ⟨text, inOutput, position.file, lineDigits, columnDigits, code, position.column,
      located, isLine ▸ parsedLine, parsedColumn, isLabel⟩
  · rintro ⟨text, inOutput, file, lineDigits, columnDigits, code, column, located, parsedLine,
      parsedColumn, isLabel⟩
    have reported : (Diagnostic.ReportLine.ofText text).position? = some ⟨file, line, column⟩ :=
      Diagnostic.position?_ofText_eq_some_iff.mpr
        ⟨lineDigits, columnDigits, code, located, parsedLine, parsedColumn⟩
    have known := List.mem_filterMap.mpr
      ⟨_, List.mem_map.mpr ⟨text, inOutput, rfl⟩, reported⟩
    exact ⟨_, List.mem_map.mpr ⟨_, known, rfl⟩, isLabel, rfl⟩

/-- Whatever the compiler writes, all lines that the block is blamed for have a position in its file
exactly if nothing in the detail refers to a line without a fault placed in that file. -/
theorem blamed_lines_reported_iff (scratch : ScratchDir) (block : Block) (stdout stderr : Text)
    (exitStatus : Option Int) :
    let diagnostic := block.diagnosticOfReport scratch stdout stderr exitStatus
    (∀ line ∈ (block.result (some diagnostic)).linesWithErrors,
        block.IsReported diagnostic line) ↔
      ∀ line, Diagnostic.Refers diagnostic.detail line → block.IsPlacedIn scratch stdout line := by
  intro diagnostic
  constructor
  · intro blamedReported line refers
    have blamed : line ∈ diagnostic.errorLines := Diagnostic.mem_errorLines_iff.mpr refers
    exact isReported_iff_isPlacedIn.mp (blamedReported line blamed)
  · intro referredPlaced line blamed
    have refers : Diagnostic.Refers diagnostic.detail line :=
      Diagnostic.mem_errorLines_iff.mp blamed
    exact isReported_iff_isPlacedIn.mpr (referredPlaced line refers)

/-- A fault in a file of the package is laid at the door of a block of one line. -/
theorem blamed_for_line_of_package :
    let scratch := ScratchDir.inProject ".".toList "compiled-docs".toList
    let block : Block := ⟨"README.md".toList, ⟨1, 1, "let a = 1\n".toList⟩, "let a = 1\n".toList⟩
    let report := "src/index.ts(5,1): error TS2304: Cannot find name 'gone'.\n".toList
    let diagnostic := block.diagnosticOfReport scratch report [] (some 2)
    (block.result (some diagnostic)).linesWithErrors = [5] ∧
      ¬ ∀ line ∈ (block.result (some diagnostic)).linesWithErrors,
        block.IsReported diagnostic line := by
  decide

end Block

end DocCheck
