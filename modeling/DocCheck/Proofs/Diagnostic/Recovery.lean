import DocCheck.Proofs.Diagnostic.Blame
import DocCheck.Proofs.Diagnostic.Scrubbing

/-!
Lines of reported positions, found again in the detail. Positions are read off the lines of a report,
each from its beginning, and the lines at fault off the whole detail. Main statement: no position is
lost on the way, not even where paths of block files have been replaced.
-/

namespace DocCheck

namespace Diagnostic

open BlockPath (relabel relabelled_relabel isSlash isDelimiter)

/-! ## Places in texts -/

/-- A text with a place in it refers to the line of the place. -/
theorem refers_of_isInfix {line column text : Text} {n : Nat} (lineNumeral : IsNumeral line)
    (columnNumeral : IsNumeral column) (parsed : Text.parseDecimal? line = some n)
    (inText : placeText line column <:+: text) : Refers text n := by
  obtain ⟨front, back, rfl⟩ := inText
  have whole : front ++ placeText line column ++ back =
      front ++ '(' :: (line ++ ',' :: (column ++ ')' :: back)) := by
    simp [placeText]
  rw [whole]
  exact .parenthesised front line column back lineNumeral columnNumeral parsed

/-- Nothing between the parentheses of a place can belong to a path. -/
private theorem isSlash_eq_false_of_mem_place {line column : Text} (lineNumeral : IsNumeral line)
    (columnNumeral : IsNumeral column) : ∀ c ∈ line ++ ',' :: column, isSlash c = false := by
  apply isSlash_eq_false_of_notMem
  · simp [not_mem_of_isNumeral lineNumeral (c := '/') (by decide),
      not_mem_of_isNumeral columnNumeral (c := '/') (by decide)]
  · simp [not_mem_of_isNumeral lineNumeral (c := '\\') (by decide),
      not_mem_of_isNumeral columnNumeral (c := '\\') (by decide)]

/-- A place stays where it is when the paths around it are replaced: its parentheses keep them out. -/
theorem isInfix_relabel {name label line column text : Text} (unopened : '(' ∉ name)
    (unclosed : ')' ∉ name) (lineNumeral : IsNumeral line) (columnNumeral : IsNumeral column)
    (inText : placeText line column <:+: text) :
    placeText line column <:+: relabel name label text := by
  obtain ⟨front, back, rfl⟩ := inText
  have whole (front back : Text) : front ++ placeText line column ++ back =
      front ++ '(' :: (line ++ ',' :: column ++ ')' :: back) := by
    simp [placeText]
  have inner : relabel name label (line ++ ',' :: column) = line ++ ',' :: column :=
    (relabelled_relabel name label _).eq_of_level
      (isSlash_eq_false_of_mem_place lineNumeral columnNumeral)
  have replaced : relabel name label (front ++ placeText line column ++ back) =
      relabel name label front ++ placeText line column ++ relabel name label back := by
    rw [whole, whole, relabel, BlockPath.replaceAll_append_of_notMem unopened (by decide),
      BlockPath.replaceAll_append_of_notMem unclosed (by decide)]
    change _ ++ '(' :: (relabel name label (line ++ ',' :: column) ++ _) = _
    rw [inner]
    rfl
  rw [replaced]
  exact List.infix_append _ _ _

/-! ## Places in reports -/

/-- A line of a report that has a position has its place, too. -/
private theorem exists_place_of_position? {text : Text} {position : Position}
    (reported : (ReportLine.ofText text).position? = some position) :
    ∃ line column, IsNumeral line ∧ IsNumeral column ∧
      Text.parseDecimal? line = some position.line ∧ placeText line column <:+: text := by
  obtain ⟨line, column, code, located, parsed, _⟩ := position?_ofText_eq_some_iff.mp reported
  obtain ⟨rest, whole, isPlaced⟩ := exists_placed?_of_located? located
  obtain ⟨lineNumeral, columnNumeral, _, _, _, _, _, begins⟩ := placed?_eq_some_iff.mp isPlaced
  refine ⟨line, column, lineNumeral, columnNumeral, parsed, ?_⟩
  have inRest : placeText line column <+: rest := (List.prefix_append _ _).trans begins
  rw [whole]
  exact inRest.isInfix.trans (List.suffix_append position.file rest).isInfix

/-- The end of a place is not trimmed off with the white space behind a report. -/
private theorem isInfix_trimEnd {line column text : Text}
    (inText : placeText line column <:+: text) :
    placeText line column <:+: Text.trimEnd text := by
  apply Text.isInfix_dropEndWhile inText
  have ending : (placeText line column).getLast? = some ')' := by
    simp [placeText, List.getLast?_cons, List.getLast?_append]
  intro c last
  rw [ending] at last
  cases last
  decide

/-- The place of every position stands in the detail of the diagnostic. -/
theorem exists_place_of_mem_positions {stdout stderr : Text} {exitStatus : Option Int}
    {position : Position} (member : position ∈ (ofReport stdout stderr exitStatus).positions) :
    ∃ line column, IsNumeral line ∧ IsNumeral column ∧
      Text.parseDecimal? line = some position.line ∧
        placeText line column <:+: (ofReport stdout stderr exitStatus).detail := by
  rw [ofReport_positions] at member
  obtain ⟨read, inLines, reported⟩ := List.mem_filterMap.mp member
  obtain ⟨text, inOutput, rfl⟩ := List.mem_map.mp inLines
  obtain ⟨line, column, lineNumeral, columnNumeral, parsed, inLine⟩ :=
    exists_place_of_position? reported
  refine ⟨line, column, lineNumeral, columnNumeral, parsed, ?_⟩
  have inTrimmed : placeText line column <:+: Text.trimEnd stdout :=
    isInfix_trimEnd (inLine.trans (Text.isInfix_of_mem_lines inOutput))
  -- The report is not empty, so the detail is taken from it and not from the other output.
  have filled : (Text.trimEnd stdout).isEmpty = false := by
    cases trimmed : Text.trimEnd stdout with
    | nil =>
        rw [trimmed, List.infix_nil] at inTrimmed
        cases inTrimmed
    | cons c rest => rfl
  obtain ⟨message, extra, read⟩ := exists_ofReport_eq stdout stderr exitStatus
  rw [read]
  dsimp only
  rw [filled]
  exact inTrimmed

/-- The line of every reported position is among the lines at fault, and it is still there when the
paths of block files have been replaced by any label, unless the scratch directory is named with
parentheses. -/
theorem reported_lines_recovered (stdout stderr : Text) (exitStatus : Option Int) :
    let diagnostic := ofReport stdout stderr exitStatus
    ∀ position ∈ diagnostic.positions,
      position.line ∈ diagnostic.errorLines ∧
        ∀ (scratch : ScratchDir) (label : Text), '(' ∉ scratch.name → ')' ∉ scratch.name →
          position.line ∈ (diagnostic.scrub scratch.blockPattern label).errorLines := by
  intro diagnostic position member
  obtain ⟨line, column, lineNumeral, columnNumeral, parsed, inDetail⟩ :=
    exists_place_of_mem_positions member
  constructor
  · exact mem_errorLines_iff.mpr (refers_of_isInfix lineNumeral columnNumeral parsed inDetail)
  · intro scratch label unopened unclosed
    have kept : placeText line column <:+: (diagnostic.scrub scratch.blockPattern label).detail :=
      isInfix_relabel unopened unclosed lineNumeral columnNumeral inDetail
    exact mem_errorLines_iff.mpr (refers_of_isInfix lineNumeral columnNumeral parsed kept)

/-- A scratch directory with a blank in its name, and a place right behind a path in it. -/
theorem reported_lines_recovered_behind_path :
    let stdout := "a(1).ts(7,2): error TS1: x\r\nmy docs/block-3.ts(012,4): error TS2: y\n".toList
    let diagnostic := ofReport stdout [] none
    let scratch : ScratchDir := ⟨"my docs".toList, "./my docs".toList⟩
    let label := blockLabel "README.md".toList 3
    ⟨"my docs/block-3.ts".toList, 12, 4⟩ ∈ diagnostic.positions ∧
      '(' ∉ scratch.name ∧ ')' ∉ scratch.name ∧ 12 ∈ diagnostic.errorLines ∧
        12 ∈ (diagnostic.scrub scratch.blockPattern label).errorLines := by
  intro stdout diagnostic scratch label
  have member : ⟨"my docs/block-3.ts".toList, 12, 4⟩ ∈ diagnostic.positions := by decide +kernel
  have unopened : '(' ∉ scratch.name := by decide
  have unclosed : ')' ∉ scratch.name := by decide
  obtain ⟨found, foundBehind⟩ := reported_lines_recovered stdout [] none _ member
  exact ⟨member, unopened, unclosed, found, foundBehind scratch label unopened unclosed⟩

end Diagnostic

end DocCheck
