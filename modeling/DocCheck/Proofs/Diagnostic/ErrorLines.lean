import DocCheck.Proofs.Diagnostic.Scrubbing
import DocCheck.Proofs.Text.Numeral

/-!
The lines at fault, as a list and by the form of what refers to them. Main statement: they are, in
ascending order and each once, exactly the numbers below `2 ^ 64` that the detail has somewhere as the
line of a place or of a label.
-/

namespace DocCheck.Diagnostic

/-! ## Ascending lines -/

private theorem pairwise_insertLine {n : Nat} {lines : List Nat}
    (ascending : lines.Pairwise (· < ·)) :
    (insertLine n lines).Pairwise (· < ·) := by
  induction lines with
  | nil => exact List.pairwise_singleton _ n
  | cons first rest inductionHypothesis =>
      obtain ⟨above, ascendingRest⟩ := List.pairwise_cons.mp ascending
      rw [insertLine]
      split
      · exact ascending
      · split
        · next different smaller =>
            refine List.pairwise_cons.mpr ⟨fun m member => ?_, ascending⟩
            rcases List.mem_cons.mp member with rfl | later
            · exact smaller
            · exact Nat.lt_trans smaller (above m later)
        · next different larger =>
            refine List.pairwise_cons.mpr ⟨fun m member => ?_, inductionHypothesis ascendingRest⟩
            rcases mem_insertLine.mp member with rfl | later
            · omega
            · exact above m later

theorem pairwise_referredLines (text : Text) : (referredLines text).Pairwise (· < ·) := by
  rw [referredLines]
  induction (Text.findAll labelReference text ++ Text.findAll parenReference text).filterMap
      Text.parseDecimal? with
  | nil => exact .nil
  | cons n lines inductionHypothesis => exact pairwise_insertLine inductionHypothesis

/-! ## Forms of references -/

/-- A place behind a label; the column may go on. -/
def labelText (index line column : Text) : Text :=
  "Code Block ".toList ++ (index ++ ':' :: (line ++ ':' :: column))

theorem labelText_append (lead index line column rest : Text) :
    lead ++ labelText index line column ++ rest =
      lead ++ ("Code Block ".toList ++ (index ++ ':' :: (line ++ ':' :: (column ++ rest)))) := by
  unfold labelText
  generalize "Code Block ".toList = words
  simp only [List.append_assoc, List.cons_append]

/-- A text refers to a line by a place in parentheses or by one behind a label. -/
theorem refers_iff {text : Text} {n : Nat} :
    Refers text n ↔
      ∃ line column, IsNumeral line ∧ IsNumeral column ∧ Text.parseDecimal? line = some n ∧
        (placeText line column <:+: text ∨
          ∃ index, IsNumeral index ∧ labelText index line column <:+: text) := by
  constructor
  · intro refers
    cases refers with
    | parenthesised lead line column rest lineNumeral columnNumeral parsed =>
        exact ⟨line, column, lineNumeral, columnNumeral, parsed,
          Or.inl ⟨lead, rest, by simp [placeText]⟩⟩
    | labelled lead index line column rest indexNumeral lineNumeral columnNumeral parsed =>
        exact ⟨line, column, lineNumeral, columnNumeral, parsed,
          Or.inr ⟨index, indexNumeral, lead, rest, labelText_append lead index line column rest⟩⟩
  · rintro ⟨line, column, lineNumeral, columnNumeral, parsed, inText⟩
    rcases inText with ⟨lead, rest, rfl⟩ | ⟨index, indexNumeral, lead, rest, rfl⟩
    · have whole : lead ++ placeText line column ++ rest =
          lead ++ '(' :: (line ++ ',' :: (column ++ ')' :: rest)) := by
        simp [placeText]
      rw [whole]
      exact .parenthesised lead line column rest lineNumeral columnNumeral parsed
    · rw [labelText_append]
      exact .labelled lead index line column rest indexNumeral lineNumeral columnNumeral parsed

theorem isNumeral_of_spells {digits : Text} {n : Nat} (spells : Text.Spells digits n) :
    IsNumeral digits := by
  obtain ⟨filled, ascii⟩ := Text.isAsciiDigit_of_spells spells
  exact ⟨filled, fun c member => Text.isDigit_of_isAsciiDigit (ascii c member)⟩

/-- The lines at fault ascend, and they are the numbers below `2 ^ 64` that are spelled in the detail
as the line of `(line,column)` or of `Code Block n:line:column`, wherever these stand. -/
theorem errorLines_exact (diagnostic : Diagnostic) :
    diagnostic.errorLines.Pairwise (· < ·) ∧
      ∀ n, n ∈ diagnostic.errorLines ↔
        n < UInt64.size ∧ ∃ line column, Text.Spells line n ∧ IsNumeral column ∧
          (placeText line column <:+: diagnostic.detail ∨
            ∃ index, IsNumeral index ∧ labelText index line column <:+: diagnostic.detail) := by
  refine ⟨pairwise_referredLines diagnostic.detail, fun n => ?_⟩
  rw [mem_errorLines_iff, refers_iff]
  constructor
  · rintro ⟨line, column, _, columnNumeral, parsed, inDetail⟩
    obtain ⟨counted, spells⟩ := Text.parseDecimal?_eq_some_iff.mp parsed
    exact ⟨counted, line, column, spells, columnNumeral, inDetail⟩
  · rintro ⟨counted, line, column, spells, columnNumeral, inDetail⟩
    have parsed := Text.parseDecimal?_eq_some_iff.mpr ⟨counted, spells⟩
    exact ⟨line, column, isNumeral_of_spells spells, columnNumeral, parsed, inDetail⟩

-- References next to each other, zeros in front of a line, digits of another script and a line that
-- cannot be counted.
example :
    referredLines "(٣,1)(012,٤)Code Block ٢:7:1:9:1(18446744073709551616,1)((7,2)(3,)".toList =
      [7, 12] := by
  decide +kernel

end DocCheck.Diagnostic
