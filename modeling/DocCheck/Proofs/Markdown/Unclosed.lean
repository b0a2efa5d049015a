import DocCheck.Proofs.Markdown.Alignment
import DocCheck.Proofs.Markdown.Closing
import DocCheck.Proofs.Snippet

/-!
What becomes of blocks that nothing closes. The text of a snippet is cut out of the source of its
block by a test of the last line alone, which is not the one that the reader makes. Main statement:
outside quotes and list items the code of a closed block are the lines before the one that closes it,
and the code of a block that is not closed are all lines behind its fence, unless the last that is
not empty looks as if it closed the block.
-/

namespace DocCheck

namespace Markdown

/-! ## Lines that close and lines that seem to -/

namespace Fence

variable {fence : Fence}

/-- The last line that is not empty looks like the end of the block: it consists of marks of the
fence, at least as many, and of white space around them. `code` are the lines before it. -/
def SeemsClosed (fence : Fence) (rest code : List Text) : Prop :=
  ∃ last blank, rest = code ++ last :: blank ∧ (∀ line ∈ blank, withoutEnd line = []) ∧
    Snippet.closesFence fence.mark fence.width (withoutEnd last) = true

/-- A line that closes a fence seems to. -/
private theorem closesFence_of_isClosedBy (isMark : fence.mark = backtick ∨ fence.mark = '~')
    (wide : 3 ≤ fence.width) {line : Text} (toEnd : IsEnded line ∨ IsLine line)
    (closes : fence.isClosedBy line = true) :
    Snippet.closesFence fence.mark fence.width (withoutEnd line) = true := by
  obtain ⟨indent, marks, rfl, stops⟩ := exists_spaces line
  rw [isClosedBy_spaces_append stops] at closes
  simp only [Bool.and_eq_true, decide_eq_true_eq] at closes
  obtain ⟨⟨-, enough⟩, ends⟩ := closes
  obtain ⟨spaced, after, isSpaced, isAfter⟩ := exists_spaces (leadingRun fence.mark marks).2
  rw [isSpaced, dropWhile_spaces isAfter] at ends
  have isMarks := eq_replicate_append_leadingRun fence.mark marks
  rw [isSpaced] at isMarks
  generalize (leadingRun fence.mark marks).1 = width at enough isMarks
  have whole : spaces indent ++ marks =
      (spaces indent ++ (List.replicate width fence.mark ++ spaces spaced)) ++ after := by
    rw [isMarks]
    simp
  have isLine : IsLine (spaces indent ++ (List.replicate width fence.mark ++ spaces spaced)) :=
    isLine_append (isLine_spaces indent)
      (isLine_append (isLine_replicate (noBreak_of_isMark isMark) width) (isLine_spaces spaced))
  rw [← eq_withoutEnd toEnd whole isLine ends]
  exact Snippet.closesFence_spaces_append isMark (by omega) enough indent spaced

end Fence

/-! ## The end of a document -/

/-- A line is what stands in it and its end. -/
private theorem exists_ending {line : Text} (toEnd : IsEnded line ∨ IsLine line) :
    ∃ ending, line = withoutEnd line ++ ending ∧ IsLine (withoutEnd line) ∧
      ∀ c ∈ ending, Snippet.isLineBreak c = true := by
  rcases toEnd with isEnded | isLine
  · cases isEnded with
    | newline isLine =>
        rw [withoutEnd_newline isLine]
        exact ⟨_, rfl, isLine, by simp [Snippet.isLineBreak]⟩
    | paired isLine =>
        rw [withoutEnd_paired isLine]
        exact ⟨_, rfl, isLine, by simp [Snippet.isLineBreak]⟩
  · rw [withoutEnd_of_isLine isLine]
    exact ⟨[], (List.append_nil line).symm, isLine, by simp⟩

private theorem IsLines.toEnd {lines : List Text} (areLines : IsLines lines) :
    ∀ line ∈ lines, IsEnded line ∨ IsLine line := by
  induction lines with
  | nil => exact nofun
  | cons first lines inductionHypothesis =>
      intro line member
      rcases List.mem_cons.mp member with rfl | later
      · exact areLines.1.imp_right And.left
      · exact inductionHypothesis areLines.2 line later

private theorem isLineBreak_of_blank {blank : List Text} (areLines : IsLines blank)
    (empty : ∀ line ∈ blank, withoutEnd line = []) :
    ∀ c ∈ blank.flatten, Snippet.isLineBreak c = true := by
  intro c member
  obtain ⟨line, inBlank, inLine⟩ := List.mem_flatten.mp member
  obtain ⟨ending, isLine, -, isEnd⟩ := exists_ending (areLines.toEnd line inBlank)
  rw [empty line inBlank, List.nil_append] at isLine
  exact isEnd c (isLine ▸ inLine)

private theorem exists_last_filled (lines : List Text) :
    (∀ line ∈ lines, withoutEnd line = []) ∨
      ∃ code last blank, lines = code ++ last :: blank ∧ withoutEnd last ≠ [] ∧
        ∀ line ∈ blank, withoutEnd line = [] := by
  induction lines with
  | nil => exact Or.inl nofun
  | cons line lines inductionHypothesis =>
      rcases inductionHypothesis with empty | ⟨code, last, blank, rfl, filled, empty⟩
      · by_cases first : withoutEnd line = []
        · exact Or.inl (List.forall_mem_cons.mpr ⟨first, empty⟩)
        · exact Or.inr ⟨[], line, lines, rfl, first, empty⟩
      · exact Or.inr ⟨line :: code, last, blank, rfl, filled, empty⟩

/-! ## The code of a block outside containers -/

namespace Fence

variable {fence : Fence}

private theorem not_seemsClosed_nil (code : List Text) : ¬ fence.SeemsClosed [] code := by
  rintro ⟨last, blank, whole, -, -⟩
  simp at whole

private theorem Begins.fenceMark?_eq {line lead : Text}
    (begins : fence.Begins line (lead ++ ['\n'])) :
    Snippet.fenceMark? lead = some (fence.mark, fence.width) := by
  have := begins.wide
  obtain ⟨after, isText, stops⟩ := begins.run
  rcases List.eq_nil_or_concat after with rfl | ⟨info, last, rfl⟩
  · -- The newline would be one of the marks.
    have member : '\n' ∈ List.replicate fence.width fence.mark := by
      rw [List.append_nil] at isText
      rw [← isText]
      simp
    exact absurd (List.eq_of_mem_replicate member).symm (noBreak_of_isMark begins.mark).1
  · rw [List.concat_eq_append, ← List.append_assoc] at isText
    obtain ⟨rfl, -⟩ := List.append_inj' isText rfl
    refine Snippet.fenceMark?_replicate begins.mark (by omega) fun first => stops ?_
    rw [List.concat_eq_append, List.head?_append, first, Option.some_or]

/-- How a text is cut out of the lines behind an opening fence. -/
structure Cuts (fence : Fence) (rest : List Text) (text : Text) : Prop where
  /-- The lines before the one that closes the block. -/
  closed : (∃ line ∈ rest, fence.isClosedBy line = true) →
    text = (rest.takeWhile fun line => !fence.isClosedBy line).flatten
  /-- All lines, unless the block seems to be closed. -/
  runsOn : (∀ line ∈ rest, fence.isClosedBy line = false) →
    (text = rest.flatten ↔ ∀ code, ¬ fence.SeemsClosed rest code)
  /-- The lines before the one that seems to close it. -/
  cutOff : (∀ line ∈ rest, fence.isClosedBy line = false) →
    ∀ code, fence.SeemsClosed rest code → text = code.flatten

section Ended

variable {opening lead : Text} (begins : fence.Begins opening (lead ++ ['\n']))
  (unbroken : '\n' ∉ lead)

include begins unbroken

private theorem Begins.fencedBody_lines {code blank : List Text} {last : Text}
    (areLines : IsLines (code ++ last :: blank)) (filled : withoutEnd last ≠ [])
    (empty : ∀ line ∈ blank, withoutEnd line = []) :
    Snippet.fencedBody (lead ++ '\n' :: (code ++ last :: blank).flatten) =
      if Snippet.closesFence fence.mark fence.width (withoutEnd last) then code.flatten
      else (code ++ last :: blank).flatten := by
  obtain ⟨ending, isLast, isLine, isEnd⟩ := exists_ending (areLines.toEnd last (by simp))
  have blankEnd := isLineBreak_of_blank areLines.of_append_right.2 empty
  have whole : (code ++ last :: blank).flatten =
      code.flatten ++ withoutEnd last ++ (ending ++ blank.flatten) := by
    rw [List.flatten_append, List.flatten_cons, List.append_assoc, ← List.append_assoc _ ending,
      ← isLast]
  rw [whole]
  refine Snippet.fencedBody_append unbroken begins.fenceMark?_eq
    (endsWithNewline_flatten areLines.isEnded) filled isLine fun c member => ?_
  exact (List.mem_append.mp member).elim (isEnd c) (blankEnd c)

private theorem Begins.cuts_closed {code after : List Text} {line : Text}
    (areLines : IsLines (code ++ line :: after))
    (isCode : ∀ other ∈ code, fence.isClosedBy other = false)
    (closes : fence.isClosedBy line = true) :
    fence.Cuts (code ++ line :: after)
      (Snippet.fencedBody (lead ++ '\n' :: (code.flatten ++ withoutEnd line))) := by
  have wide := begins.wide
  have toEnd := areLines.toEnd line (by simp)
  have seems := closesFence_of_isClosedBy begins.mark wide toEnd closes
  obtain ⟨-, -, isLine, -⟩ := exists_ending toEnd
  have filled : withoutEnd line ≠ [] := by
    intro empty
    rw [empty, Snippet.closesFence_nil _ (by omega)] at seems
    cases seems
  have noEnd : ∀ c ∈ ([] : Text), Snippet.isLineBreak c = true := by simp
  have body := Snippet.fencedBody_append unbroken begins.fenceMark?_eq
    (endsWithNewline_flatten areLines.isEnded) filled isLine noEnd
  rw [List.append_nil, seems, if_pos rfl] at body
  have none : ¬ ∀ other ∈ code ++ line :: after, fence.isClosedBy other = false := by
    intro unclosed
    rw [unclosed line (by simp)] at closes
    cases closes
  refine ⟨fun _ => ?_, fun unclosed => absurd unclosed none, fun unclosed => absurd unclosed none⟩
  rw [body, List.takeWhile_append_of_pos (by simpa using isCode),
    List.takeWhile_cons_of_neg (by simp [closes]), List.append_nil]

private theorem Begins.cuts_runsOn {rest : List Text} (areLines : IsLines rest)
    (isCode : ∀ line ∈ rest, fence.isClosedBy line = false) :
    fence.Cuts rest (Snippet.fencedBody (lead ++ '\n' :: rest.flatten)) := by
  have wide := begins.wide
  have cutOff : ∀ code, fence.SeemsClosed rest code →
      Snippet.fencedBody (lead ++ '\n' :: rest.flatten) = code.flatten ∧
        code.flatten ≠ rest.flatten := by
    rintro code ⟨last, blank, rfl, empty, seems⟩
    have filled : withoutEnd last ≠ [] := by
      intro none
      rw [none, Snippet.closesFence_nil _ (by omega)] at seems
      cases seems
    refine ⟨by rw [begins.fencedBody_lines unbroken areLines filled empty, if_pos seems], ?_⟩
    intro same
    obtain ⟨ending, isLast, -, -⟩ := exists_ending (areLines.toEnd last (by simp))
    have counted := congrArg List.length same
    rw [List.flatten_append, List.flatten_cons, isLast] at counted
    simp only [List.length_append] at counted
    have := List.length_pos_iff.mpr filled
    omega
  refine ⟨?_, fun _ => ⟨fun whole code seems => ?_, fun stays => ?_⟩,
    fun _ code seems => (cutOff code seems).1⟩
  · rintro ⟨line, member, closes⟩
    rw [isCode line member] at closes
    cases closes
  · exact (cutOff code seems).2 ((cutOff code seems).1.symm.trans whole)
  · rcases exists_last_filled rest with empty | ⟨code, last, blank, rfl, filled, empty⟩
    · exact Snippet.fencedBody_blank unbroken begins.fenceMark?_eq (by omega)
        (isLineBreak_of_blank areLines empty)
    · rw [begins.fencedBody_lines unbroken areLines filled empty, if_neg]
      exact fun seems => stays code ⟨last, blank, rfl, empty, seems⟩

end Ended

end Fence

theorem FencedBlock.TakenFrom.cuts {block : FencedBlock} {lines rest : List Text} {fence : Fence}
    (taken : block.TakenFrom lines fence rest) (areLines : IsLines lines) :
    fence.Cuts rest (Snippet.fencedBody block.source) := by
  obtain ⟨before, opening, first, rfl, -, begins, takes⟩ := taken
  have blockLines := areLines.of_append_right
  rcases blockLines.1 with isEnded | ⟨isLine, rfl⟩
  · obtain ⟨lead, rfl, unbroken⟩ := (isEnded.behind begins.behind).1.exists_eq
    cases takes with
    | closed isCode closes isSource =>
        rw [isSource, List.append_assoc, List.append_assoc, List.singleton_append]
        exact begins.cuts_closed unbroken blockLines.2 isCode closes
    | runsOn isCode isSource =>
        rw [isSource, List.append_assoc, List.singleton_append]
        exact begins.cuts_runsOn unbroken blockLines.2 isCode
  · generalize isRest : ([] : List Text) = rest at takes
    cases takes with
    | closed _ _ _ => simp at isRest
    | runsOn _ isSource =>
        subst isRest
        rw [isSource, List.flatten_nil, List.append_nil,
          fencedBody_of_isLine (isLine.behind begins.behind).1]
        exact ⟨by simp, fun _ => iff_of_true rfl Fence.not_seemsClosed_nil,
          fun _ code seems => absurd seems (Fence.not_seemsClosed_nil code)⟩

end Markdown

namespace Snippet

open Markdown

/-- Outside quotes and list items the text of a snippet goes up to the first line that closes the
block. Where none does, it is all that stands behind the line of the opening fence, exactly if the
last line that is not empty does not seem to close the block. -/
theorem ofDocument_cuts (languages : List Text) {document : Text}
    (paired : PairedReturns document) :
    List.Forall₂ (fun block snippet => block.nested = false →
        ∃ fence rest, block.TakenFrom (splitLines document) fence rest ∧
          fence.Cuts rest snippet.text)
      ((fencedBlocks document).filter (isIn languages)) (ofDocument languages document) := by
  refine forall₂_numbered (fun block member index outside => ?_) 1
  obtain ⟨fence, rest, taken⟩ :=
    takenFrom_of_mem_fencedBlocks paired block (List.mem_filter.mp member).1 outside
  refine ⟨fence, rest, taken, ?_⟩
  dsimp only
  rw [codeOf, outside, if_neg Bool.false_ne_true]
  exact taken.cuts (isLines_splitLines paired).1

theorem ofDocument_cuts_other_mark :
    let document := "```ts\na\n~~~\n".toList
    PairedReturns document ∧
      ((fencedBlocks document).filter (isIn defaultLanguages)).map FencedBlock.nested = [false] ∧
      ofDocument defaultLanguages document = [⟨1, 1, "a\n~~~\n".toList⟩] ∧
      List.Forall₂ (fun block snippet => block.nested = false →
          ∃ fence rest, block.TakenFrom (splitLines document) fence rest ∧
            fence.Cuts rest snippet.text)
        ((fencedBlocks document).filter (isIn defaultLanguages))
        (ofDocument defaultLanguages document) := by
  intro document
  have paired : PairedReturns document := by decide +kernel
  exact ⟨paired, by decide +kernel, by decide +kernel, ofDocument_cuts defaultLanguages paired⟩

/-- The reader takes the last line as code, because it is indented by four columns, and the block
runs to the end of the document; but the snippet lacks the line. -/
theorem ofDocument_indented_marks :
    let document := "```ts\na\n    ```\n".toList
    let rest := (splitLines document).drop 1
    PairedReturns document ∧
      (fencedBlocks document).map (fun block => (block.nested, block.line, block.source)) =
        [(false, 1, document)] ∧
      (∀ line ∈ rest, Fence.isClosedBy ⟨backtick, 3, 0⟩ line = false) ∧
      rest.flatten = "a\n    ```\n".toList ∧
      ofDocument defaultLanguages document = [⟨1, 1, "a\n".toList⟩] := by
  decide +kernel

end Snippet

end DocCheck
