import DocCheck.Snippet
import DocCheck.Proofs.Markdown.Line
import DocCheck.Proofs.Text.Basic

/-!
What the source of a block leaves for its code. Main statement: behind the line of the opening fence
everything is code, but for the last line that is not empty, which is cut off with all that follows
where it consists of marks.
-/

namespace DocCheck.Snippet

open Markdown

/-! ## Fences and their marks -/

section Marks

variable {mark : Char} (isMark : mark = backtick ∨ mark = '~') {width : Nat} (filled : width ≠ 0)

include isMark filled

theorem fenceMark?_replicate {info : Text} (stops : info.head? ≠ some mark) :
    fenceMark? (List.replicate width mark ++ info) = some (mark, width) := by
  obtain ⟨fewer, rfl⟩ := Nat.exists_eq_succ_of_ne_zero filled
  have run := leadingRun_replicate stops (fewer + 1)
  have dark : (mark == ' ') = false := by rcases isMark with rfl | rfl <;> rfl
  have found : (mark = backtick || mark = '~') = true := by simpa using isMark
  rw [List.replicate_succ, List.cons_append] at run ⊢
  rw [fenceMark?, List.dropWhile_cons_of_neg (by simp [dark])]
  simp only [run, found, if_true]

private theorem trim_spaces_append (before after : Nat) :
    Text.trim (spaces before ++ (List.replicate width mark ++ spaces after)) =
      List.replicate width mark := by
  have dark : Text.isWhite mark = false := by rcases isMark with rfl | rfl <;> decide
  have white : ∀ count, ∀ c ∈ spaces count, Text.isWhite c = true := by
    intro count c member
    rw [List.eq_of_mem_replicate member]
    decide
  have unindented : (List.replicate width mark ++ spaces after).dropWhile Text.isWhite =
      List.replicate width mark ++ spaces after := by
    obtain ⟨fewer, rfl⟩ := Nat.exists_eq_succ_of_ne_zero filled
    rw [List.replicate_succ, List.cons_append, List.dropWhile_cons_of_neg (by simp [dark])]
  rw [Text.trim, List.dropWhile_append_of_pos (white before), unindented]
  refine Text.dropEndWhile_append_of_all (fun c last => ?_) (white after)
  rw [List.eq_of_mem_replicate (List.mem_of_getLast? last)]
  exact dark

theorem closesFence_spaces_append {least : Nat} (wide : least ≤ width) (before after : Nat) :
    closesFence mark least (spaces before ++ (List.replicate width mark ++ spaces after)) =
      true := by
  rw [closesFence, trim_spaces_append isMark filled, List.length_replicate]
  simp [wide]

end Marks

theorem closesFence_nil (mark : Char) {width : Nat} (filled : width ≠ 0) :
    closesFence mark width [] = false := by
  have empty : Text.trim [] = [] := rfl
  rw [closesFence, empty, List.length_nil, decide_eq_false (by omega), Bool.false_and]

/-! ## Behind the opening fence -/

/-- The last line that is not empty decides; `front` are the lines before it, and `ends` is all that
stands behind it. -/
theorem fencedBody_append {opening front last ends : Text} {mark : Char} {width : Nat}
    (unbroken : '\n' ∉ opening) (isFence : fenceMark? opening = some (mark, width))
    (whole : front = [] ∨ endsWithNewline front = true) (filled : last ≠ []) (isLine : IsLine last)
    (isEnd : ∀ c ∈ ends, isLineBreak c = true) :
    fencedBody (opening ++ '\n' :: (front ++ last ++ ends)) =
      if closesFence mark width last then front else front ++ last ++ ends := by
  have content : Text.dropEndWhile isLineBreak (front ++ last ++ ends) = front ++ last := by
    obtain ⟨d, isLast⟩ := Option.ne_none_iff_exists'.mp (mt List.getLast?_eq_none_iff.mp filled)
    refine Text.dropEndWhile_append_of_all (fun c atEnd => ?_) isEnd
    rw [List.getLast?_append, isLast, Option.some_or] at atEnd
    simpa [isLineBreak] using isLine c (List.mem_of_getLast? (isLast.trans atEnd))
  have stops : front.reverse.takeWhile (· != '\n') = [] := by
    rcases whole with rfl | ended
    · rfl
    · rw [endsWithNewline, ← List.head?_reverse] at ended
      cases isReversed : front.reverse with
      | nil => rfl
      | cons c rest =>
          rw [isReversed] at ended
          exact List.takeWhile_cons_of_neg (by simpa using ended)
  have lastLine : ((front ++ last).reverse.takeWhile (· != '\n')).reverse = last := by
    rw [List.reverse_append, List.takeWhile_append_of_pos, stops, List.append_nil,
      List.reverse_reverse]
    intro c member
    simpa using (isLine c (List.mem_reverse.mp member)).1
  rw [fencedBody, Text.splitOnce?_singleton unbroken]
  simp only [isFence, content, lastLine, List.length_append, Nat.add_sub_cancel, List.take_left]

/-- Empty lines are code. -/
theorem fencedBody_blank {opening ends : Text} {mark : Char} {width : Nat}
    (unbroken : '\n' ∉ opening) (isFence : fenceMark? opening = some (mark, width))
    (filled : width ≠ 0) (isEnd : ∀ c ∈ ends, isLineBreak c = true) :
    fencedBody (opening ++ '\n' :: ends) = ends := by
  have content : Text.dropEndWhile isLineBreak ends = [] := List.rdropWhile_eq_nil_iff.mpr isEnd
  rw [fencedBody, Text.splitOnce?_singleton unbroken]
  simp only [isFence, content, List.reverse_nil, List.takeWhile_nil, closesFence_nil mark filled,
    Bool.false_eq_true, if_false]

end DocCheck.Snippet
