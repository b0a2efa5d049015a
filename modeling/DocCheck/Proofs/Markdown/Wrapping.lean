import DocCheck.Proofs.Markdown.Extraction

/-!
Documents in quotes and list items. Main statement: however deep a document that begins with a code
block is put into them, its snippets stay the same, although the code of a block in a container is
read from its lines and not from the document.
-/

namespace DocCheck

namespace Markdown

open Reader

/-- The document of passages in containers, of which the innermost is given first. -/
def Passage.wrapped (wrappers : List Wrapper) (passages : List Passage) : Text :=
  (wrap wrappers (passages.flatMap Passage.lines)).flatMap terminated

namespace WrittenBlock

variable (written : WrittenBlock)

private theorem starts_opening : Starts (terminated written.opening) := by
  obtain ⟨rest, isOpening⟩ := written.exists_opening_eq
  have plain := written.isPlainStart_mark
  refine ⟨⟨written.mark, rest, isOpening, plain.dark, plain.noSpace, plain.noBreak⟩, ?_⟩
  have noBullet : written.mark ≠ '-' := by
    rcases written.mark_eq with isMark | isMark <;> rw [isMark] <;> decide
  rw [isOpening, countBreakMarks]
  simp [plain.noBreak, noBullet, plain.dark]

/-- The first line of a document opens the containers and the block in them. -/
private theorem read_first (unindented : written.openIndent = 0) (wrappers : List Wrapper)
    (following : List Text) :
    ∃ nesting : Nesting, nesting.IsWithin wrappers ∧
      Reader.start.read
          (terminated (marks wrappers ++ (spaces written.openIndent ++ written.opening)))
          following =
        (between nesting (.fenced (written.opened (!wrappers.isEmpty) 1)) 2, none) := by
  obtain ⟨rest, isOpening⟩ := written.exists_opening_eq
  have plain := written.isPlainStart_mark
  have shape : terminated (marks wrappers ++ (spaces written.openIndent ++ written.opening)) =
      marks wrappers ++ terminated written.opening := by
    rw [unindented, terminated_append]
    rfl
  obtain ⟨nesting, within, opened⟩ := openContainers_marks wrappers
    (wrappers.length + (terminated written.opening).length + 1) written.starts_opening
  have fuel : (marks wrappers ++ terminated written.opening).length + 1 =
      wrappers.length + (wrappers.length + (terminated written.opening).length + 1) := by
    rw [List.length_append, length_marks]
    omega
  have reached : openContainers ((marks wrappers ++ terminated written.opening).length + 1) .empty
      (.ofLine (marks wrappers ++ terminated written.opening)) =
        (nesting, ⟨spaces 0 ++ written.mark :: rest, 2 * wrappers.length, 0⟩, false) := by
    rw [fuel, opened, isOpening]
    exact plain.openContainers_eq rest (Nat.zero_le 3) _ _ nesting
  have margins : nesting.closeList.hasMargin = !wrappers.isEmpty :=
    within.closeList.holds.any_hasMargin
  have first : openLine .empty 1 (marks wrappers ++ terminated written.opening) following =
      ⟨nesting.closeList, .fenced (written.opened (!wrappers.isEmpty) 1), 0⟩ := by
    have leaf := written.openLeaf_opening nesting.closeList 1 following
    rw [unindented, isOpening, margins] at leaf
    rw [plain.openLine_of_openContainers rest (Nat.zero_le 3) 1 following reached, leaf]
  have newline : endsWithNewline (marks wrappers ++ terminated written.opening) = true := by
    rw [← terminated_append, endsWithNewline_terminated]
  refine ⟨nesting.closeList, within.closeList, ?_⟩
  rw [shape]
  simp only [Reader.read, Reader.start, readOpen, first, newline, if_true]
  rfl

end WrittenBlock

end Markdown

namespace Snippet

open Markdown

/-- In whatever containers a document is, its snippets are those that its passages have to offer. -/
theorem ofDocument_wrapped_eq (languages : List Text) (wrappers : List Wrapper)
    {first : WrittenBlock} {passages : List Passage}
    (flat : ∀ passage ∈ Passage.fenced first :: passages, passage.IsFlat) :
    ofDocument languages (Passage.wrapped wrappers (.fenced first :: passages)) =
      Passage.snippets languages 1 1 (.fenced first :: passages) := by
  have flatFirst : first.IsFlat := flat _ List.mem_cons_self
  have flatLater : ∀ passage ∈ passages, passage.IsFlat := fun passage member =>
    flat passage (List.mem_cons_of_mem _ member)
  have lines : (Passage.fenced first :: passages).flatMap Passage.lines =
      (spaces first.openIndent ++ first.opening) ::
        ((first.body ++ [first.closing]) ++ passages.flatMap Passage.lines) := rfl
  have areLines : ∀ line ∈ wrap wrappers ((Passage.fenced first :: passages).flatMap
      Passage.lines), IsLine line := by
    have plain : ∀ line ∈ (Passage.fenced first :: passages).flatMap Passage.lines,
        IsLine line := by
      intro line member
      obtain ⟨passage, _, inPassage⟩ := List.mem_flatMap.mp member
      exact Passage.isLine_of_mem_lines inPassage
    rw [lines] at plain ⊢
    rw [wrap_cons]
    intro line member
    rcases List.mem_cons.mp member with rfl | later
    · exact isLine_append (isLine_marks wrappers) (plain _ List.mem_cons_self)
    · obtain ⟨line, inRest, rfl⟩ := List.mem_map.mp later
      exact isLine_append (isLine_margin wrappers) (plain _ (List.mem_cons_of_mem _ inRest))
  obtain ⟨nesting, within, opened⟩ := first.read_first flatFirst.1 wrappers
    (((first.body ++ [first.closing]).map fun line => terminated (margin wrappers ++ line)) ++
      (passages.flatMap Passage.lines).map fun line => terminated (margin wrappers ++ line))
  obtain ⟨block, isFound, blocks⟩ := first.blocks_behind_opening within (Or.inr flatFirst) 1
    ((passages.flatMap Passage.lines).map fun line => terminated (margin wrappers ++ line))
  rw [ofDocument, fencedBlocks, Passage.wrapped, splitLines_flatMap_terminated areLines, lines,
    map_terminated_wrap, List.map_append, Reader.blocks_cons, opened, Option.toList_none,
    List.nil_append, blocks]
  exact isFound.numbered languages 1 _ fun index =>
    Passage.numbered_blocks_within languages within (Or.inr flatLater) (Or.inl rfl) index _

/-- Quotes and list items around a document do not change its snippets: they have the same numbers,
lines and texts. The document is one of passages that begins with a code block; no fence of it is
indented, and its code holds no tabs. -/
theorem ofDocument_wrapped (languages : List Text) (wrappers : List Wrapper)
    (first : WrittenBlock) (passages : List Passage)
    (flat : ∀ passage ∈ Passage.fenced first :: passages, passage.IsFlat) :
    ofDocument languages (Passage.wrapped wrappers (.fenced first :: passages)) =
      ofDocument languages (Passage.document (.fenced first :: passages)) := by
  have unwrapped : Passage.wrapped [] (.fenced first :: passages) =
      Passage.document (.fenced first :: passages) := rfl
  rw [ofDocument_wrapped_eq languages wrappers flat, ← unwrapped,
    ofDocument_wrapped_eq languages [] flat]

/-- A block whose code looks like a quote and like a list item. -/
def markedBlock : WrittenBlock where
  mark := backtick
  width := 3
  openIndent := 0
  tag := "ts".toList
  attributes := none
  body := ["> a".toList, "- b".toList]
  closeIndent := 0
  closeWidth := 4
  closeSpaces := 1
  mark_eq := Or.inl rfl
  three_le_width := by decide
  openIndent_le := by decide
  tag_ne_nil := by decide
  tag_alphanumeric := Text.forall_mem_of_all (by decide)
  attributes_line := nofun
  attributes_unmarked := nofun
  body_lines := by
    intro line member
    simp only [List.mem_cons, List.not_mem_nil, or_false] at member
    rcases member with rfl | rfl
    · exact Text.forall_mem_of_all (by decide)
    · exact Text.forall_mem_of_all (by decide)
  body_open := by
    intro line member
    simp only [List.mem_cons, List.not_mem_nil, or_false] at member
    rcases member with rfl | rfl
    · exact not_closesFence_of_mem (c := 'a') (by decide) (by decide)
    · exact not_closesFence_of_mem (c := 'b') (by decide) (by decide)
  closeIndent_le := by decide
  width_le := by decide

/-- The block in a list item in a quote, with a blank line behind it: its code loses the marks of
the containers only. -/
theorem ofDocument_wrapped_item_in_quote :
    (∀ passage ∈ [Passage.fenced markedBlock, .blank 0], passage.IsFlat) ∧
      Passage.wrapped [.bullet, .quote] [.fenced markedBlock, .blank 0] =
        "> - \x60\x60\x60ts\n>   > a\n>   - b\n>   \x60\x60\x60\x60 \n>   \n".toList ∧
      ofDocument defaultLanguages
          (Passage.wrapped [.bullet, .quote] [.fenced markedBlock, .blank 0]) =
        ofDocument defaultLanguages (Passage.document [.fenced markedBlock, .blank 0]) ∧
      ofDocument defaultLanguages
          (Passage.wrapped [.bullet, .quote] [.fenced markedBlock, .blank 0]) =
        [⟨1, 1, "> a\n- b\n".toList⟩] := by
  have flat : ∀ passage ∈ [Passage.fenced markedBlock, .blank 0], passage.IsFlat := by
    intro passage member
    simp only [List.mem_cons, List.not_mem_nil, or_false] at member
    rcases member with rfl | rfl
    · exact ⟨rfl, by decide⟩
    · exact trivial
  have found : Passage.snippets defaultLanguages 1 1 [.fenced markedBlock, .blank 0] =
      [⟨1, 1, "> a\n- b\n".toList⟩] := by
    decide
  refine ⟨flat, by decide, ofDocument_wrapped defaultLanguages _ markedBlock _ flat, ?_⟩
  rw [ofDocument_wrapped_eq defaultLanguages _ flat, found]

end Snippet

end DocCheck
