import DocCheck.Proofs.Markdown.Standing

/-!
Lines of snippets as lines of documents. Main statement: the lines of a snippet are the lines of its
document from the one behind the opening fence on, and snippets are in the order of their lines.
-/

namespace DocCheck

namespace Markdown

open Snippet

/-! ## The code of a block -/

private theorem endsWithNewline_dropEndWhile (text : Text) :
    Text.dropEndWhile (· != '\n') text = [] ∨
      endsWithNewline (Text.dropEndWhile (· != '\n') text) = true := by
  cases last : (Text.dropEndWhile (· != '\n') text).getLast? with
  | none => exact Or.inl (List.getLast?_eq_none_iff.mp last)
  | some c =>
      have kept := Text.getLast?_dropEndWhile (· != '\n') text c last
      right
      rw [endsWithNewline, last]
      simpa using kept

private theorem take_length_sub_lastLine (text : Text) :
    text.take (text.length - (text.reverse.takeWhile (· != '\n')).reverse.length) =
      Text.dropEndWhile (· != '\n') text := by
  change text.take (text.length - (text.rtakeWhile (· != '\n')).length) =
    text.rdropWhile (· != '\n')
  have whole : text.rdropWhile (· != '\n') ++ text.rtakeWhile (· != '\n') = text :=
    List.rdropWhile_append_rtakeWhile
  have counted := congrArg List.length whole
  rw [List.length_append] at counted
  rw [← counted, Nat.add_sub_cancel]
  exact (List.prefix_iff_eq_take.mp (List.rdropWhile_prefix _ text)).symm

/-- The last line is cut off as a whole or not at all. -/
theorem lines_fencedBody {opening : Text} (unbroken : '\n' ∉ opening) (body : Text) :
    Text.lines (fencedBody (opening ++ '\n' :: body)) <+: Text.lines body := by
  rw [fencedBody, Text.splitOnce?_singleton unbroken]
  dsimp only
  split
  · exact List.nil_prefix
  · split
    · rw [take_length_sub_lastLine]
      exact lines_prefix (endsWithNewline_dropEndWhile _)
        ((List.rdropWhile_prefix _ _).trans (List.rdropWhile_prefix _ _))
    · exact List.prefix_refl _

private theorem isPrefix_lines_code {code after : List Text} {closing : Text}
    (areLines : IsLines (code ++ after)) (isClosing : IsClosing closing after) :
    Text.lines (code.flatten ++ closing) <+: (code ++ after).map withoutEnd := by
  rw [List.map_append]
  rcases isClosing with rfl | ⟨line, rest, rfl, isLine, whole⟩
  · rw [List.append_nil]
    exact areLines.of_append_left.isPrefix_lines_flatten.trans (List.prefix_append _ _)
  · have closed := (IsLines.concat areLines.isEnded (Or.inr isLine)).isPrefix_lines_flatten
    rw [List.flatten_append, List.flatten_singleton, List.map_append, List.map_singleton,
      withoutEnd_of_isLine isLine] at closed
    refine closed.trans ?_
    rw [List.prefix_append_right_inj, List.map_cons, ← whole]
    exact ⟨_, rfl⟩

theorem fencedBody_of_isLine {source : Text} (isLine : IsLine source) : fencedBody source = [] := by
  have unsplit : Text.splitOnce? ['\n'] source = none := by
    induction source with
    | nil => rfl
    | cons c rest inductionHypothesis =>
        have noBreak := isLine c List.mem_cons_self
        have later := inductionHypothesis fun d member => isLine d (List.mem_cons_of_mem c member)
        simp [Text.splitOnce?, List.isPrefixOf?, Ne.symm noBreak.1, later]
  rw [fencedBody, unsplit]

private theorem lines_fencedBody_source {block : FencedBlock} {opening closing : Text}
    {code after : List Text} (took : block.Took opening code closing)
    (areLines : IsLines (opening :: (code ++ after))) (isClosing : IsClosing closing after) :
    Text.lines (fencedBody block.source) <+: (code ++ after).map withoutEnd := by
  obtain ⟨fence, text, begins, isSource⟩ := took.source
  rcases areLines.1 with isEnded | ⟨isLine, isLast⟩
  · obtain ⟨lead, rfl, unbroken⟩ := (isEnded.behind begins.behind).1.exists_eq
    rw [isSource, List.append_assoc, List.append_assoc, List.singleton_append]
    exact (lines_fencedBody unbroken _).trans (isPrefix_lines_code areLines.2 isClosing)
  · obtain ⟨rfl, rfl⟩ := List.append_eq_nil_iff.mp isLast
    rw [isSource, isClosing.eq_nil, List.flatten_nil, List.append_nil, List.append_nil,
      fencedBody_of_isLine (isLine.behind begins.behind).1]
    exact List.nil_prefix

private theorem getElem?_of_prefix {α : Type} {front whole : List α} (isPrefix : front <+: whole)
    {place : Nat} {x : α} (found : front[place]? = some x) : whole[place]? = some x := by
  obtain ⟨rest, rfl⟩ := isPrefix
  rw [List.getElem?_append_left (List.getElem?_eq_some_iff.mp found).1, found]

private theorem exists_getElem?_of_forall₂ {α β : Type} {related : α → β → Prop} {left : List α}
    {right : List β} (areRelated : List.Forall₂ related left right) {place : Nat} {x : α}
    (found : left[place]? = some x) : ∃ y, right[place]? = some y ∧ related x y := by
  induction areRelated generalizing place with
  | nil => cases found
  | cons first _ inductionHypothesis =>
      cases place with
      | zero =>
          cases found
          exact ⟨_, rfl, first⟩
      | succ place => exact inductionHypothesis found

/-- What is read of the lines of code goes on like the lines of the document, line by line. -/
private theorem exists_line_of_content {block : FencedBlock} {opening closing : Text}
    {code : List Text}
    (took : block.Took opening code closing) (areLines : IsLines code) {place : Nat} {line : Text}
    (isLine : (Text.lines block.content)[place]? = some line) :
    ∃ docLine, (code.map withoutEnd)[place]? = some docLine ∧
      line.dropWhile isIndent <:+ docLine := by
  obtain ⟨pieces, arePieces, isContent⟩ := took.content
  obtain ⟨pieceLines, suffixes⟩ := isLines_of_pieces arePieces areLines
  rw [isContent] at isLine
  have isPiece := getElem?_of_prefix pieceLines.isPrefix_lines_flatten isLine
  rw [List.getElem?_map, Option.map_eq_some_iff] at isPiece
  obtain ⟨piece, found, rfl⟩ := isPiece
  obtain ⟨codeLine, inCode, isSuffix⟩ := exists_getElem?_of_forall₂ suffixes found
  exact ⟨withoutEnd codeLine, by rw [List.getElem?_map, inCode]; rfl, isSuffix⟩

/-- The first line of a block stands in the document behind a margin, and begins with the fence. -/
private theorem Fence.Begins.firstLine {fence : Fence} {opening text : Text}
    (begins : fence.Begins opening text) (toEnd : IsEnded opening ∨ IsLine opening) :
    ∃ info, withoutEnd text = List.replicate fence.width fence.mark ++ info ∧
      info.head? ≠ some fence.mark ∧ withoutEnd text <:+ withoutEnd opening := by
  obtain ⟨after, isText, stops⟩ := begins.run
  have marks := isLine_replicate (noBreak_of_isMark begins.mark) fence.width
  rcases toEnd with isEnded | isLine
  · obtain ⟨textEnded, isSuffix⟩ := isEnded.behind begins.behind
    have afterEnded := (textEnded.behind ⟨_, isText, marks⟩).1
    refine ⟨withoutEnd after, ?_, fun first => ?_, isSuffix⟩
    · rw [isText, (afterEnded.append marks).2]
    · exact stops (afterEnded.head?_withoutEnd _ first)
  · obtain ⟨textLine, isSuffix⟩ := isLine.behind begins.behind
    exact ⟨after, by rw [withoutEnd_of_isLine textLine]; exact isText, stops, isSuffix⟩

private theorem head?_lines_source {block : FencedBlock} {opening closing : Text}
    {code after : List Text}
    (took : block.Took opening code closing) (areLines : IsLines (opening :: (code ++ after)))
    (isClosing : IsClosing closing after) :
    ∃ fence text, Fence.Begins fence opening text ∧
      (Text.lines block.source).head? = some (withoutEnd text) := by
  obtain ⟨fence, text, begins, isSource⟩ := took.source
  refine ⟨fence, text, begins, ?_⟩
  rcases areLines.1 with isEnded | ⟨isLine, isLast⟩
  · rw [isSource, List.append_assoc, (isEnded.behind begins.behind).1.lines_append]
    rfl
  · obtain ⟨rfl, rfl⟩ := List.append_eq_nil_iff.mp isLast
    have textLine := (isLine.behind begins.behind).1
    have filled : text ≠ [] := by
      obtain ⟨info, isText, -⟩ := begins.run
      rintro rfl
      have counted := congrArg List.length isText
      rw [List.length_append, List.length_replicate, List.length_nil] at counted
      have := begins.wide
      omega
    rw [isSource, isClosing.eq_nil, List.flatten_nil, List.append_nil, List.append_nil,
      lines_of_isLine textLine filled, withoutEnd_of_isLine textLine]
    rfl

end Markdown

namespace Snippet

open Markdown

/-- A snippet and the block it is taken from stand in the document line by line: what is asked of
lines counts them from zero. -/
structure LinesUp (document : Text) (block : FencedBlock) (snippet : Snippet) : Prop where
  line_eq : snippet.line = block.line
  text_eq : snippet.text = codeOf block
  line_pos : 0 < snippet.line
  /-- The line of the snippet ends with the run of marks and what stands behind it, which are the
  first line of the block. -/
  opening : ∃ mark width info line, (mark = backtick ∨ mark = '~') ∧ 3 ≤ width ∧
    info.head? ≠ some mark ∧
    (Text.lines block.source).head? = some (List.replicate width mark ++ info) ∧
    (Text.lines document)[snippet.line - 1]? = some line ∧
    List.replicate width mark ++ info <:+ line
  /-- Behind it the document goes on like the code, but for the margin of a block in a quote or a
  list item. -/
  code : ∀ place codeLine, (Text.lines snippet.text)[place]? = some codeLine →
    ∃ line, (Text.lines document)[snippet.line + place]? = some line ∧
      (block.nested = false → codeLine = line) ∧
      (block.nested = true → codeLine.dropWhile isIndent <:+ line)

theorem linesUp_of_standsIn {document : Text} (paired : PairedReturns document)
    {block : FencedBlock} (standsIn : block.StandsIn (splitLines document)) (index : Nat) :
    LinesUp document block ⟨index, block.line, codeOf block⟩ := by
  have areLines := (isLines_splitLines paired).1
  have docLines := lines_eq_map_splitLines paired
  obtain ⟨before, opening, code, closing, after, isDocument, number, took, isClosing⟩ := standsIn
  rw [isDocument] at areLines docLines
  rw [List.map_append, List.map_cons] at docLines
  have blockLines := areLines.of_append_right
  refine ⟨rfl, rfl, by rw [number]; exact Nat.succ_pos _, ?_, ?_⟩
  · obtain ⟨fence, text, begins, first⟩ := head?_lines_source took blockLines isClosing
    obtain ⟨info, isText, stops, isSuffix⟩ := begins.firstLine (blockLines.1.imp_right And.left)
    rw [isText] at first isSuffix
    refine ⟨fence.mark, fence.width, info, withoutEnd opening, begins.mark, begins.wide, stops,
      first, ?_, isSuffix⟩
    rw [docLines, number, Nat.add_sub_cancel, List.getElem?_append_right (by simp)]
    simp
  · intro place codeLine isCode
    have shifted : (Text.lines document)[block.line + place]? =
        ((code ++ after).map withoutEnd)[place]? := by
      rw [docLines, number, List.getElem?_append_right (by simp; omega), List.length_map,
        show before.length + 1 + place - before.length = place + 1 by omega,
        List.getElem?_cons_succ]
    change ∃ line, (Text.lines document)[block.line + place]? = some line ∧ _
    rw [shifted]
    change (Text.lines (codeOf block))[place]? = some codeLine at isCode
    rw [codeOf] at isCode
    cases nested : block.nested with
    | false =>
        rw [nested, if_neg Bool.false_ne_true] at isCode
        have inDocument := getElem?_of_prefix
          (lines_fencedBody_source took blockLines isClosing) isCode
        exact ⟨codeLine, inDocument, fun _ => rfl, nofun⟩
    | true =>
        rw [nested, if_pos rfl] at isCode
        obtain ⟨line, inCode, isSuffix⟩ := exists_line_of_content took
          blockLines.2.of_append_left isCode
        rw [List.map_append]
        exact ⟨line, getElem?_of_prefix (List.prefix_append _ _) inCode, nofun, fun _ => isSuffix⟩

theorem forall₂_numbered {related : FencedBlock → Snippet → Prop} {blocks : List FencedBlock}
    (areRelated : ∀ block ∈ blocks, ∀ index, related block ⟨index, block.line, codeOf block⟩)
    (index : Nat) : List.Forall₂ related blocks (numbered index blocks) := by
  induction blocks generalizing index with
  | nil => exact .nil
  | cons block blocks inductionHypothesis =>
      exact .cons (areRelated block List.mem_cons_self index)
        (inductionHypothesis (fun other member =>
          areRelated other (List.mem_cons_of_mem block member)) (index + 1))

private theorem map_line_numbered (index : Nat) (blocks : List FencedBlock) :
    (numbered index blocks).map Snippet.line = blocks.map FencedBlock.line := by
  induction blocks generalizing index with
  | nil => rfl
  | cons block blocks inductionHypothesis =>
      rw [numbered, List.map_cons, List.map_cons, inductionHypothesis]

/-- In a document where a newline follows every carriage return, snippets line up with its lines and
are in the order of their lines. -/
theorem lines_align (languages : List Text) {document : Text} (paired : PairedReturns document) :
    List.Forall₂ (LinesUp document) ((fencedBlocks document).filter (isIn languages))
        (ofDocument languages document) ∧
      (ofDocument languages document).Pairwise fun first second => first.line < second.line := by
  refine ⟨forall₂_numbered (fun block member index => ?_) 1, ?_⟩
  · have found := standsIn_of_mem_fencedBlocks paired block (List.mem_filter.mp member).1
    exact linesUp_of_standsIn paired found index
  · have ordered := (pairwise_fencedBlocks paired).filter (isIn languages)
    rw [← List.pairwise_map, ofDocument, map_line_numbered, List.pairwise_map]
    exact ordered

theorem lines_align_in_quote :
    let document := "Use\r\n\r\n> ~~~ts\r\n>  let a = 1;\r\n> ~~~\r\n~~~ts\nlet b = 2;\n".toList
    PairedReturns document ∧
      ofDocument defaultLanguages document =
        [⟨1, 3, " let a = 1;\n".toList⟩, ⟨2, 6, "let b = 2;\n".toList⟩] ∧
      List.Forall₂ (LinesUp document) ((fencedBlocks document).filter (isIn defaultLanguages))
        (ofDocument defaultLanguages document) ∧
      (ofDocument defaultLanguages document).Pairwise fun first second =>
        first.line < second.line := by
  intro document
  have paired : PairedReturns document := by decide +kernel
  exact ⟨paired, by decide +kernel, lines_align defaultLanguages paired⟩

end Snippet

end DocCheck
