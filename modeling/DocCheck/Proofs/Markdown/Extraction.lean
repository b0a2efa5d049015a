import DocCheck.Proofs.Markdown.LineEnd
import DocCheck.Proofs.Markdown.Reading
import DocCheck.Proofs.Snippet

/-!
Snippets of documents that are written passage by passage. The reader finds the code blocks of the
passages, in whatever containers they all stand. Outside containers what is stripped from the source
of each are its two fences and nothing else, and inside them its content is what was written. Main
statement: the snippets of a document are those that its passages have to offer.
-/

namespace DocCheck

namespace Markdown

/-! ## The tag of a block -/

private theorem unescapeWithin_append {lead : Text}
    (plain : ∀ c ∈ lead, c ≠ '\\' ∧ c ≠ '&' ∧ c ≠ '\r') (fuel : Nat) (rest : Text) :
    unescapeWithin (lead.length + fuel) (lead ++ rest) = lead ++ unescapeWithin fuel rest := by
  induction lead with
  | nil => rw [List.length_nil, Nat.zero_add, List.nil_append, List.nil_append]
  | cons c lead inductionHypothesis =>
      have first := plain c List.mem_cons_self
      have later := inductionHypothesis fun d member => plain d (List.mem_cons_of_mem c member)
      rw [List.length_cons, Nat.add_right_comm, List.cons_append, List.cons_append, ← later]
      simp only [unescapeWithin, first, if_false]

/-- Behind a tag nothing follows, or a space does. -/
private def BeginsInSpace (text : Text) : Prop :=
  ∀ c ∈ text.head?, c = ' '

namespace BeginsInSpace

private theorem trimmed {text : Text} (begins : BeginsInSpace text) (inClass : Char → Bool) :
    BeginsInSpace (Text.dropEndWhile inClass text) :=
  fun c first => begins c (Text.head?_of_head?_dropEndWhile first)

private theorem unescaped {text : Text} (begins : BeginsInSpace text) (fuel : Nat) :
    BeginsInSpace (unescapeWithin fuel text) := by
  cases text with
  | nil =>
      intro d first
      cases fuel <;> cases first
  | cons c text =>
      obtain rfl : c = ' ' := begins c rfl
      intro d first
      cases fuel <;> exact (Option.some.inj first).symm

end BeginsInSpace

namespace WrittenBlock

variable (written : WrittenBlock)

/-- What the checks read off the block: it begins on the given line, and language and code are those
that were written. -/
structure IsFoundAs (line : Nat) (block : FencedBlock) : Prop where
  language : Snippet.languageOf block = some written.tag
  line : block.line = line
  code : Snippet.codeOf block = written.code

private theorem languageOf_of_info (nested : Bool) (line : Nat) {block : FencedBlock}
    (same : block.info = (written.opened nested line).info) :
    Snippet.languageOf block = some written.tag := by
  obtain ⟨c, tail, isTag, alphanumeric⟩ := written.exists_tag_cons
  obtain ⟨rest, isInfo, ends⟩ := written.exists_info_eq
  have shape : terminated written.info = written.tag ++ terminated rest := by
    rw [terminated, isInfo, List.append_assoc, terminated]
  have unspaced : (terminated written.info).dropWhile isInlineSpace = terminated written.info := by
    rw [shape, isTag, List.cons_append,
      List.dropWhile_cons_of_neg (by simp [isInlineSpace_of_isAlphanumeric alphanumeric])]
  have kept : ∀ d ∈ written.tag.getLast?, Text.isAsciiWhite d = false := fun d last =>
    isAsciiWhite_of_isAlphanumeric (written.tag_alphanumeric d (List.mem_of_getLast? last))
  have plain : ∀ d ∈ written.tag, d ≠ '\\' ∧ d ≠ '&' ∧ d ≠ '\r' := fun d member =>
    have other := fun e => ne_of_isAlphanumeric (d := e) (written.tag_alphanumeric d member)
    ⟨other '\\' (by decide), other '&' (by decide), other '\r' (by decide)⟩
  have info : block.info = written.tag ++
      unescapeWithin (Text.dropEndWhile Text.isAsciiWhite (terminated rest)).length
        (Text.dropEndWhile Text.isAsciiWhite (terminated rest)) := by
    rw [same, opened, OpenBlock.opened]
    dsimp only
    rw [unspaced, shape, Text.dropEndWhile_append kept, unescape, List.length_append,
      unescapeWithin_append plain]
  have begins : BeginsInSpace (Text.dropEndWhile Text.isAsciiWhite (terminated rest)) := by
    rcases ends with rfl | first
    · have nothing : Text.dropEndWhile Text.isAsciiWhite (terminated []) = [] := rfl
      intro c first
      rw [nothing] at first
      cases first
    · cases rest with
      | nil => cases first
      | cons d rest =>
          cases first
          have spaced : BeginsInSpace (terminated (' ' :: rest)) := fun c same =>
            (Option.some.inj same).symm
          exact spaced.trimmed Text.isAsciiWhite
  rw [Snippet.languageOf, info]
  refine Text.firstWord?_append written.tag_ne_nil
    (fun d member => isWhite_of_isAlphanumeric (written.tag_alphanumeric d member)) ?_
  intro d first
  rw [begins.unescaped _ d first]
  decide

/-! ## The code of a block -/

private theorem fenceMark?_opening :
    Snippet.fenceMark? written.opening = some (written.mark, written.width) := by
  have := written.three_le_width
  exact Snippet.fenceMark?_replicate written.mark_eq (by omega) written.head?_info_ne_mark

private theorem closeWidth_ne_zero : written.closeWidth ≠ 0 := by
  have := written.three_le_width
  have := written.width_le
  omega

private theorem closesFence_closing :
    Snippet.closesFence written.mark written.width written.closing = true :=
  Snippet.closesFence_spaces_append written.mark_eq written.closeWidth_ne_zero written.width_le
    written.closeIndent written.closeSpaces

private theorem closing_ne_nil : written.closing ≠ [] := by
  intro empty
  have count := congrArg List.length empty
  rw [closing, List.length_append, List.length_append, List.length_replicate,
    List.length_replicate, List.length_nil] at count
  have := written.closeWidth_ne_zero
  omega

/-- The code ends with a newline, so that the closing fence is a line of its own. -/
private theorem endsWithNewline_code : written.code = [] ∨ endsWithNewline written.code = true := by
  rw [code, List.flatMap_def]
  refine endsWithNewline_flatten fun line member => ?_
  obtain ⟨content, inBody, rfl⟩ := List.mem_map.mp member
  exact .newline (written.body_lines content inBody)

/-- Both fences are stripped from the source, and nothing else. -/
private theorem codeOf_of_source {block : FencedBlock} (outside : block.nested = false)
    (isSource : block.source = terminated written.opening ++ (written.code ++ written.closing)) :
    Snippet.codeOf block = written.code := by
  have unbroken : '\n' ∉ written.opening := fun member =>
    (written.isLine_opening '\n' member).1 rfl
  have source : block.source =
      written.opening ++ '\n' :: (written.code ++ written.closing ++ []) := by
    rw [isSource, terminated, List.append_assoc, List.append_nil]
    rfl
  rw [Snippet.codeOf, outside, if_neg Bool.false_ne_true, source,
    Snippet.fencedBody_append unbroken written.fenceMark?_opening written.endsWithNewline_code
      written.closing_ne_nil written.isLine_closing (by simp), written.closesFence_closing,
    if_pos rfl]

end WrittenBlock

/-! ## Reading a document -/

open Reader

/-- What has to hold of a block for containers not to change its code: the fence is not indented,
and there are no tabs in the lines of code. -/
def WrittenBlock.IsFlat (written : WrittenBlock) : Prop :=
  written.openIndent = 0 ∧ ∀ line ∈ written.body, '\t' ∉ line

def Passage.IsFlat : Passage → Prop
  | .fenced written => written.IsFlat
  | _ => True

section Within

variable {nesting : Nesting} {wrappers : List Wrapper}

/-- Behind its opening fence a code block is read as it is written. -/
theorem WrittenBlock.blocks_behind_opening (within : nesting.IsWithin wrappers)
    (written : WrittenBlock) (flat : wrappers = [] ∨ written.IsFlat) (line : Nat)
    (following : List Text) :
    ∃ block, written.IsFoundAs line block ∧
      (between nesting (.fenced (written.opened (!wrappers.isEmpty) line)) (line + 1)).blocks
          (((written.body ++ [written.closing]).map fun other =>
            terminated (margin wrappers ++ other)) ++ following) =
        block :: (between nesting .none (line + written.lines.length)).blocks following := by
  have noBreak : (written.opened (!wrappers.isEmpty) line).fence.mark ≠ '\n' :=
    written.mark_ne_newline.1
  obtain ⟨contents, asWritten, blocks⟩ := blocks_code within noBreak written.openIndent_le
    written.body_lines (flat.imp_right fun flat => flat.2) written.body_open (line + 1)
    (terminated (margin wrappers ++ written.closing) :: following)
  have height : line + 1 + written.body.length + 1 = line + written.lines.length := by
    rw [lines, List.length_cons, List.length_append, List.length_singleton]
    omega
  refine ⟨OpenBlock.close (margin wrappers ++ written.closing)
    { written.opened (!wrappers.isEmpty) line with
      source := (written.body.map fun line => terminated (margin wrappers ++ line)).reverse ++
        [terminated written.opening]
      content := contents }, ⟨written.languageOf_of_info (!wrappers.isEmpty) line rfl, rfl, ?_⟩, ?_⟩
  · cases wrappers with
    | nil =>
        refine written.codeOf_of_source rfl ?_
        simp [OpenBlock.close, margin, code, List.flatMap_def]
    | cons wrapper outer =>
        have unindented : (written.opened (!(wrapper :: outer).isEmpty) line).fence.indent = 0 :=
          (flat.resolve_left (List.cons_ne_nil wrapper outer)).1
        have content : contents.reverse.flatten = written.code := by
          rw [asWritten unindented, WrittenBlock.code, List.flatMap_def]
          simp [opened, OpenBlock.opened]
        exact content
  · rw [List.map_append, List.append_assoc, List.map_singleton, List.singleton_append, blocks,
      blocks_cons, read_closing within written rfl, Option.toList_some, List.singleton_append,
      height]
    rfl

/-- From one passage to the next a code block is read as it is written. -/
theorem WrittenBlock.blocks_lines (within : nesting.IsWithin wrappers) (written : WrittenBlock)
    (flat : wrappers = [] ∨ written.IsFlat) {leaf : Leaf} (loose : leaf.IsLoose) (line : Nat)
    (following : List Text) :
    ∃ block, written.IsFoundAs line block ∧
      (between nesting leaf line).blocks
          ((written.lines.map fun other => terminated (margin wrappers ++ other)) ++ following) =
        block :: (between nesting.closeList .none (line + written.lines.length)).blocks
          following := by
  obtain ⟨block, isFound, blocks⟩ :=
    written.blocks_behind_opening within.closeList flat line following
  refine ⟨block, isFound, ?_⟩
  rw [← blocks, lines, List.map_cons, List.cons_append, blocks_cons,
    written.read_opening within loose]
  rfl

private theorem WrittenBlock.IsFoundAs.isIn {written : WrittenBlock} {line : Nat}
    {block : FencedBlock} (isFound : written.IsFoundAs line block) (languages : List Text) :
    Snippet.isIn languages block = languages.any (Text.equalIgnoringCase written.tag) := by
  rw [Snippet.isIn, isFound.language]

/-- A code block found first is the first snippet if it is written in one of the languages. -/
theorem WrittenBlock.IsFoundAs.numbered {written : WrittenBlock} {line : Nat}
    {block : FencedBlock} (isFound : written.IsFoundAs line block) (languages : List Text)
    (index : Nat) (blocks : List FencedBlock) {snippets : Nat → List Snippet}
    (later : ∀ index, Snippet.numbered index (blocks.filter (Snippet.isIn languages)) =
      snippets index) :
    Snippet.numbered index ((block :: blocks).filter (Snippet.isIn languages)) =
      if languages.any (Text.equalIgnoringCase written.tag) then
        ⟨index, line, written.code⟩ :: snippets (index + 1)
      else snippets index := by
  rw [List.filter_cons, isFound.isIn]
  split
  · rw [Snippet.numbered, later, isFound.line, isFound.code]
  · rw [later]

/-- Whatever containers they are in and whatever may be open before passages, their code blocks in
the languages are found, in order and each with its place. -/
theorem Passage.numbered_blocks_within (languages : List Text) {passages : List Passage}
    (within : nesting.IsWithin wrappers)
    (flat : wrappers = [] ∨ ∀ passage ∈ passages, passage.IsFlat) {leaf : Leaf}
    (loose : leaf.IsLoose) (index line : Nat) :
    Snippet.numbered index (((between nesting leaf line).blocks
        ((passages.flatMap Passage.lines).map fun other =>
          terminated (margin wrappers ++ other))).filter (Snippet.isIn languages)) =
      Passage.snippets languages index line passages := by
  induction passages generalizing nesting leaf index line with
  | nil => rcases loose with rfl | rfl <;> rfl
  | cons passage passages inductionHypothesis =>
      have flatLater : wrappers = [] ∨ ∀ passage ∈ passages, passage.IsFlat :=
        flat.imp_right fun flat other member => flat other (List.mem_cons_of_mem passage member)
      rw [List.flatMap_cons, List.map_append]
      cases passage with
      | blank indent =>
          rw [Passage.lines, List.map_singleton, List.singleton_append, blocks_cons,
            read_blank within loose, Option.toList_none, List.nil_append,
            inductionHypothesis within.afterBlank flatLater (Or.inl rfl), Passage.snippets]
      | prose text =>
          obtain ⟨inner, stillWithin, read⟩ := read_prose within loose line text
            ((passages.flatMap Passage.lines).map fun other =>
              terminated (margin wrappers ++ other))
          rw [Passage.lines, List.map_singleton, List.singleton_append, blocks_cons, read,
            Option.toList_none, List.nil_append,
            inductionHypothesis stillWithin flatLater (Or.inr rfl), Passage.snippets]
      | fenced written =>
          obtain ⟨block, isFound, blocks⟩ := written.blocks_lines within
            (flat.imp_right fun flat => flat _ List.mem_cons_self) loose line
            ((passages.flatMap Passage.lines).map fun other =>
              terminated (margin wrappers ++ other))
          rw [Passage.lines, blocks, Passage.snippets]
          exact isFound.numbered languages index _ fun index =>
            inductionHypothesis within.closeList flatLater (Or.inl rfl) index _

end Within

/-- Outside containers the passages may be any. -/
theorem Passage.numbered_blocks (languages : List Text) (passages : List Passage) {leaf : Leaf}
    (loose : leaf.IsLoose) (index line : Nat) :
    Snippet.numbered index (((between .empty leaf line).blocks
        ((passages.flatMap Passage.lines).map terminated)).filter (Snippet.isIn languages)) =
      Passage.snippets languages index line passages :=
  Passage.numbered_blocks_within languages isWithin_empty (Or.inl rfl) loose index line

end Markdown

namespace Snippet

open Markdown

/-- The snippets of a document in some languages are the code blocks that were written into it with
a tag in one of them, in order: numbered from one, each with the line of its opening fence and its
code as it was written. -/
theorem ofDocument_document (languages : List Text) (passages : List Passage) :
    ofDocument languages (Passage.document passages) =
      Passage.snippets languages 1 1 passages := by
  have areLines : ∀ line ∈ passages.flatMap Passage.lines, IsLine line := by
    intro line member
    obtain ⟨passage, _, inPassage⟩ := List.mem_flatMap.mp member
    exact Passage.isLine_of_mem_lines inPassage
  rw [ofDocument, fencedBlocks, Passage.document, splitLines_flatMap_terminated areLines]
  exact Passage.numbered_blocks languages passages (Or.inl rfl) 1 1

end Snippet

end DocCheck
