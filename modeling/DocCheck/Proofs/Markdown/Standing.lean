import DocCheck.Snippet
import DocCheck.Proofs.Markdown.Margin
import Mathlib.Data.List.Forall2

/-!
Where code blocks stand. Main statements: a block that the reader finds is made of consecutive lines
of the document, with the number of the first of them, and blocks are found in the order of their
lines.
-/

namespace DocCheck.Markdown

/-! ## Lines of code behind their margin -/

def isIndent (c : Char) : Bool :=
  c = ' ' || c = '\t'

/-- What a line adds to the code of a block. -/
def IsPieceOf (piece line : Text) : Prop :=
  ∃ owed rest, Behind line rest ∧ piece = spaces owed ++ OpenBlock.withoutReturn rest

/-- Code has another line end than its line, but ends and goes on like it. -/
private theorem IsEnded.withoutReturn {line : Text} (isEnded : IsEnded line) :
    IsEnded (OpenBlock.withoutReturn line) ∧
      withoutEnd (OpenBlock.withoutReturn line) = withoutEnd line := by
  cases isEnded with
  | @newline line isLine =>
      have absent : '\r' ∉ line ++ ['\n'] := by
        simpa using fun member => (isLine '\r' member).2 rfl
      rw [OpenBlock.withoutReturn_of_notMem absent]
      exact ⟨.newline isLine, rfl⟩
  | @paired line isLine =>
      have dropped : OpenBlock.withoutReturn (line ++ ['\r', '\n']) = line ++ ['\n'] := by
        simp [OpenBlock.withoutReturn]
      rw [dropped, withoutEnd_newline isLine, withoutEnd_paired isLine]
      exact ⟨.newline isLine, rfl⟩

theorem isLine_spaces (count : Nat) : IsLine (spaces count) :=
  isLine_replicate (by decide) count

private theorem dropWhile_spaces_append_suffix (count : Nat) (text : Text) :
    (spaces count ++ text).dropWhile isIndent <:+ text := by
  have white : ∀ c ∈ spaces count, isIndent c = true := by
    intro c member
    rw [List.eq_of_mem_replicate member]
    rfl
  rw [List.dropWhile_append_of_pos white]
  exact List.dropWhile_suffix isIndent

namespace IsPieceOf

variable {piece line : Text} (isPiece : IsPieceOf piece line)

include isPiece

private theorem isEnded (isEnded : IsEnded line) :
    IsEnded piece ∧ (withoutEnd piece).dropWhile isIndent <:+ withoutEnd line := by
  obtain ⟨owed, rest, behind, rfl⟩ := isPiece
  obtain ⟨restEnded, isSuffix⟩ := isEnded.behind behind
  obtain ⟨codeEnded, sameCode⟩ := restEnded.withoutReturn
  obtain ⟨pieceEnded, spaced⟩ := codeEnded.append (isLine_spaces owed)
  rw [spaced, sameCode]
  exact ⟨pieceEnded, (dropWhile_spaces_append_suffix owed _).trans isSuffix⟩

private theorem isLine (isLine : IsLine line) :
    IsLine piece ∧ (withoutEnd piece).dropWhile isIndent <:+ withoutEnd line := by
  obtain ⟨owed, rest, behind, rfl⟩ := isPiece
  obtain ⟨restLine, isSuffix⟩ := isLine.behind behind
  rw [OpenBlock.withoutReturn_of_notMem fun member => (restLine '\r' member).2 rfl]
  have pieceLine := isLine_append (isLine_spaces owed) restLine
  rw [withoutEnd_of_isLine restLine] at isSuffix
  rw [withoutEnd_of_isLine pieceLine]
  exact ⟨pieceLine, (dropWhile_spaces_append_suffix owed rest).trans isSuffix⟩

end IsPieceOf

theorem isLines_of_pieces {pieces lines : List Text}
    (arePieces : List.Forall₂ IsPieceOf pieces lines) (areLines : IsLines lines) :
    IsLines pieces ∧ List.Forall₂ (fun piece line =>
      (withoutEnd piece).dropWhile isIndent <:+ withoutEnd line) pieces lines := by
  induction arePieces with
  | nil => exact ⟨trivial, .nil⟩
  | cons isPiece _ inductionHypothesis =>
      obtain ⟨later, suffixes⟩ := inductionHypothesis areLines.2
      rcases areLines.1 with isEnded | ⟨isLine, rfl⟩
      · obtain ⟨pieceEnded, isSuffix⟩ := isPiece.isEnded isEnded
        exact ⟨⟨Or.inl pieceEnded, later⟩, .cons isSuffix suffixes⟩
      · obtain ⟨pieceLine, isSuffix⟩ := isPiece.isLine isLine
        cases suffixes
        exact ⟨⟨Or.inr ⟨pieceLine, rfl⟩, trivial⟩, .cons isSuffix .nil⟩

/-! ## The lines of a block -/

/-- An open block has taken the line that opens it, from the fence on, and lines of code. -/
structure OpenBlock.Took (block : OpenBlock) (opening : Text) (code : List Text) : Prop where
  source : ∃ text, block.fence.Begins opening text ∧ block.source = code.reverse ++ [text]
  content : List.Forall₂ IsPieceOf block.content.reverse code

/-- A complete block has taken the line that opens it, lines of code and what closes it. -/
structure FencedBlock.Took (block : FencedBlock) (opening : Text) (code : List Text)
    (closing : Text) : Prop where
  source : ∃ fence text, Fence.Begins fence opening text ∧
    block.source = text ++ code.flatten ++ closing
  content : ∃ pieces, List.Forall₂ IsPieceOf pieces code ∧ block.content = pieces.flatten

/-- The lines of an open block are the last ones that have been read. -/
def OpenBlock.EndsIn (block : OpenBlock) (done : List Text) : Prop :=
  ∃ before opening code, done = before ++ opening :: code ∧ block.line = before.length + 1 ∧
    block.Took opening code

/-- Nothing closes a block, or all of the next line does. -/
def IsClosing (closing : Text) (after : List Text) : Prop :=
  closing = [] ∨ ∃ line rest, after = line :: rest ∧ IsLine closing ∧ closing = withoutEnd line

theorem IsClosing.eq_nil {closing : Text} (isClosing : IsClosing closing []) : closing = [] := by
  rcases isClosing with none | ⟨line, rest, more, -⟩
  · exact none
  · cases more

/-- The lines of a complete block are lines of the document. -/
def FencedBlock.StandsIn (block : FencedBlock) (lines : List Text) : Prop :=
  ∃ before opening code closing after, lines = before ++ opening :: (code ++ after) ∧
    block.line = before.length + 1 ∧ block.Took opening code closing ∧ IsClosing closing after

private theorem OpenBlock.Took.close {block : OpenBlock} {opening : Text} {code : List Text}
    (took : block.Took opening code) (closing : Text) :
    (block.close closing).Took opening code closing := by
  obtain ⟨text, begins, isSource⟩ := took.source
  refine ⟨⟨block.fence, text, begins, ?_⟩, block.content.reverse, took.content, rfl⟩
  rw [OpenBlock.close, isSource]
  simp

private theorem OpenBlock.Took.addLine {block : OpenBlock} {opening line rest : Text}
    {code : List Text} (took : block.Took opening code) (owed : Nat) (behind : Behind line rest) :
    (block.addLine line owed rest).Took opening (code ++ [line]) := by
  obtain ⟨text, begins, isSource⟩ := took.source
  refine ⟨⟨text, begins, ?_⟩, ?_⟩
  · rw [OpenBlock.addLine, isSource, List.reverse_append, List.reverse_singleton]
    rfl
  · rw [OpenBlock.addLine, List.reverse_cons]
    exact List.rel_append took.content (.cons ⟨owed, rest, behind, rfl⟩ .nil)

private theorem OpenBlock.Begins.endsIn {block : OpenBlock} {line : Text} {done : List Text}
    (begins : block.Begins (done.length + 1) line) : block.EndsIn (done ++ [line]) := by
  obtain ⟨text, isSource, fence⟩ := begins.source
  refine ⟨done, line, [], rfl, begins.line_eq, ⟨text, fence, isSource⟩, ?_⟩
  rw [begins.content]
  exact .nil

namespace OpenBlock.EndsIn

variable {block : OpenBlock} {done : List Text} (endsIn : block.EndsIn done)

include endsIn

theorem line_le : block.line ≤ done.length := by
  obtain ⟨before, opening, code, rfl, number, -⟩ := endsIn
  rw [number, List.length_append, List.length_cons]
  omega

theorem mark : block.fence.mark = backtick ∨ block.fence.mark = '~' := by
  obtain ⟨before, opening, code, -, -, took⟩ := endsIn
  obtain ⟨text, fence, -⟩ := took.source
  exact fence.mark

private theorem addLine {line rest : Text} (owed : Nat) (behind : Behind line rest) :
    (block.addLine line owed rest).EndsIn (done ++ [line]) := by
  obtain ⟨before, opening, code, rfl, number, took⟩ := endsIn
  exact ⟨before, opening, code ++ [line], by rw [List.append_assoc, List.cons_append], number,
    took.addLine owed behind⟩

private theorem standsIn_close {closing : Text} {after : List Text}
    (isClosing : IsClosing closing after) :
    (block.close closing).StandsIn (done ++ after) := by
  obtain ⟨before, opening, code, rfl, number, took⟩ := endsIn
  exact ⟨before, opening, code, closing, after, by rw [List.append_assoc, List.cons_append], number,
    took.close closing, isClosing⟩

end OpenBlock.EndsIn

/-- A line that closes a block closes it with all that stands in it. -/
theorem eq_withoutEnd {line closing after : Text} (toEnd : IsEnded line ∨ IsLine line)
    (whole : line = closing ++ after) (isLine : IsLine closing) (ends : atLineEnd after = true) :
    closing = withoutEnd line := by
  cases after with
  | nil => rw [whole, List.append_nil, withoutEnd_of_isLine isLine]
  | cons c after =>
      have isBreak : c = '\n' ∨ c = '\r' := by simpa [atLineEnd] using ends
      have stops : ∀ {other : Text}, IsLine other → ∀ d ∈ other, Snippet.isLineBreak d = false := by
        intro other otherLine d member
        simpa [Snippet.isLineBreak] using otherLine d member
      have inside : Snippet.isLineBreak c = true := by simpa [Snippet.isLineBreak] using isBreak
      rcases toEnd with isEnded | lineLine
      · cases isEnded with
        | newline contentLine =>
            rw [withoutEnd_newline contentLine]
            exact (Text.append_cons_unique Snippet.isLineBreak rfl inside (stops contentLine)
              (stops isLine) whole).1.symm
        | paired contentLine =>
            rw [withoutEnd_paired contentLine]
            exact (Text.append_cons_unique Snippet.isLineBreak rfl inside (stops contentLine)
              (stops isLine) whole).1.symm
      · have noBreak := lineLine c (by rw [whole]; simp)
        exact absurd isBreak (not_or.mpr noBreak)

/-! ## Runs of the reader -/

namespace Reader

/-- A reader that has read some lines. -/
structure At (reader : Reader) (done following : List Text) : Prop where
  skips : reader.leaf.block? = none ∨ reader.skip = 0
  line_eq : following ≠ [] → reader.line = done.length + 1
  endsIn : ∀ block, reader.leaf.block? = some block → block.EndsIn done

namespace At

variable {reader : Reader} {done following : List Text} {line : Text}
  (place : reader.At done (line :: following)) (areLines : IsLines (line :: following))

include place areLines

theorem effect : Effect (done.length + 1) line reader.leaf.block?
    (reader.read line following).1.leaf.block? (reader.read line following).2 := by
  rw [← place.line_eq (List.cons_ne_nil line following)]
  exact (reader.read_effect place.skips (fun block isOpen => (place.endsIn block isOpen).mark)
    areLines.1).1

theorem read : (reader.read line following).1.At (done ++ [line]) following := by
  have effect := place.effect areLines
  refine ⟨(reader.read_effect place.skips (fun block isOpen => (place.endsIn block isOpen).mark)
    areLines.1).2, ?_, ?_⟩
  · intro more
    have isEnded := areLines.1.resolve_right fun last => more last.2
    rw [reader.line_read isEnded, place.line_eq (List.cons_ne_nil line following),
      List.length_append, List.length_singleton]
  · intro block isOpen
    rw [isOpen] at effect
    generalize isBefore : reader.leaf.block? = before at effect
    generalize (reader.read line following).2 = complete at effect
    cases effect with
    | opens begins => exact begins.endsIn
    | code owed behind => exact (place.endsIn _ isBefore).addLine owed behind
    | changes begins => exact begins.endsIn

private theorem standsIn {block : FencedBlock}
    (complete : (reader.read line following).2 = some block) :
    block.StandsIn (done ++ line :: following) := by
  have effect := place.effect areLines
  rw [complete] at effect
  generalize isBefore : reader.leaf.block? = before at effect
  generalize (reader.read line following).1.leaf.block? = next at effect
  cases effect with
  | closes whole isLine ends =>
      refine (place.endsIn _ isBefore).standsIn_close (Or.inr ⟨line, following, rfl, isLine, ?_⟩)
      exact eq_withoutEnd (areLines.1.imp_right And.left) whole isLine ends
  | leaves => exact (place.endsIn _ isBefore).standsIn_close (Or.inl rfl)
  | changes begins => exact (place.endsIn _ isBefore).standsIn_close (Or.inl rfl)

end At

theorem mem_finish {reader : Reader} {block : FencedBlock}
    (member : block ∈ reader.finish.toList) :
    ∃ isOpen, reader.leaf.block? = some isOpen ∧ block = isOpen.close [] := by
  rw [finish] at member
  split at member
  · next isOpen isLeaf =>
      rw [isLeaf]
      exact ⟨isOpen, rfl, by simpa using member⟩
  · simp at member

/-- The lines of a block that the reader finds are lines of what it reads. -/
theorem standsIn_blocks {following : List Text} (areLines : IsLines following) {reader : Reader}
    {done : List Text} (place : reader.At done following) :
    ∀ block ∈ reader.blocks following, block.StandsIn (done ++ following) := by
  -- By induction on the lines that are still to be read; `At` is what each of them preserves.
  induction following generalizing reader done with
  | nil =>
      intro block member
      obtain ⟨isOpen, isLeaf, rfl⟩ := mem_finish member
      exact (place.endsIn isOpen isLeaf).standsIn_close (Or.inl rfl)
  | cons line following inductionHypothesis =>
      intro block member
      rw [blocks] at member
      rcases List.mem_append.mp member with now | later
      · exact place.standsIn areLines (by simpa using now)
      · have inRest := inductionHypothesis areLines.2 (place.read areLines) block later
        rwa [List.append_assoc, List.singleton_append] at inRest

/-- The least line that a block may have that the reader finds from now on. -/
def lowest (done : Nat) : Option OpenBlock → Nat
  | none => done + 1
  | some block => block.line

/-- A block that begins in lines that have been read comes before those that begin later. -/
private theorem pairwise_cons {isOpen : OpenBlock} {closing : Text} {blocks : List FencedBlock}
    {done : Nat} (read : isOpen.line ≤ done)
    (ordered : blocks.Pairwise fun first second => first.line < second.line)
    (later : ∀ block ∈ blocks, done < block.line) :
    (isOpen.close closing :: blocks).Pairwise (fun first second => first.line < second.line) ∧
      ∀ block ∈ isOpen.close closing :: blocks, lowest done (some isOpen) ≤ block.line := by
  refine ⟨List.pairwise_cons.mpr ⟨fun block member => ?_, ordered⟩, ?_⟩
  · exact Nat.lt_of_le_of_lt read (later block member)
  · rintro block (_ | ⟨_, member⟩)
    · exact Nat.le_refl _
    · exact Nat.le_trans read (Nat.le_of_lt (later block member))

/-- The blocks that the reader finds are in the order of their lines. -/
private theorem pairwise_blocks {following : List Text} (areLines : IsLines following)
    {reader : Reader} {done : List Text} (place : reader.At done following) :
    (reader.blocks following).Pairwise (fun first second => first.line < second.line) ∧
      ∀ block ∈ reader.blocks following, lowest done.length reader.leaf.block? ≤ block.line := by
  induction following generalizing reader done with
  | nil =>
      refine ⟨?_, ?_⟩
      · rw [blocks]
        cases reader.finish with
        | none => exact .nil
        | some block => exact List.pairwise_singleton _ _
      · intro block member
        obtain ⟨isOpen, isLeaf, rfl⟩ := mem_finish member
        rw [isLeaf]
        exact Nat.le_refl _
  | cons line following inductionHypothesis =>
      obtain ⟨ordered, above⟩ := inductionHypothesis areLines.2 (place.read areLines)
      have effect := place.effect areLines
      rw [List.length_append, List.length_singleton] at above
      rw [blocks]
      generalize isBefore : reader.leaf.block? = before at effect ⊢
      generalize (reader.read line following).1.leaf.block? = next at effect above
      generalize (reader.read line following).2 = complete at effect ⊢
      cases effect with
      | idle => exact ⟨ordered, fun block member => Nat.le_of_succ_le (above block member)⟩
      | opens begins =>
          refine ⟨ordered, fun block member => ?_⟩
          have first := above block member
          rwa [lowest, begins.line_eq] at first
      | code owed behind => exact ⟨ordered, above⟩
      | @closes isOpen =>
          exact pairwise_cons (place.endsIn _ isBefore).line_le ordered
            fun block member => Nat.lt_of_succ_lt (above block member)
      | @leaves isOpen =>
          exact pairwise_cons (place.endsIn _ isBefore).line_le ordered
            fun block member => Nat.lt_of_succ_lt (above block member)
      | @changes isOpen next begins =>
          rw [lowest, begins.line_eq] at above
          exact pairwise_cons (place.endsIn _ isBefore).line_le ordered above

theorem at_start (following : List Text) : start.At [] following :=
  ⟨Or.inr rfl, fun _ => rfl, nofun⟩

end Reader

theorem standsIn_of_mem_fencedBlocks {document : Text} (paired : PairedReturns document) :
    ∀ block ∈ fencedBlocks document, block.StandsIn (splitLines document) :=
  Reader.standsIn_blocks (isLines_splitLines paired).1 (Reader.at_start _)

theorem pairwise_fencedBlocks {document : Text} (paired : PairedReturns document) :
    (fencedBlocks document).Pairwise fun first second => first.line < second.line :=
  (Reader.pairwise_blocks (isLines_splitLines paired).1 (Reader.at_start _)).1

end DocCheck.Markdown
