import DocCheck.Markdown.LinkDefinition

/-!
Fenced code blocks while they are read and when they are complete.
-/

namespace DocCheck.Markdown

structure FencedBlock where
  /-- The text behind the opening fence, with escapes and references replaced. -/
  info : Text
  /-- The number of the line that opens the block; newlines end lines. -/
  line : Nat
  /-- The block stands in a quote or a list item. -/
  nested : Bool
  /-- The document from the opening fence to the end of the closing one. -/
  source : Text
  /-- The code without the marks of containers and the indentation of the fence. -/
  content : Text
  deriving Repr, DecidableEq

/-- A fenced code block whose closing fence has not been met. -/
structure OpenBlock where
  fence : Fence
  info : Text
  line : Nat
  nested : Bool
  /-- The lines of the block as they stand in the document, last line first. -/
  source : List Text
  /-- The lines of code, last line first. -/
  content : List Text
  deriving Repr, DecidableEq

namespace OpenBlock

/-- The block that a line opens. `text` is the line from its fence on up to the next newline, and
`after` what follows the marks. -/
def opened (fence : Fence) (line : Nat) (nested : Bool) (text after : Text) : OpenBlock where
  fence := fence
  info := unescape (Text.dropEndWhile Text.isAsciiWhite (after.dropWhile isInlineSpace))
  line := line
  nested := nested
  source := [text]
  content := []

/-- Code ends its lines with a newline alone: a carriage return is dropped from before the last
character of a line. -/
def withoutReturn (line : Text) : Text :=
  match line.reverse with
  | last :: '\r' :: before =>
      if last.toNat < 128 then (last :: before).reverse else line
  | _ => line

theorem withoutReturn_of_notMem {line : Text} (absent : '\r' ∉ line) :
    withoutReturn line = line := by
  rw [withoutReturn]
  split
  · next last before isReversed =>
      refine absurd ?_ absent
      rw [← List.mem_reverse, isReversed]
      simp
  · rfl

/-- Adds a line of code: `source` as it stands in the document, `rest` behind the margin, and
`owed` columns of a tab that the margin took in part. -/
def addLine (source : Text) (owed : Nat) (rest : Text) (block : OpenBlock) : OpenBlock :=
  { block with
    source := source :: block.source
    content := (List.replicate owed ' ' ++ withoutReturn rest) :: block.content }

/-- The complete block; `closing` is the line that closes it, as far as it belongs to the block. -/
def close (closing : Text) (block : OpenBlock) : FencedBlock where
  info := block.info
  line := block.line
  nested := block.nested
  source := (closing :: block.source).reverse.flatten
  content := block.content.reverse.flatten

end OpenBlock

end DocCheck.Markdown
