import DocCheck.Markdown.Document

/-!
Snippets: the fenced code blocks of a document that are written in one of the languages asked for.
The languages only select. What a block contributes, its line and its code, depends on the document
alone, and the chosen blocks are numbered from one.
-/

namespace DocCheck

open Markdown

/-- A code block as it is checked. -/
structure Snippet where
  /-- The number among the chosen blocks of its document, from one. -/
  index : Nat
  /-- The line of the document that opens the block, from one. -/
  line : Nat
  text : Text
  deriving Repr, DecidableEq

namespace Snippet

def defaultLanguages : List Text :=
  ["ts".toList, "typescript".toList]

/-! ## The code of a block -/

/-- The character that a fence line is made of, and how often it stands there. -/
def fenceMark? (line : Text) : Option (Char × Nat) :=
  let unindented := line.dropWhile (· == ' ')
  match unindented with
  | [] => none
  | mark :: _ =>
      if mark = backtick || mark = '~' then some (mark, (leadingRun mark unindented).1) else none

/-- The line repeats the mark at least `width` times and holds nothing else but white space around
it. -/
def closesFence (mark : Char) (width : Nat) (line : Text) : Bool :=
  let trimmed := Text.trim line
  width ≤ trimmed.length && trimmed.all (· == mark)

def isLineBreak (c : Char) : Bool :=
  c = '\n' || c = '\r'

/-- The lines between the fences of a block. -/
def fencedBody (source : Text) : Text :=
  match Text.splitOnce? ['\n'] source with
  | none => []
  | some (opening, body) =>
      match fenceMark? opening with
      | none => []
      | some (mark, width) =>
          -- The last line is the closing fence if it could be one; there may be none.
          let content := Text.dropEndWhile isLineBreak body
          let lastLine := (content.reverse.takeWhile (· != '\n')).reverse
          if closesFence mark width lastLine then content.take (content.length - lastLine.length)
          else body

/-- The code of a block: as it stands in the document, or without the margin of the quotes and
lists that it is written in. -/
def codeOf (block : FencedBlock) : Text :=
  if block.nested then block.content else fencedBody block.source

/-! ## Selection -/

/-- The first word behind the opening fence names the language. -/
def languageOf (block : FencedBlock) : Option Text :=
  Text.firstWord? block.info

/-- The block is written in one of the languages, whatever the case of their letters. -/
def isIn (languages : List Text) (block : FencedBlock) : Bool :=
  match languageOf block with
  | none => false
  | some word => languages.any (Text.equalIgnoringCase word)

/-- The snippets of the chosen blocks, numbered onwards from `index`. -/
def numbered (index : Nat) : List FencedBlock → List Snippet
  | [] => []
  | block :: blocks => ⟨index, block.line, codeOf block⟩ :: numbered (index + 1) blocks

def ofDocument (languages : List Text) (document : Text) : List Snippet :=
  numbered 1 ((fencedBlocks document).filter (isIn languages))

end Snippet

end DocCheck
