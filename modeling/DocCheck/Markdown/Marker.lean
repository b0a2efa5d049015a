import DocCheck.Markdown.Cursor
import DocCheck.Text.Digit

/-!
The marks that decide what a line begins: thematic breaks, headings, code fences and list markers.
Every function looks at what is left of a line behind its indentation.
-/

namespace DocCheck.Markdown

/-- The length of the run of `c` at the beginning, and what follows it. -/
def leadingRun (c : Char) (text : Text) : Nat × Text :=
  ((text.takeWhile (· == c)).length, text.dropWhile (· == c))

/-! ## Thematic breaks and headings -/

/-- The marks of a thematic break up to the line end: how many there are, if nothing else is there
but spaces and tabs. -/
def countBreakMarks (mark : Char) : Text → Option Nat
  | [] => some 0
  | c :: rest =>
      if c = '\n' || c = '\r' then some 0
      else if c = mark then (countBreakMarks mark rest).map (· + 1)
      else if c = ' ' || c = '\t' then countBreakMarks mark rest
      else none

/-- Three or more of one of `*`, `-`, `_`, with spaces and tabs between them. -/
def isThematicBreak (text : Text) : Bool :=
  match text with
  | [] => false
  | mark :: _ =>
      (mark = '*' || mark = '-' || mark = '_') &&
        match countBreakMarks mark text with
        | some count => 3 ≤ count
        | none => false

/-- One to six `#`, then white space or the end of the line. -/
def isAtxHeading (text : Text) : Bool :=
  let run := leadingRun '#' text
  1 ≤ run.1 && run.1 ≤ 6 &&
    match run.2 with
    | [] => true
    | c :: _ => Text.isAsciiWhite c

/-- A line of `=` or of `-`, which makes a heading of the paragraph before it. -/
def isSetextUnderline (text : Text) : Bool :=
  match text with
  | [] => false
  | mark :: _ => (mark = '=' || mark = '-') && isBlank (leadingRun mark text).2

/-! ## Code fences -/

/-- The character that backtick fences are made of. -/
def backtick : Char := '\x60'

/-- The opening of a fenced code block. -/
structure Fence where
  /-- A backtick or a tilde. -/
  mark : Char
  /-- How many of them open the block. -/
  width : Nat
  /-- The columns of indentation before them. -/
  indent : Nat
  deriving Repr, DecidableEq

/-- The fence that a line opens, and what follows its marks. `more` is what the line goes on with up
to the next newline; the text after a fence of backticks holds no backtick. -/
def openingFence? (indent : Nat) (text more : Text) : Option (Fence × Text) :=
  match text with
  | [] => none
  | mark :: _ =>
      let run := leadingRun mark text
      if (mark = backtick || mark = '~') && 3 ≤ run.1 &&
          !(mark = backtick && ((run.2 ++ more).takeWhile (· != '\n')).contains backtick) then
        some (⟨mark, run.1, indent⟩, run.2)
      else none

/-- What follows the marks and spaces of a line that closes the fence: the marks of the fence at
least as many times, and then nothing but spaces. The end of the document closes it, too. -/
def closingFence? (fence : Fence) (text : Text) : Option Text :=
  if text.isEmpty then some []
  else
    let run := leadingRun fence.mark text
    let after := run.2.dropWhile (· == ' ')
    if fence.width ≤ run.1 && atLineEnd after then some after else none

/-! ## List markers -/

structure ListMarker where
  /-- The bullet, or the character after the number. -/
  kind : Char
  /-- The column where the item's content begins. -/
  indent : Nat
  deriving Repr, DecidableEq

def isBullet (c : Char) : Bool :=
  c = '-' || c = '+' || c = '*'

def isNumberEnd (c : Char) : Bool :=
  c = ')' || c = '.'

/-- The space after a list marker: one column of it belongs to the marker, and up to three more
move the content to the right, but not if the content is indented code or missing. -/
def Cursor.afterMarker? (kind : Char) (indent : Nat) (cursor : Cursor) :
    Option (ListMarker × Cursor) :=
  let spaced := cursor.indentUpTo 1
  if spaced.1 = 1 || atLineEnd spaced.2.rest then
    let padded := spaced.2.indentUpTo 4
    if isBlank spaced.2.rest || padded.1 = 4 then some (⟨kind, indent⟩, spaced.2)
    else some (⟨kind, indent + padded.1⟩, padded.2)
  else none

/-- Passes a list marker that has `indent` columns before it. A bullet that is part of a thematic
break is none, and a number has at most nine digits. -/
def Cursor.listMarker? (indent : Nat) (cursor : Cursor) : Option (ListMarker × Cursor) :=
  match cursor.rest with
  | [] => none
  | c :: rest =>
      if isBullet c then
        if isThematicBreak cursor.rest then none
        else
          { cursor with rest := rest, column := cursor.column + 1 }.afterMarker? c (indent + 2)
      else
        let digits := cursor.rest.takeWhile Text.isAsciiDigit
        match cursor.rest.drop digits.length with
        | kind :: rest =>
            if 1 ≤ digits.length && digits.length ≤ 9 && isNumberEnd kind then
              let width := digits.length + 1
              { cursor with rest := rest, column := cursor.column + width }.afterMarker?
                kind (indent + 1 + width)
            else none
        | [] => none

/-- A list item as it may interrupt a paragraph. -/
structure ItemStart where
  /-- It is a bullet, or its number is one. -/
  first : Bool
  rest : Text

/-- The list item that a line begins; after its marker come a space, a tab or the line end. -/
def itemStart? (text : Text) : Option ItemStart :=
  match text with
  | [] => none
  | c :: rest =>
      if isBullet c then delimited ⟨true, rest⟩
      else
        let digits := (text.take 9).takeWhile Text.isAsciiDigit
        match text.drop digits.length with
        | kind :: rest =>
            if 1 ≤ digits.length && isNumberEnd kind then
              delimited ⟨Text.decimalValue digits == 1, rest⟩
            else none
        | [] => none
where
  delimited (item : ItemStart) : Option ItemStart :=
    match item.rest with
    | [] => some item
    | c :: _ => if c = ' ' || c = '\t' || atLineEnd item.rest then some item else none

end DocCheck.Markdown
