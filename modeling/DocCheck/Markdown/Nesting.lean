import DocCheck.Markdown.Marker
import DocCheck.Markdown.HtmlBlock

/-!
The block quotes, lists and list items that are open at a line, what a line says about them, and
when a line interrupts a paragraph.
-/

namespace DocCheck.Markdown

inductive Container where
  | quote
  /-- A list of items with the same marker character. -/
  | list (marker : Char) (tight : Bool)
  /-- A list item whose content begins at a column. -/
  | item (indent : Nat)
  deriving Repr, DecidableEq

namespace Container

/-- Passes what a line holds for a container that goes on: a quote mark after at most three
columns, or the indentation of an item, which may be missing at the end of the line. -/
def continue? (container : Container) (cursor : Cursor) : Option Cursor :=
  match container with
  | .quote => (cursor.indentUpTo 3).2.quoteMark?
  | .list _ _ => some cursor
  | .item indent =>
      let passed := cursor.indentUpTo indent
      if passed.1 = indent || atLineEnd passed.2.rest then some passed.2 else none

/-- A list whose items no blank line separates. -/
def isTightList : Container → Bool
  | .list _ tight => tight
  | _ => false

def isList : Container → Bool
  | .list _ _ => true
  | _ => false

def loosened : Container → Container
  | .list marker _ => .list marker false
  | other => other

/-- Text in the container is written behind a mark or indentation. -/
def hasMargin : Container → Bool
  | .list _ _ => false
  | _ => true

end Container

/-- How far a line agrees with the open containers. -/
structure Agreement where
  /-- The containers that go on, innermost first. -/
  kept : List Container
  complete : Bool
  /-- The place behind what the line holds for them. -/
  cursor : Cursor

/-- Follows the open containers, given innermost first, along a line; the outermost comes first on
the line, and the first one that it does not go on with ends all inside it. -/
def follow (line : Text) : List Container → Agreement
  | [] => ⟨[], true, .ofLine line⟩
  | container :: outer =>
      let outside := follow line outer
      if outside.complete then
        match container.continue? outside.cursor with
        | some cursor => ⟨container :: outside.kept, true, cursor⟩
        | none => { outside with complete := false }
      else outside

/-- The open containers together with what blank lines have said about them. -/
structure Nesting where
  containers : List Container
  /-- The innermost item began with nothing but its marker. -/
  emptyItem : Bool
  blankBefore : Bool
  deriving Repr, DecidableEq

namespace Nesting

def empty : Nesting :=
  ⟨[], false, false⟩

/-- Closes all containers but the `kept` outermost ones. -/
def closeTo (kept : Nat) (nesting : Nesting) : Nesting :=
  let closed := nesting.containers.take (nesting.containers.length - kept)
  { nesting with
    containers := nesting.containers.drop (nesting.containers.length - kept)
    emptyItem := nesting.emptyItem && !closed.any Container.isTightList }

/-- An item that holds nothing after its first line and a blank one is closed. -/
def settleItem (nesting : Nesting) : Nesting :=
  match nesting.containers with
  | .item _ :: outer =>
      if nesting.emptyItem && nesting.blankBefore then
        { nesting with containers := outer, emptyItem := false }
      else { nesting with emptyItem := false }
  | _ => { nesting with emptyItem := false }

/-- Closes a list that no item goes on with. -/
def closeList (nesting : Nesting) : Nesting :=
  let settled := nesting.settleItem
  let containers := match settled.containers with
    | .list _ _ :: outer => outer
    | other => other
  if settled.blankBefore then
    -- The blank line makes the list around it loose.
    { containers := match containers with
        | inner :: outside :: outer => inner :: outside.loosened :: outer
        | other => other
      emptyItem := false
      blankBefore := false }
  else { settled with containers := containers }

/-- Goes on with the list of the marker, or begins it. -/
def openList (marker : Char) (nesting : Nesting) : Nesting :=
  let settled := nesting.settleItem
  match settled.containers with
  | .list current tight :: outer =>
      if current = marker then
        if settled.blankBefore then
          { settled with containers := .list current false :: outer, blankBefore := false }
        else { settled with containers := .list current tight :: outer }
      else begun settled.closeList
  | [] => begun settled
  | _ :: _ => begun settled.closeList
where
  begun (nesting : Nesting) : Nesting :=
    { nesting with containers := .list marker true :: nesting.containers, blankBefore := false }

def opening (container : Container) (nesting : Nesting) : Nesting :=
  { nesting with containers := container :: nesting.containers }

/-- What a blank line says: it may end an item that has been empty so far, and it may make a list
loose. Inside a quote it says nothing. -/
def afterBlank (nesting : Nesting) : Nesting :=
  match nesting.containers with
  | [] | .quote :: _ => nesting
  | .item _ :: outer =>
      if nesting.emptyItem then
        { nesting with containers := .item 0 :: outer, blankBefore := true }
      else { nesting with blankBefore := true }
  | .list _ _ :: _ => { nesting with blankBefore := true }

def hasMargin (nesting : Nesting) : Bool :=
  nesting.containers.any Container.hasMargin

end Nesting

/-! ## Interrupting a paragraph -/

/-- Two blank lines follow the marker of an item, so that the item stays empty. -/
def isEmptyItem (rest : Text) (following : List Text) : Bool :=
  isBlank rest &&
    match following with
    | [] => true
    | line :: _ => isBlank line

/-- What is left of a line begins a block that interrupts a paragraph, whose containers all go on if
it is `inside`. -/
def interrupts (inside : Bool) (text : Text) (following : List Text) : Bool :=
  atLineEnd text || isThematicBreak text || isAtxHeading text ||
    (openingFence? 0 text (codeTail text following).1).isSome ||
    text.head? == some '>' ||
    (match itemStart? text with
      -- Inside, the item has to be the first of a list and must not be empty.
      | some item => !inside || (item.first && !isEmptyItem item.rest following)
      | none => false) ||
    (HtmlEnd.interrupting? text).isSome

end DocCheck.Markdown
