import DocCheck.Markdown.FencedBlock

/-!
The fenced code blocks of a Markdown document. The document is read line by line; what is open after
a line decides what the next line may go on with. Reading looks ahead, but only to decide; a line
that has been taken by an earlier one is counted off by `skip`.
-/

namespace DocCheck.Markdown

/-- A block that holds text, as far as it may go on in the next line. -/
inductive Leaf where
  | none
  | paragraph
  | indentedCode
  | html (stop : HtmlEnd)
  | fenced (block : OpenBlock)
  deriving Repr, DecidableEq

/-- What is open before a line. -/
structure Reader where
  nesting : Nesting
  leaf : Leaf
  /-- So many of the next lines belong to what has been read. -/
  skip : Nat
  line : Nat
  deriving Repr, DecidableEq

/-- What a line leaves open: the containers, the block of text in them, and how many of the next
lines it takes as well. -/
structure Opened where
  nesting : Nesting
  leaf : Leaf
  skip : Nat

/-! ## Lines that begin a block -/

/-- Opens the quotes and list items that begin at the cursor, at most `fuel` of them. The last
component says that an item without content ends the line. -/
def openContainers : Nat → Nesting → Cursor → Nesting × Cursor × Bool
  | 0, nesting, cursor => (nesting, cursor, false)
  | fuel + 1, nesting, cursor =>
      let indented := cursor.indentUpTo 4
      if indented.1 = 4 then (nesting, cursor, false)
      else
        match indented.2.listMarker? indented.1 with
        | some (marker, inside) =>
            let nesting := (nesting.openList marker.kind).opening (.item marker.indent)
            if isBlank inside.rest then ({ nesting with emptyItem := true }, inside, true)
            else openContainers fuel nesting inside
        | none =>
            match indented.2.quoteMark? with
            | some inside => openContainers fuel (nesting.closeList.opening .quote) inside
            | none => (nesting, cursor, false)

/-- The block that an HTML line leaves open; `text` reaches to the next newline. -/
def htmlLeaf (stop : HtmlEnd) (text : Text) : Leaf :=
  match stop with
  | .lineWith closing => if Text.occursIn closing text then .none else .html stop
  | .beforeBlank => .html stop

/-- The block that begins with what is left of a line, which is not blank and not indented by four
columns; `indent` columns stand before it. -/
def openLeaf (nesting : Nesting) (number indent : Nat) (text : Text) (following : List Text) :
    Leaf × Nat :=
  let tail := codeTail text following
  match HtmlEnd.beginning? text with
  | some stop => (htmlLeaf stop (text ++ tail.1), tail.2)
  | none =>
      if isThematicBreak text || isAtxHeading text then (.none, 0)
      else
        match openingFence? indent text tail.1 with
        | some (fence, after) =>
            (.fenced (.opened fence number nesting.hasMargin (text ++ tail.1) (after ++ tail.1)),
              tail.2)
        | none =>
            -- A link definition is not shown, but the lines that it takes begin nothing.
            match LinkDefinition.linesAfter? nesting.containers text following with
            | some later => (.none, following.length - later.length)
            | none => (.paragraph, 0)

/-- Reads a line that no open block of text goes on in. -/
def openLine (nesting : Nesting) (number : Nat) (line : Text) (following : List Text) : Opened :=
  let agreement := follow line nesting.containers
  let reached := openContainers (line.length + 1) (nesting.closeTo agreement.kept.length)
    agreement.cursor
  let cursor := reached.2.1
  if reached.2.2 then ⟨reached.1, .none, 0⟩
  else if isBlank cursor.rest then ⟨reached.1.afterBlank, .none, 0⟩
  else
    let nesting := reached.1.closeList
    let indented := cursor.indentUpTo 4
    if indented.1 = 4 then
      ⟨nesting, .indentedCode, (codeTail indented.2.rest following).2⟩
    else
      let leaf := openLeaf nesting number indented.1 indented.2.rest following
      ⟨nesting, leaf.1, leaf.2⟩

/-! ## Lines that go on with a block -/

inductive ParagraphLine where
  /-- It underlines the paragraph and makes a heading of it. -/
  | underline
  | goesOn
  | ended

/-- A line after a line of a paragraph. -/
def paragraphLine (containers : List Container) (line : Text) (following : List Text) :
    ParagraphLine :=
  let agreement := follow line containers
  let passed := agreement.cursor.indentUpTo 4
  if passed.1 < 4 && agreement.complete && isSetextUnderline passed.2.rest then .underline
  else if passed.1 < 4 && interrupts agreement.complete passed.2.rest following then .ended
  else if atLineEnd passed.2.skipBlanks then .ended
  -- This is so even if the line lacks the marks of the containers.
  else .goesOn

inductive FencedLine where
  /-- It is code; it takes so many of the next lines as well. -/
  | code (block : OpenBlock) (skip : Nat)
  | closed (block : FencedBlock)
  /-- It does not belong to the containers of the block. -/
  | outside

def fencedLine (containers : List Container) (block : OpenBlock) (line : Text)
    (following : List Text) : FencedLine :=
  let agreement := follow line containers
  if !agreement.complete then .outside
  else
    let inner := (agreement.cursor.indentUpTo block.fence.indent).2
    let indented := inner.indentUpTo (4 - block.fence.indent)
    -- With four columns before it, a closing fence is code.
    let closing :=
      if indented.1 < 4 - block.fence.indent then closingFence? block.fence indented.2.rest
      else none
    match closing with
    | some after => .closed (block.close (line.take (line.length - after.length)))
    | none =>
        let tail := codeTail line following
        .code (block.addLine (line ++ tail.1) inner.owed (inner.rest ++ tail.1)) tail.2

/-- Reads a line: what is open after it, and the fenced code block that ends there. -/
def Reader.readOpen (reader : Reader) (line : Text) (following : List Text) :
    Opened × Option FencedBlock :=
  let nesting := reader.nesting
  let fresh := openLine nesting reader.line line following
  let agreement := follow line nesting.containers
  match reader.leaf with
  | .none => (fresh, none)
  | .paragraph =>
      match paragraphLine nesting.containers line following with
      | .underline => (⟨nesting, .none, 0⟩, none)
      | .goesOn => (⟨nesting, .paragraph, 0⟩, none)
      | .ended => (fresh, none)
  | .indentedCode =>
      let passed := agreement.cursor.indentUpTo 4
      if agreement.complete && (passed.1 = 4 || atLineEnd passed.2.rest) then
        (⟨{ nesting with blankBefore := isBlank passed.2.rest }, .indentedCode,
          (codeTail line following).2⟩, none)
      else (fresh, none)
  | .html stop =>
      let rest := agreement.cursor.rest
      let tail := codeTail line following
      if !agreement.complete || (stop = .beforeBlank && isBlank rest) then (fresh, none)
      else (⟨nesting, htmlLeaf stop (rest ++ tail.1), tail.2⟩, none)
  | .fenced block =>
      match fencedLine nesting.containers block line following with
      | .code block skip => (⟨nesting, .fenced block, skip⟩, none)
      | .closed block => (⟨nesting, .none, 0⟩, some block)
      | .outside => (fresh, some (block.close []))

/-- Reads a line, unless an earlier one has taken it. -/
def Reader.read (reader : Reader) (line : Text) (following : List Text) :
    Reader × Option FencedBlock :=
  let next := if endsWithNewline line then reader.line + 1 else reader.line
  if reader.skip = 0 then
    let opened := reader.readOpen line following
    (⟨opened.1.nesting, opened.1.leaf, opened.1.skip, next⟩, opened.2)
  else ({ reader with skip := reader.skip - 1, line := next }, none)

/-! ## Documents -/

def Reader.start : Reader :=
  ⟨.empty, .none, 0, 1⟩

/-- The end of the document closes the block that is still open. -/
def Reader.finish (reader : Reader) : Option FencedBlock :=
  match reader.leaf with
  | .fenced block => some (block.close [])
  | _ => none

/-- The fenced code blocks that end in the given lines or at their end. -/
def Reader.blocks (reader : Reader) : List Text → List FencedBlock
  | [] => reader.finish.toList
  | line :: following =>
      let result := reader.read line following
      result.2.toList ++ result.1.blocks following

def fencedBlocks (document : Text) : List FencedBlock :=
  Reader.start.blocks (splitLines document)

end DocCheck.Markdown
