import DocCheck.Markdown.Nesting
import DocCheck.Markdown.CharacterReference

/-!
Link reference definitions: a label in brackets, a colon, a destination and perhaps a title, with at
most one line end between them. Only their extent matters here, since no code block begins inside a
definition. Every reader takes what is left of the current line and the lines after it, and returns
the same of the place that it reaches.
-/

namespace DocCheck.Markdown.LinkDefinition

/-- What reading to the end of a line, or to a closing character on it, comes to. -/
inductive Reading where
  | closed (rest : Text)
  /-- The line ends; as many characters of a label have been read. -/
  | lineEnd (count : Nat)
  /-- A backslash stands before the line end, so that the next line goes on without ado. -/
  | escapedEnd (count : Nat)
  | failed

/-! ## Going on to the next line -/

def labelLine? (containers : List Container) (line : Text) (following : List Text) :
    Option Text :=
  let agreement := follow line containers
  let rest := agreement.cursor.rest
  if interrupts agreement.complete rest following ||
      (agreement.complete && isSetextUnderline rest) || isBlank rest then none
  else some rest

/-- What is left of the next line behind its containers and indentation, unless something else
begins there. -/
def nextLine? (containers : List Container) (line : Text) (following : List Text) :
    Option Text :=
  let agreement := follow line containers
  let passed := agreement.cursor.indentUpTo 4
  if passed.1 < 4 &&
      (interrupts agreement.complete passed.2.rest following ||
        isSetextUnderline passed.2.rest) then none
  else some passed.2.rest

/-- White space with at most one line end, and whether there was one. -/
def spaces? (containers : List Container) (text : Text) (following : List Text) :
    Option (Bool × Text × List Text) :=
  let spaced := text.dropWhile isInlineSpace
  if !atLineEnd spaced then some (false, spaced, following)
  else
    match following with
    | [] => none
    | line :: following =>
        match nextLine? containers line following with
        | none => none
        | some next =>
            let spaced := next.dropWhile isInlineSpace
            if atLineEnd spaced then none else some (true, spaced, following)

/-! ## Labels -/

/-- Reads a label to the end of a line. `count` characters have been read before, and `content` says
whether one of them was not white space. -/
def labelInLine (count : Nat) (content : Bool) : Text → Reading × Bool
  | [] => (.failed, content)
  | c :: rest =>
      if 1000 ≤ count || c = '[' then (.failed, content)
      else if c = ']' then (if content then .closed rest else .failed, content)
      else if c = '\\' then
        match rest with
        | [] => (.failed, true)
        | [next] =>
            if next = '\n' || next = '\r' then (.escapedEnd (count + 2), true)
            else (.failed, true)
        | _ :: rest => labelInLine (count + 2) true rest
      else if c = '\n' || c = '\r' then (.lineEnd (count + 1 + rest.length), content)
      else labelInLine (count + 1) (content || !Text.isAsciiWhite c) rest

/-- What follows the bracket that closes a label. -/
def label? (containers : List Container) (count : Nat) (content : Bool) (text : Text) :
    List Text → Option (Text × List Text)
  | [] =>
      match (labelInLine count content text).1 with
      | .closed rest => some (rest, [])
      | _ => none
  | line :: following =>
      let reading := labelInLine count content text
      match reading.1 with
      | .closed rest => some (rest, line :: following)
      | .failed => none
      | .escapedEnd count => label? containers count reading.2 line following
      | .lineEnd count =>
          match labelLine? containers line following with
          | some rest =>
              label? containers (count + (line.length - rest.length)) reading.2 rest following
          | none => none

/-! ## Destinations and titles -/

/-- What follows a destination written between `<` and `>`. Punctuation behind a backslash
(`escaped`) stands for itself. -/
def afterAngle? (escaped : Bool) : Text → Option Text
  | [] => none
  | c :: rest =>
      if escaped && isPunctuation c then afterAngle? false rest
      else if c = '\n' || c = '\r' || c = '<' then none
      else if c = '>' then some rest
      else afterAngle? (c = '\\') rest

/-- What follows a destination that ends before white space; `depth` parentheses are open, and no
more than two may be. -/
def afterBare? (escaped : Bool) (depth : Nat) : Text → Option Text
  | [] => if depth = 0 then some [] else none
  | c :: rest =>
      if escaped && isPunctuation c then afterBare? false depth rest
      else if c.toNat ≤ 32 || c.toNat = 127 then if depth = 0 then some (c :: rest) else none
      else if c = '(' then if 1 < depth then none else afterBare? false (depth + 1) rest
      else if c = ')' then
        if depth = 0 then some (c :: rest) else afterBare? false (depth - 1) rest
      else afterBare? (c = '\\') depth rest

def afterDestination? (text : Text) : Option Text :=
  match text with
  | '<' :: rest => afterAngle? false rest
  | _ => afterBare? false 0 text

/-- Reads a title to the end of a line. -/
def titleInLine (close : Char) : Text → Reading
  | [] => .failed
  | c :: rest =>
      if c = '\n' || c = '\r' then .lineEnd 0
      else if c = '\\' then
        match rest with
        | [] => .failed
        | [next] => if next = '\n' || next = '\r' then .escapedEnd 0 else .failed
        | _ :: rest => titleInLine close rest
      else if c = close then .closed rest
      else titleInLine close rest

def afterTitle? (containers : List Container) (close : Char) (text : Text) :
    List Text → Option (Text × List Text)
  | [] =>
      match titleInLine close text with
      | .closed rest => some (rest, [])
      | _ => none
  | line :: following =>
      match titleInLine close text with
      | .closed rest => some (rest, line :: following)
      | .failed => none
      | .escapedEnd _ => afterTitle? containers close line following
      | .lineEnd _ =>
          match nextLine? containers line following with
          | some rest =>
              if isBlank rest then none else afterTitle? containers close rest following
          | none => none

/-- What follows a title in quotes or parentheses. -/
def title? (containers : List Container) (text : Text) (following : List Text) :
    Option (Text × List Text) :=
  match text with
  | '"' :: rest => afterTitle? containers '"' rest following
  | '\'' :: rest => afterTitle? containers '\'' rest following
  | '(' :: rest => afterTitle? containers ')' rest following
  | _ => none

/-! ## Definitions -/

/-- The lines after the definition that a line begins. -/
def linesAfter? (containers : List Container) (text : Text) (following : List Text) :
    Option (List Text) :=
  match text with
  | '[' :: rest =>
      match label? containers 0 false rest following with
      | some (':' :: rest, following) =>
          match spaces? containers rest following with
          | some (_, target, following) =>
              match afterDestination? target with
              | some after =>
                  if after.length = target.length then none
                  else
                    match spaces? containers after following with
                    | none => some following
                    | some (crossed, titled, later) =>
                        if !crossed && titled.length = after.length then none
                        else
                          match title? containers titled later with
                          | some (rest, later) =>
                              -- A title that does not end its line is none, and the definition ends
                              -- with the line of the destination.
                              if isBlank rest then some later
                              else if crossed then some following
                              else none
                          | none => if crossed then some following else none
              | none => none
          | none => none
      | _ => none
  | _ => none

end DocCheck.Markdown.LinkDefinition
