import DocCheck.Text.Basic

/-!
Lines of a Markdown document. A line ends at a newline, at a carriage return, or at the two together,
and keeps the characters that end it, so that the lines concatenate to the document. Code is copied
by longer lines, which only a newline ends.
-/

namespace DocCheck.Markdown

/-- The lines of a document, each with its line end. -/
def splitLines : Text → List Text
  | [] => []
  | '\r' :: '\n' :: rest => ['\r', '\n'] :: splitLines rest
  | '\r' :: rest => ['\r'] :: splitLines rest
  | '\n' :: rest => ['\n'] :: splitLines rest
  | c :: rest =>
      match splitLines rest with
      | [] => [[c]]
      | line :: more => (c :: line) :: more

def atLineEnd : Text → Bool
  | [] => true
  | c :: _ => c = '\n' || c = '\r'

/-- White space that does not end a line. -/
def isInlineSpace (c : Char) : Bool :=
  c = ' ' || c = '\t' || c = '\x0b' || c = '\x0c'

def isBlank (text : Text) : Bool :=
  atLineEnd (text.dropWhile isInlineSpace)

def endsWithNewline (text : Text) : Bool :=
  text.getLast? == some '\n'

/-- The lines after one that no newline ends, up to and including the next newline: the text that
they add to it and how many they are. -/
def untilNewline : List Text → Text × Nat
  | [] => ([], 0)
  | line :: following =>
      if endsWithNewline line then (line, 1)
      else
        let more := untilNewline following
        (line ++ more.1, more.2 + 1)

/-- What a line of code adds to the rest of the line it begins on, and on how many more lines. -/
def codeTail (line : Text) (following : List Text) : Text × Nat :=
  if endsWithNewline line then ([], 0) else untilNewline following

theorem flatten_splitLines (text : Text) : (splitLines text).flatten = text := by
  fun_induction splitLines text <;> simp_all

end DocCheck.Markdown
