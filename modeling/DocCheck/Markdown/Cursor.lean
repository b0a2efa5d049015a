import DocCheck.Markdown.Line

/-!
A place in a line, for counting indentation. Columns matter instead of characters: a tab reaches to
the next multiple of four, and a container may take only some of its columns.
-/

namespace DocCheck.Markdown

structure Cursor where
  rest : Text
  /-- The number of characters since the line start or the last tab. -/
  column : Nat
  /-- The columns that are left of a tab already passed. -/
  owed : Nat
  deriving Repr, DecidableEq

namespace Cursor

def ofLine (line : Text) : Cursor :=
  ⟨line, 0, 0⟩

/-- Passes spaces and tabs that stand for up to `wanted` columns; also how many were wanting. -/
def passSpaces (wanted column : Nat) : Text → Nat × Cursor
  | [] => (wanted, ⟨[], column, 0⟩)
  | c :: rest =>
      if wanted = 0 then (0, ⟨c :: rest, column, 0⟩)
      else if c = ' ' then passSpaces (wanted - 1) (column + 1) rest
      else if c = '\t' then
        let width := 4 - column % 4
        if wanted < width then (0, ⟨rest, 0, width - wanted⟩)
        else passSpaces (wanted - width) 0 rest
      else (wanted, ⟨c :: rest, column, 0⟩)

/-- Passes up to `limit` columns of indentation; also how many there were. -/
def indentUpTo (limit : Nat) (cursor : Cursor) : Nat × Cursor :=
  if limit ≤ cursor.owed then (limit, { cursor with owed := cursor.owed - limit })
  else
    let passed := passSpaces (limit - cursor.owed) cursor.column cursor.rest
    (limit - passed.1, passed.2)

def passChar? (expected : Char) (cursor : Cursor) : Option Cursor :=
  match cursor.rest with
  | c :: rest =>
      if c = expected then some { cursor with rest := rest, column := cursor.column + 1 } else none
  | [] => none

/-- Passes the mark of a block quote and one column of space after it. -/
def quoteMark? (cursor : Cursor) : Option Cursor :=
  (cursor.passChar? '>').map fun inside => (inside.indentUpTo 1).2

def skipBlanks (cursor : Cursor) : Text :=
  cursor.rest.dropWhile fun c => c = ' ' || c = '\t'

end Cursor

end DocCheck.Markdown
