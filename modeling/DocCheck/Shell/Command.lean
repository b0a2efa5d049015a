import DocCheck.Machine

/-!
Shell scripts as trees. Scripts work on bytes, so every character of a script, of its variables and
of its output stands for one byte.
-/

namespace DocCheck.Shell

/-- Text of a script; every character stands for one byte. -/
abbrev Raw := List Char

def ofBytes (bytes : Bytes) : Raw :=
  bytes.map fun byte => Char.ofNat byte.toNat

def toBytes (raw : Raw) : Bytes :=
  raw.map fun c => UInt8.ofNat c.toNat

def toText (raw : Raw) : Text :=
  Text.Utf8.decodeLossy (toBytes raw)

def ofText (text : Text) : Raw :=
  ofBytes (Text.Utf8.encode text)

/-- A part of a word. What is quoted is neither split nor taken as a pattern. -/
inductive Part where
  | literal (text : Raw) (isQuoted : Bool)
  | parameter (name : Raw) (isQuoted : Bool)
  | size (name : Raw)
  /-- A parameter without what matches a pattern at its beginning or end. -/
  | trimmed (name : Raw) (atEnd longest : Bool) (pattern : List Part) (isQuoted : Bool)
  /-- A parameter with a word that takes its place if it is unset (`-`, `=`) or set (`+`); being
  empty may count as being unset. -/
  | alternative (name : Raw) (kind : Char) (emptyIsUnset : Bool) (word : List Part)
      (isQuoted : Bool)
  | arithmetic (expression : List Part)
  | output (script : Raw) (isQuoted : Bool)

abbrev Word := List Part

inductive RedirectMode where
  | read
  /-- What is read stands in the script. -/
  | given
  | write
  | append
  /-- The channel goes where another one goes. -/
  | same
  deriving Repr, DecidableEq

/-- A channel that is connected to a file or to another channel. -/
structure Redirect where
  channel : Nat
  mode : RedirectMode
  target : Word

inductive Command where
  | nothing
  /-- Assignments, and a program with its arguments. -/
  | simple (line : Nat) (settings : List (Raw × Word)) (words : List Word)
      (redirects : List Redirect)
  | pipe (left right : Command)
  | both (left right : Command)
  | either (left right : Command)
  | negated (command : Command)
  | inOrder (first second : Command)
  | choice (condition consequence alternative : Command)
  /-- A loop that goes on while the condition succeeds, or while it fails. -/
  | repeated (whileFails : Bool) (condition body : Command)
  /-- A loop over words, or over the arguments of the script. -/
  | forEach (name : Raw) (words : Option (List Word)) (body : Command)
  | select (subject : Word) (branches : List (List Word × Command))
  | redirected (line : Nat) (body : Command) (redirects : List Redirect)
  /-- A command whose changes to the shell are forgotten. -/
  | isolated (body : Command)
  | define (name : Raw) (body : Command)

end DocCheck.Shell
