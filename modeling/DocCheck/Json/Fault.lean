import DocCheck.Text.Basic
import DocCheck.Text.Digit

/-!
What can be wrong with a JSON text, where, and how that is said. A fault is found at a place, which
is what is left of the text from there on; its line and its column, counted in bytes, are worked out
when the message is written.
-/

namespace DocCheck.Json

/-- What is wrong with a JSON text, or with a value for the place where it stands. -/
inductive Fault where
  | endInValue
  | endInString
  | endInList
  | endInObject
  | expectedValue
  | expectedColon
  | expectedListSeparator
  | expectedObjectSeparator
  | expectedWord
  | keyNotString
  | trailingComma
  | trailingCharacters
  | invalidNumber
  | numberOutOfRange
  | invalidEscape
  | endInHexEscape
  | loneSurrogate
  | controlCharacter
  | wrongType (found expected : Text)
  | wrongLength (found : Nat) (expected : Text)
  | duplicateField (name : Text)
  deriving Repr, DecidableEq

def Fault.message : Fault → Text
  | .endInValue => "EOF while parsing a value".toList
  | .endInString => "EOF while parsing a string".toList
  | .endInList => "EOF while parsing a list".toList
  | .endInObject => "EOF while parsing an object".toList
  | .expectedValue => "expected value".toList
  | .expectedColon => "expected `:`".toList
  | .expectedListSeparator => "expected `,` or `]`".toList
  | .expectedObjectSeparator => "expected `,` or `\x7d`".toList
  | .expectedWord => "expected ident".toList
  | .keyNotString => "key must be a string".toList
  | .trailingComma => "trailing comma".toList
  | .trailingCharacters => "trailing characters".toList
  | .invalidNumber => "invalid number".toList
  | .numberOutOfRange => "number out of range".toList
  | .invalidEscape => "invalid escape".toList
  | .endInHexEscape => "unexpected end of hex escape".toList
  | .loneSurrogate => "lone leading surrogate in hex escape".toList
  | .controlCharacter =>
      "control character (\\u0000-\\u001F) found while parsing a string".toList
  | .wrongType found expected =>
      "invalid type: ".toList ++ found ++ ", expected ".toList ++ expected
  | .wrongLength found expected =>
      "invalid length ".toList ++ Text.decimal found ++ ", expected ".toList ++ expected
  | .duplicateField name => "duplicate field `".toList ++ name ++ "`".toList

/-- A fault in a text that is read, and its place. -/
structure Misreading where
  fault : Fault
  rest : Text
  /-- The place lies so many bytes further on, but not behind the end. -/
  ahead : Nat
  deriving Repr, DecidableEq

/-- The line and the column of the place that lies `bytes` bytes behind a place at the given ones. -/
def placeBehind (bytes line column : Nat) : Text → Nat × Nat
  | [] => (line, column)
  | c :: rest =>
      if bytes < c.utf8Size then (line, column + bytes)
      else if c = '\n' then placeBehind (bytes - 1) (line + 1) 0 rest
      else placeBehind (bytes - c.utf8Size) line (column + c.utf8Size) rest

def Misreading.message (text : Text) (failure : Misreading) : Text :=
  let taken := Text.byteLength text - Text.byteLength failure.rest
  let place := placeBehind (taken + failure.ahead) 1 0 text
  failure.fault.message ++ " at line ".toList ++ Text.decimal place.1 ++ " column ".toList ++
    Text.decimal place.2

/-- What a reader makes of the beginning of a text, and what is left. -/
abbrev Reading (α : Type) := Except Misreading (α × Text)

def failHere {α : Type} (fault : Fault) (rest : Text) : Except Misreading α :=
  .error ⟨fault, rest, 0⟩

/-- A fault behind the next byte. -/
def failAhead {α : Type} (fault : Fault) (rest : Text) : Except Misreading α :=
  .error ⟨fault, rest, 1⟩

end DocCheck.Json
