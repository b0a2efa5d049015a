import DocCheck.Text.Quoted
import DocCheck.Text.Digit

/-!
JSON values and their text on several lines: two spaces per level, one element or member on each
line, and nothing between the brackets of an empty list or object.
-/

namespace DocCheck

/-- A JSON value. Members of an object stand in the order in which they are written. -/
inductive Json where
  | null
  | bool (value : Bool)
  | number (value : Nat)
  | string (value : Text)
  | list (elements : List Json)
  | object (members : List (Text × Json))

namespace Json

def controlDigits (c : Char) : Text :=
  let digits := Text.hexadecimal c.toNat
  List.replicate (4 - digits.length) '0' ++ digits

def stringChar (c : Char) : Text :=
  if c = '"' then ['\\', '"']
  else if c = '\\' then ['\\', '\\']
  else if c = '\x08' then ['\\', 'b']
  else if c = '\x0c' then ['\\', 'f']
  else if c = '\n' then ['\\', 'n']
  else if c = '\r' then ['\\', 'r']
  else if c = '\t' then ['\\', 't']
  else if c.toNat < 32 then '\\' :: 'u' :: controlDigits c
  else [c]

def quote (text : Text) : Text :=
  '"' :: text.flatMap stringChar ++ ['"']

/-- A line end and the spaces of a level. -/
def newLine (level : Nat) : Text :=
  '\n' :: List.replicate (2 * level) ' '

mutual

def pretty (level : Nat) : Json → Text
  | .null => "null".toList
  | .bool value => if value then "true".toList else "false".toList
  | .number value => Text.decimal value
  | .string value => quote value
  | .list [] => "[]".toList
  | .list (first :: rest) =>
      '[' :: newLine (level + 1) ++ pretty (level + 1) first ++ prettyElements (level + 1) rest ++
        newLine level ++ [']']
  | .object [] => ['\x7b', '\x7d']
  | .object ((key, value) :: rest) =>
      '\x7b' :: newLine (level + 1) ++ quote key ++ ':' :: ' ' :: pretty (level + 1) value ++
        prettyMembers (level + 1) rest ++ newLine level ++ ['\x7d']

def prettyElements (level : Nat) : List Json → Text
  | [] => []
  | element :: rest => ',' :: newLine level ++ pretty level element ++ prettyElements level rest

def prettyMembers (level : Nat) : List (Text × Json) → Text
  | [] => []
  | (key, value) :: rest =>
      ',' :: newLine level ++ quote key ++ ':' :: ' ' :: pretty level value ++
        prettyMembers level rest

end

def text (value : Json) : Text :=
  pretty 0 value

end Json

end DocCheck
