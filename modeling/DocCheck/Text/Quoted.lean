import DocCheck.Text.Basic
import DocCheck.Text.Printable

/-!
Quoted text, as messages show it: between double quotes, with escapes for quotes, backslashes and
all characters that are not printable.
-/

namespace DocCheck.Text

/-- The hexadecimal digits of a number, in lower case. -/
def hexadecimal (n : Nat) : Text :=
  Nat.toDigits 16 n

def quotedChar (c : Char) : Text :=
  if c = '"' then ['\\', '"']
  else if c = '\\' then ['\\', '\\']
  else if c = '\n' then ['\\', 'n']
  else if c = '\r' then ['\\', 'r']
  else if c = '\t' then ['\\', 't']
  else if c = '\x00' then ['\\', '0']
  else if isPrintable c then [c]
  else '\\' :: 'u' :: '\x7b' :: hexadecimal c.toNat ++ ['\x7d']

def quoted (text : Text) : Text :=
  '"' :: text.flatMap quotedChar ++ ['"']

end DocCheck.Text
