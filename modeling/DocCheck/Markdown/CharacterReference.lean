import DocCheck.Markdown.CharacterReference.Names
import DocCheck.Text.Digit
import DocCheck.Text.Word

/-!
Backslash escapes and character references, as they are written in the text behind a code fence.
-/

namespace DocCheck.Markdown

namespace CharacterReference

def hexDigit? (c : Char) : Option Nat :=
  let n := c.toNat
  if 48 ≤ n && n ≤ 57 then some (n - 48)
  else if 65 ≤ n && n ≤ 70 then some (n - 55)
  else if 97 ≤ n && n ≤ 102 then some (n - 87)
  else none

def hexValue (digits : Text) : Nat :=
  digits.foldl (fun value c => 16 * value + (hexDigit? c).getD 0) 0

/-- The character with a code point; a code point that has none is shown as a replacement. -/
def characterAt (codePoint : Nat) : Char :=
  if codePoint = 0 || !(codePoint.isValidChar) then '\ufffd' else Char.ofNat codePoint

/-- The characters that a name stands for, looked up in what is left of a table of entries. -/
def lookUp (name : Text) (entries : List Text) : Option Text :=
  entries.findSome? fun entry =>
    match List.isPrefixOf? (name ++ ['=']) entry with
    | some points => some ((Text.splitAt '.' points).map fun point => characterAt (hexValue point))
    | none => none

def named? (name : Text) : Option Text :=
  lookUp name (nameTable.flatMap fun row => Text.splitAt ' ' row.toList)

/-- The character reference that the text after a `&` spells: the characters that it stands for,
and what follows its semicolon. -/
def afterAmpersand? (text : Text) : Option (Text × Text) :=
  match text with
  | '#' :: c :: rest =>
      if c = 'x' || c = 'X' then
        let digits := (rest.take 6).takeWhile fun c => (hexDigit? c).isSome
        numeric digits (hexValue digits) (rest.drop digits.length)
      else
        let digits := ((c :: rest).take 7).takeWhile Text.isAsciiDigit
        numeric digits (Text.decimalValue digits) ((c :: rest).drop digits.length)
  | _ =>
      let name := text.takeWhile fun c => Text.isAsciiLetter c || Text.isAsciiDigit c
      match text.drop name.length with
      | ';' :: after => (named? name).map fun characters => (characters, after)
      | _ => none
where
  numeric (digits : Text) (value : Nat) (rest : Text) : Option (Text × Text) :=
    match digits, rest with
    | _ :: _, ';' :: after => some ([characterAt value], after)
    | _, _ => none

end CharacterReference

/-- ASCII punctuation, which a backslash makes literal. -/
def isPunctuation (c : Char) : Bool :=
  let n := c.toNat
  (33 ≤ n && n ≤ 47) || (58 ≤ n && n ≤ 64) || (91 ≤ n && n ≤ 96) || (123 ≤ n && n ≤ 126)

/-- Replaces backslash escapes and character references in the text that `fuel` characters reach,
and drops carriage returns. -/
def unescapeWithin : Nat → Text → Text
  | 0, text => text
  | _ + 1, [] => []
  | fuel + 1, c :: rest =>
      if c = '\\' then
        match rest with
        | next :: after =>
            if isPunctuation next then next :: unescapeWithin fuel after
            else c :: unescapeWithin fuel rest
        | [] => [c]
      else if c = '&' then
        match CharacterReference.afterAmpersand? rest with
        | some (characters, after) => characters ++ unescapeWithin fuel after
        | none => c :: unescapeWithin fuel rest
      else if c = '\r' then unescapeWithin fuel rest
      else c :: unescapeWithin fuel rest

def unescape (text : Text) : Text :=
  unescapeWithin text.length text

end DocCheck.Markdown
