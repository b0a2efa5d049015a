import DocCheck.Text.White

/-!
Text as a sequence of characters: splitting at separators and at line ends, and trimming white space.
-/

namespace DocCheck

/-- Text, as the sequence of its characters. -/
abbrev Text := List Char

namespace Text

/-! ## Parts -/

def occursIn (part : Text) : Text → Bool
  | [] => part.isEmpty
  | c :: rest => List.isPrefixOf part (c :: rest) || occursIn part rest

/-- What stands before and after the first occurrence of a separator. -/
def splitOnce? (separator : Text) : Text → Option (Text × Text)
  | [] => if separator.isEmpty then some ([], []) else none
  | c :: rest =>
      match List.isPrefixOf? separator (c :: rest) with
      | some after => some ([], after)
      | none =>
          (splitOnce? separator rest).map fun parts => (c :: parts.1, parts.2)

/-- The parts between the occurrences of a separating character; there is always at least one. -/
def splitAt (separator : Char) : Text → List Text
  | [] => [[]]
  | c :: rest =>
      if c = separator then [] :: splitAt separator rest
      else
        match splitAt separator rest with
        | [] => [[c]]
        | part :: parts => (c :: part) :: parts

def joinWith (separator : Text) (parts : List Text) : Text :=
  List.intercalate separator parts

def byteLength : Text → Nat
  | [] => 0
  | c :: rest => c.utf8Size + byteLength rest

def replaceChar (old new : Char) (text : Text) : Text :=
  text.map fun c => if c = old then new else c

/-! ## Lines and words -/

/-- The lines of a text. A newline ends a line, together with one carriage return before it, and is
not part of it; what follows the last newline is a line unless it is empty. -/
def lines : Text → List Text
  | [] => []
  | '\n' :: rest => [] :: lines rest
  | '\r' :: '\n' :: rest => [] :: lines rest
  | c :: rest =>
      match lines rest with
      | [] => [[c]]
      | line :: more => (c :: line) :: more

def dropEndWhile (inClass : Char → Bool) (text : Text) : Text :=
  (text.reverse.dropWhile inClass).reverse

def trimEnd (text : Text) : Text :=
  dropEndWhile isWhite text

def trim (text : Text) : Text :=
  trimEnd (text.dropWhile isWhite)

/-- The first maximal run of characters that are not white space, if there is one. -/
def firstWord? (text : Text) : Option Text :=
  match (text.dropWhile isWhite).takeWhile (fun c => !isWhite c) with
  | [] => none
  | word => some word

/-- Equality up to the case of ASCII letters. -/
def equalIgnoringCase (left right : Text) : Bool :=
  left.map Char.toLower == right.map Char.toLower

end Text

end DocCheck
