import DocCheck.Json.Fault

/-!
White space, words and strings of JSON. Strings are either read or only passed over; the latter
checks less, since it does not look at the characters that escapes stand for.
-/

namespace DocCheck.Json

def isSpace (c : Char) : Bool :=
  c = ' ' || c = '\n' || c = '\t' || c = '\r'

def skipSpace (text : Text) : Text :=
  text.dropWhile isSpace

def word (expected : Text) (text : Text) : Except Misreading Text :=
  match expected, text with
  | [], rest => .ok rest
  | _ :: _, [] => failHere .endInValue []
  | first :: expected, c :: rest =>
      if c = first then word expected rest else failAhead .expectedWord (c :: rest)

/-! ## Strings -/

def hexDigit? (c : Char) : Option Nat :=
  let n := c.toNat
  if 48 ≤ n && n ≤ 57 then some (n - 48)
  else if 65 ≤ n && n ≤ 70 then some (n - 55)
  else if 97 ≤ n && n ≤ 102 then some (n - 87)
  else none

/-- The number that the four hexadecimal digits of an escape spell. -/
def hexEscape (text : Text) : Reading Nat :=
  if Text.byteLength text < 4 then failHere .endInString []
  else
    match text with
    | a :: b :: c :: d :: rest =>
        match hexDigit? a, hexDigit? b, hexDigit? c, hexDigit? d with
        | some a, some b, some c, some d => .ok (((16 * a + b) * 16 + c) * 16 + d, rest)
        | _, _, _, _ => .error ⟨.invalidEscape, text, 4⟩
    | _ => .error ⟨.invalidEscape, text, 4⟩

/-- The second half of a character beyond the basic plane, whose first half is `high`. -/
def lowSurrogate (high : Nat) (text : Text) : Reading Char :=
  match text with
  | [] => failHere .endInString []
  | ['\\'] => failHere .endInString []
  | '\\' :: 'u' :: rest =>
      match hexEscape rest with
      | .error failure => .error failure
      | .ok (low, rest) =>
          if low < 0xDC00 || 0xDFFF < low then failHere .loneSurrogate rest
          else .ok (Char.ofNat (0x10000 + (high - 0xD800) * 0x400 + (low - 0xDC00)), rest)
  | '\\' :: rest => failAhead .endInHexEscape rest
  | _ => failAhead .endInHexEscape text

/-- The character that an escape stands for, after its backslash. -/
def escape (text : Text) : Reading Char :=
  match text with
  | [] => failHere .endInString []
  | c :: rest =>
      if c = '"' || c = '\\' || c = '/' then .ok (c, rest)
      else if c = 'b' then .ok ('\x08', rest)
      else if c = 'f' then .ok ('\x0c', rest)
      else if c = 'n' then .ok ('\n', rest)
      else if c = 'r' then .ok ('\r', rest)
      else if c = 't' then .ok ('\t', rest)
      else if c = 'u' then
        match hexEscape rest with
        | .error failure => .error failure
        | .ok (code, rest) =>
            if 0xDC00 ≤ code && code ≤ 0xDFFF then failHere .loneSurrogate rest
            else if 0xD800 ≤ code && code ≤ 0xDBFF then lowSurrogate code rest
            else .ok (Char.ofNat code, rest)
      else failAhead .invalidEscape text

/-- The string whose opening quote has been passed; `fuel` bounds its characters. -/
def readStringWithin : Nat → Text → Reading Text
  | 0, text => failHere .endInString text
  | fuel + 1, text =>
      match text with
      | [] => failHere .endInString []
      | c :: rest =>
          if c = '"' then .ok ([], rest)
          else if c.toNat < 32 then failAhead .controlCharacter text
          else if c = '\\' then
            match escape rest with
            | .error failure => .error failure
            | .ok (first, rest) =>
                (readStringWithin fuel rest).map fun more => (first :: more.1, more.2)
          else (readStringWithin fuel rest).map fun more => (c :: more.1, more.2)

def readString (text : Text) : Reading Text :=
  readStringWithin (text.length + 1) text

/-- Passes an escape, after its backslash. -/
def skipEscape (text : Text) : Except Misreading Text :=
  match text with
  | [] => failHere .endInString []
  | c :: rest =>
      if c = '"' || c = '\\' || c = '/' || c = 'b' || c = 'f' || c = 'n' || c = 'r' || c = 't' then
        .ok rest
      else if c = 'u' then (hexEscape rest).map Prod.snd
      else failAhead .invalidEscape text

/-- Passes the string whose opening quote has been passed; `fuel` bounds its characters. -/
def skipStringWithin : Nat → Text → Except Misreading Text
  | 0, text => failHere .endInString text
  | fuel + 1, text =>
      match text with
      | [] => failHere .endInString []
      | c :: rest =>
          if c = '"' then .ok rest
          else if c.toNat < 32 then failHere .controlCharacter text
          else if c = '\\' then
            match skipEscape rest with
            | .error failure => .error failure
            | .ok rest => skipStringWithin fuel rest
          else skipStringWithin fuel rest

def skipString (text : Text) : Except Misreading Text :=
  skipStringWithin (text.length + 1) text

end DocCheck.Json
