import DocCheck.Text.Basic

/-!
Text as bytes. Bytes are read character by character; where no character begins, as many bytes as
could still have begun one are taken together, and at least one.
-/

namespace DocCheck.Text.Utf8

def encode (text : Text) : List UInt8 :=
  text.flatMap String.utf8EncodeChar

/-- The byte continues a character. -/
def isTail (byte : UInt8) : Bool :=
  0x80 ≤ byte && byte ≤ 0xBF

/-- The second byte may follow the first of a character of three bytes. -/
def fitsThree (first second : UInt8) : Bool :=
  if first = 0xE0 then 0xA0 ≤ second && second ≤ 0xBF
  else if first = 0xED then 0x80 ≤ second && second ≤ 0x9F
  else isTail second

def fitsFour (first second : UInt8) : Bool :=
  if first = 0xF0 then 0x90 ≤ second && second ≤ 0xBF
  else if first = 0xF4 then 0x80 ≤ second && second ≤ 0x8F
  else isTail second

def low (byte : UInt8) : Nat :=
  byte.toNat % 64

/-- The character that begins the bytes `first :: rest`, if one does, and how many bytes it or the
faulty beginning takes. -/
def head (first : UInt8) (rest : List UInt8) : Option Char × Nat :=
  if first < 0x80 then (some (Char.ofNat first.toNat), 1)
  else if 0xC2 ≤ first && first ≤ 0xDF then
    match rest with
    | b :: _ =>
        if isTail b then (some (Char.ofNat (first.toNat % 32 * 64 + low b)), 2) else (none, 1)
    | [] => (none, 1)
  else if 0xE0 ≤ first && first ≤ 0xEF then
    match rest with
    | b :: rest =>
        if fitsThree first b then
          match rest with
          | c :: _ =>
              if isTail c then
                (some (Char.ofNat ((first.toNat % 16 * 64 + low b) * 64 + low c)), 3)
              else (none, 2)
          | [] => (none, 2)
        else (none, 1)
    | [] => (none, 1)
  else if 0xF0 ≤ first && first ≤ 0xF4 then
    match rest with
    | b :: rest =>
        if fitsFour first b then
          match rest with
          | c :: rest =>
              if isTail c then
                match rest with
                | d :: _ =>
                    if isTail d then
                      (some (Char.ofNat
                        (((first.toNat % 8 * 64 + low b) * 64 + low c) * 64 + low d)), 4)
                    else (none, 3)
                | [] => (none, 3)
              else (none, 2)
          | [] => (none, 2)
        else (none, 1)
    | [] => (none, 1)
  else (none, 1)

/-- The characters of a byte sequence whose first `skip` bytes have been taken; `none` stands for a
faulty beginning. -/
def characters (skip : Nat) : List UInt8 → List (Option Char)
  | [] => []
  | first :: rest =>
      if skip = 0 then
        let found := head first rest
        found.1 :: characters (found.2 - 1) rest
      else characters (skip - 1) rest

def decode? (bytes : List UInt8) : Option Text :=
  (characters 0 bytes).mapM id

/-- The text that bytes spell, with a replacement character for whatever spells none. -/
def decodeLossy (bytes : List UInt8) : Text :=
  (characters 0 bytes).map fun c => c.getD '\ufffd'

end DocCheck.Text.Utf8
