import DocCheck.Json.Number

/-!
Passing over a JSON value without reading it. Lists and objects that are open are kept in a list of
frames, so that they may be nested to any depth.
-/

namespace DocCheck.Json

/-- A list or an object that is open. -/
inductive Frame where
  | list
  | object
  deriving Repr, DecidableEq

namespace Frame

def closer : Frame → Char
  | list => ']'
  | object => '\x7d'

def endFault : Frame → Fault
  | list => .endInList
  | object => .endInObject

/-- Neither a comma nor the closing character follows an element. -/
def separatorFault : Frame → Fault
  | list => .expectedListSeparator
  | object => .expectedObjectSeparator

end Frame

/-- Passes the closing characters behind a value, or behind an opening character if `complete` is
false. What is still open is returned with the rest. -/
def settle (complete : Bool) : List Frame → Text → Except Misreading (List Frame × Text)
  | [], text => .ok ([], text)
  | frame :: outer, text =>
      match skipSpace text with
      | [] => failHere frame.endFault []
      | c :: rest =>
          -- Behind a comma another value has to follow.
          if complete && c = ',' then .ok (frame :: outer, rest)
          else if c = frame.closer then settle true outer rest
          else if complete then failAhead frame.separatorFault (c :: rest)
          else .ok (frame :: outer, c :: rest)

/-- Passes a value that is neither a list nor an object. -/
def skipScalar (text : Text) : Except Misreading Text :=
  match text with
  | [] => failHere .endInValue []
  | c :: rest =>
      if c = 'n' then word "ull".toList rest
      else if c = 't' then word "rue".toList rest
      else if c = 'f' then word "alse".toList rest
      else if c = '-' then Number.skip rest
      else if Text.isAsciiDigit c then Number.skip text
      else if c = '"' then skipString rest
      else failAhead .expectedValue text

def skipKey (text : Text) : Except Misreading Text :=
  match skipSpace text with
  | [] => failHere .endInObject []
  | c :: rest =>
      if c = '"' then
        match skipString rest with
        | .error failure => .error failure
        | .ok rest =>
            match skipSpace rest with
            | [] => failHere .endInObject []
            | c :: rest => if c = ':' then .ok rest else failAhead .expectedColon (c :: rest)
      else failAhead .keyNotString (c :: rest)

/-- Passes the values up to the end of everything that is open; `fuel` bounds their number. -/
def skipWithin : Nat → List Frame → Text → Except Misreading Text
  | 0, _, text => failHere .endInValue text
  | fuel + 1, frames, text =>
      let spaced := skipSpace text
      let settled :=
        match spaced with
        | '[' :: rest => settle false (.list :: frames) rest
        | '\x7b' :: rest => settle false (.object :: frames) rest
        | _ =>
            match skipScalar spaced with
            | .error failure => .error failure
            | .ok rest => settle true frames rest
      match settled with
      | .error failure => .error failure
      | .ok ([], rest) => .ok rest
      | .ok (.list :: outer, rest) => skipWithin fuel (.list :: outer) rest
      | .ok (.object :: outer, rest) =>
          match skipKey rest with
          | .error failure => .error failure
          | .ok rest => skipWithin fuel (.object :: outer) rest

def skipValue (text : Text) : Except Misreading Text :=
  skipWithin (text.length + 1) [] text

end DocCheck.Json
