import DocCheck.Shell.Command

/-!
Patterns of the shell: `*` for any text, `?` for any character, a bracket for one character of a set.
Quoted characters stand for themselves.
-/

namespace DocCheck.Shell

inductive Glob where
  | anyText
  | anyChar
  | one (c : Char)
  /-- A character that lies in one of the ranges, or in none of them. -/
  | oneOf (outside : Bool) (ranges : List (Char × Char))
  deriving Repr, DecidableEq

namespace Glob

def admits (c : Char) : Glob → Bool
  | anyText => true
  | anyChar => true
  | one expected => c = expected
  | oneOf outside ranges =>
      ranges.any (fun range => range.1 ≤ c && c ≤ range.2) != outside

def matchesAll : List Glob → Raw → Bool
  | [], text => text.isEmpty
  | anyText :: pattern, text =>
      (List.range (text.length + 1)).any fun width => matchesAll pattern (text.drop width)
  | element :: pattern, text =>
      match text with
      | [] => false
      | c :: rest => element.admits c && matchesAll pattern rest

/-- The ranges of a set, given the characters between its brackets. -/
def ranges : Raw → List (Char × Char)
  | [] => []
  | low :: '-' :: high :: rest => (low, high) :: ranges rest
  | c :: rest => (c, c) :: ranges rest

/-- The pattern that characters spell; each comes with the fact whether it is quoted. `fuel` bounds
their number. -/
def ofCharsWithin : Nat → List (Char × Bool) → List Glob
  | 0, _ => []
  | _ + 1, [] => []
  | fuel + 1, (c, isQuoted) :: rest =>
      if isQuoted then one c :: ofCharsWithin fuel rest
      else if c = '*' then anyText :: ofCharsWithin fuel rest
      else if c = '?' then anyChar :: ofCharsWithin fuel rest
      else if c = '[' then
        let negated := match rest with
          | ('!', false) :: _ => true
          | _ => false
        let inside := if negated then rest.drop 1 else rest
        let first := inside.take 1
        let body := first ++ (inside.drop 1).takeWhile fun item => item != (']', false)
        match inside.drop body.length with
        | _ :: after =>
            oneOf negated (ranges (body.map Prod.fst)) :: ofCharsWithin fuel after
        | [] => one c :: ofCharsWithin fuel rest
      else one c :: ofCharsWithin fuel rest

def ofChars (chars : List (Char × Bool)) : List Glob :=
  ofCharsWithin chars.length chars

/-- A text without the longest or shortest beginning that matches. -/
def trimStart (longest : Bool) (pattern : List Glob) (text : Raw) : Raw :=
  let cuts := List.range (text.length + 1)
  let ordered := if longest then cuts.reverse else cuts
  match ordered.find? fun width => matchesAll pattern (text.take width) with
  | some width => text.drop width
  | none => text

/-- A text without the longest or shortest end that matches. -/
def trimEnd (longest : Bool) (pattern : List Glob) (text : Raw) : Raw :=
  let cuts := List.range (text.length + 1)
  let ordered := if longest then cuts else cuts.reverse
  match ordered.find? fun width => matchesAll pattern (text.drop width) with
  | some width => text.take width
  | none => text

end Glob

end DocCheck.Shell
