import DocCheck.Shell.Parse

/-!
Arithmetic of the shell, on whole numbers. Operators bind as usual: multiplication before addition,
then comparison, equality, conjunction and disjunction; all of them to the left.
-/

namespace DocCheck.Shell.Arithmetic

inductive Token where
  | number (value : Int)
  | name (name : Raw)
  | operator (sign : String)
  deriving Repr, DecidableEq

/-- Signs of operators, longer ones first. -/
def signs : List String :=
  ["&&", "||", "==", "!=", "<=", ">=", "<<", ">>", "<", ">", "+", "-", "*", "/", "%", "!", "(", ")"]

/-- The tokens of an expression; `fuel` bounds their number. -/
def tokens? : Nat → Raw → Option (List Token)
  | 0, text => if text.isEmpty then some [] else none
  | fuel + 1, text =>
      match text.dropWhile fun c => isGap c || c = '\n' with
      | [] => some []
      | c :: rest =>
          if Text.isAsciiDigit c then
            let digits := (c :: rest).takeWhile Text.isAsciiDigit
            (tokens? fuel ((c :: rest).drop digits.length)).map
              (Token.number (Text.decimalValue digits) :: ·)
          else if startsName c then
            let name := (c :: rest).takeWhile isNameChar
            (tokens? fuel ((c :: rest).drop name.length)).map (Token.name name :: ·)
          else
            signs.findSome? fun sign =>
              match List.isPrefixOf? sign.toList (c :: rest) with
              | some after => (tokens? fuel after).map (Token.operator sign :: ·)
              | none => none

def ofBool (b : Bool) : Int :=
  if b then 1 else 0

/-- The operators of each level, from the loosest to the tightest. -/
def levels : List (List String) :=
  [["||"], ["&&"], ["==", "!="], ["<", ">", "<=", ">="], ["<<", ">>"], ["+", "-"], ["*", "/", "%"]]

/-- Applies an operator; nothing is divided by zero. -/
def applySign (sign : String) (left right : Int) : Option Int :=
  match sign with
  | "||" => some (ofBool (left != 0 || right != 0))
  | "&&" => some (ofBool (left != 0 && right != 0))
  | "==" => some (ofBool (left == right))
  | "!=" => some (ofBool (left != right))
  | "<" => some (ofBool (left < right))
  | ">" => some (ofBool (right < left))
  | "<=" => some (ofBool (left ≤ right))
  | ">=" => some (ofBool (right ≤ left))
  | "<<" => some (left * (Nat.pow 2 right.toNat : Nat))
  | ">>" => some (Int.fdiv left (Nat.pow 2 right.toNat : Nat))
  | "+" => some (left + right)
  | "-" => some (left - right)
  | "*" => some (left * right)
  | "/" => if right = 0 then none else some (Int.tdiv left right)
  | "%" => if right = 0 then none else some (Int.tmod left right)
  | _ => none

/-- The number that text stands for; text that is none stands for zero. -/
def valueOf (text : Raw) : Int :=
  match text with
  | '-' :: digits => -(Text.decimalValue (digits.takeWhile Text.isAsciiDigit) : Int)
  | digits => Text.decimalValue (digits.takeWhile Text.isAsciiDigit)

mutual

/-- An expression whose loosest operators are of the first of the levels. -/
def level (lookUp : Raw → Raw) : Nat → List (List String) → List Token →
    Option (Int × List Token)
  | 0, _, _ => none
  | fuel + 1, [], tokens => atom lookUp fuel tokens
  | fuel + 1, signs :: tighter, tokens =>
      match level lookUp fuel tighter tokens with
      | none => none
      | some (left, rest) => more lookUp fuel signs tighter left rest

/-- What operators of a level join to a value. -/
def more (lookUp : Raw → Raw) : Nat → List String → List (List String) → Int → List Token →
    Option (Int × List Token)
  | 0, _, _, _, _ => none
  | fuel + 1, signs, tighter, left, tokens =>
      match tokens with
      | .operator sign :: rest =>
          if signs.contains sign then
            match level lookUp fuel tighter rest with
            | none => none
            | some (right, rest) =>
                match applySign sign left right with
                | none => none
                | some value => more lookUp fuel signs tighter value rest
          else some (left, tokens)
      | _ => some (left, tokens)

/-- A number, a variable, a sign before one, or an expression in parentheses. -/
def atom (lookUp : Raw → Raw) : Nat → List Token → Option (Int × List Token)
  | 0, _ => none
  | fuel + 1, tokens =>
      match tokens with
      | .number value :: rest => some (value, rest)
      | .name name :: rest => some (valueOf (lookUp name), rest)
      | .operator sign :: rest =>
          match sign with
          | "-" => (atom lookUp fuel rest).map fun found => (-found.1, found.2)
          | "+" => atom lookUp fuel rest
          | "!" => (atom lookUp fuel rest).map fun found => (ofBool (found.1 == 0), found.2)
          | "(" =>
              match level lookUp fuel levels rest with
              | some (value, .operator ")" :: rest) => some (value, rest)
              | _ => none
          | _ => none
      | [] => none

end

def evaluate? (lookUp : Raw → Raw) (expression : Raw) : Option Int :=
  match tokens? (expression.length + 1) expression with
  | none => none
  | some [] => some 0
  | some tokens =>
      match level lookUp (20 * tokens.length + 20) levels tokens with
      | some (value, []) => some value
      | _ => none

end DocCheck.Shell.Arithmetic
