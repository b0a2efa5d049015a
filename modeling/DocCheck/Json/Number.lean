import DocCheck.Json.Token
import DocCheck.Decimal.Shortest

/-!
Numbers of JSON. A whole number is kept exactly if it fits 64 bits; any other number is computed from
its first digits, as many as fit 64 bits, and a power of ten.
-/

namespace DocCheck.Json

open Decimal

inductive Number where
  | whole (value : Int)
  | floating (negative : Bool) (value : Binary64)
  deriving Repr, DecidableEq

namespace Number

def digits (text : Text) : Text :=
  text.takeWhile Text.isAsciiDigit

def behindDigits (text : Text) : Text :=
  text.dropWhile Text.isAsciiDigit

def startsExponent (text : Text) : Bool :=
  text.head? == some 'e' || text.head? == some 'E'

/-! ## Passing a number -/

/-- Passes an exponent, after its letter. -/
def skipExponent (text : Text) : Except Misreading Text :=
  let unsigned := match text with
    | '+' :: rest => rest
    | '-' :: rest => rest
    | _ => text
  if (digits unsigned).isEmpty then failAhead .invalidNumber unsigned
  else .ok (behindDigits unsigned)

/-- Passes what may follow the whole part of a number. -/
def skipFraction (text : Text) : Except Misreading Text :=
  match text with
  | '.' :: rest =>
      if (digits rest).isEmpty then failAhead .invalidNumber rest
      else
        let behind := behindDigits rest
        if startsExponent behind then skipExponent (behind.drop 1) else .ok behind
  | _ => if startsExponent text then skipExponent (text.drop 1) else .ok text

/-- Passes a number without its sign. -/
def skip (text : Text) : Except Misreading Text :=
  match text with
  | '0' :: rest =>
      if (digits rest).isEmpty then skipFraction rest else failAhead .invalidNumber rest
  | _ =>
      if (digits text).isEmpty then failAhead .invalidNumber text
      else skipFraction (behindDigits text)

/-! ## Computing a number -/

def limit : Nat := Nat.pow 2 64

/-- Takes digits as long as the number that they spell fits. -/
def takeFitting (value : Nat) : Text → Nat × Text
  | [] => (value, [])
  | c :: rest =>
      if Text.isAsciiDigit c then
        let more := 10 * value + (c.toNat - 48)
        if more < limit then takeFitting more rest else (value, c :: rest)
      else (value, c :: rest)

def nearestWhole (n : Nat) : Binary64 :=
  (Binary64.ofFraction? n 1).getD .zero

def powerOfTen (exponent : Nat) : Binary64 :=
  nearestWhole (Nat.pow 10 exponent)

/-- A number times a power of ten, unless it is too large. -/
def scaleWithin : Nat → Binary64 → Int → Option Binary64
  | 0, x, _ => some x
  | fuel + 1, x, exponent =>
      if exponent.natAbs ≤ 308 then
        if 0 ≤ exponent then x.mul? (powerOfTen exponent.natAbs)
        else x.div? (powerOfTen exponent.natAbs)
      else if x.significand = 0 then some x
      else if 0 ≤ exponent then none
      else
        -- There is no smaller power than this; three of them make any number zero.
        match x.div? (powerOfTen 308) with
        | some smaller => scaleWithin fuel smaller (exponent + 308)
        | none => none

def ofParts (negative : Bool) (significand : Nat) (exponent : Int) (rest : Text) :
    Reading Number :=
  match scaleWithin 4 (nearestWhole significand) exponent with
  | some value => .ok (.floating negative value, rest)
  | none => failHere .numberOutOfRange rest

/-- Exponents of this size or more are not computed. -/
def exponentLimit : Nat := Nat.pow 2 31

/-- Takes digits as long as the exponent that they spell is computed. -/
def takeExponent (value : Nat) : Text → Nat × Text
  | [] => (value, [])
  | c :: rest =>
      if Text.isAsciiDigit c then
        let more := 10 * value + (c.toNat - 48)
        if more < exponentLimit then takeExponent more rest else (value, c :: rest)
      else (value, c :: rest)

/-- Reads an exponent, after its letter. -/
def exponentPart (negative : Bool) (significand : Nat) (start : Int) (text : Text) :
    Reading Number :=
  let signed := match text with
    | '+' :: rest => (true, rest)
    | '-' :: rest => (false, rest)
    | _ => (true, text)
  match signed.2 with
  | [] => failHere .endInValue []
  | _ :: _ =>
      if (digits signed.2).isEmpty then failAhead .invalidNumber signed.2
      else
        let taken := takeExponent 0 signed.2
        if (digits taken.2).isEmpty then
          let exponent : Int := if signed.1 then taken.1 else -taken.1
          ofParts negative significand (start + exponent) taken.2
        else if significand ≠ 0 && signed.1 then failHere .numberOutOfRange (taken.2.drop 1)
        else .ok (.floating negative .zero, behindDigits taken.2)

def exponentOrEnd (negative : Bool) (significand : Nat) (exponent : Int) (text : Text) :
    Reading Number :=
  if startsExponent text then exponentPart negative significand exponent (text.drop 1)
  else ofParts negative significand exponent text

def fractionPart (negative : Bool) (significand : Nat) (exponent : Int) (text : Text) :
    Reading Number :=
  let taken := takeFitting significand text
  let places : Int := text.length - taken.2.length
  if (digits taken.2).isEmpty then
    if places = 0 then
      if text.isEmpty then failAhead .endInValue [] else failAhead .invalidNumber text
    else exponentOrEnd negative taken.1 (exponent - places) taken.2
  else exponentOrEnd negative taken.1 (exponent - places) (behindDigits taken.2)

/-- Goes on behind the whole part of a number that needs more than 64 bits. -/
def beyondWhole (negative : Bool) (significand : Nat) (exponent : Int) (text : Text) :
    Reading Number :=
  match text with
  | '.' :: rest => fractionPart negative significand exponent rest
  | _ => exponentOrEnd negative significand exponent text

def behindWhole (negative : Bool) (significand : Nat) (text : Text) : Reading Number :=
  match text with
  | '.' :: rest => fractionPart negative significand 0 rest
  | _ =>
      if startsExponent text then exponentPart negative significand 0 (text.drop 1)
      else if !negative then .ok (.whole significand, text)
      else if significand = 0 || Nat.pow 2 63 < significand then
        .ok (.floating true (nearestWhole significand), text)
      else .ok (.whole (-significand), text)

/-- Reads a number, after its sign. -/
def read (negative : Bool) (text : Text) : Reading Number :=
  match text with
  | [] => failHere .endInValue []
  | '0' :: rest =>
      if (digits rest).isEmpty then behindWhole negative 0 rest else failAhead .invalidNumber rest
  | c :: _ =>
      if Text.isAsciiDigit c then
        let taken := takeFitting 0 text
        if (digits taken.2).isEmpty then behindWhole negative taken.1 taken.2
        else beyondWhole negative taken.1 (digits taken.2).length (behindDigits taken.2)
      else failAhead .invalidNumber text

def shown : Number → Text
  | whole value => "integer `".toList ++ (toString value).toList ++ "`".toList
  | floating negative value =>
      "floating point `".toList ++ (if negative then ['-'] else []) ++ Decimal.text value ++
        "`".toList

end Number

end DocCheck.Json
