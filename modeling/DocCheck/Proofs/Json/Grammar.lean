import DocCheck.Json.Skip
import DocCheck.Proofs.Json.Spelling
import Mathlib.Data.List.DropRight

/-!
The values of JSON, as they are written: words, numbers, strings, and lists and objects of them with
white space around each part. Main statement: any value is passed over as a whole, however deep it is
nested, and what follows it is left.
-/

namespace DocCheck.Json

/-! ## White space -/

def IsSpaces (spaces : Text) : Prop :=
  ∀ c ∈ spaces, isSpace c = true

instance : DecidablePred IsSpaces := fun spaces =>
  List.decidableBAll (fun c => isSpace c = true) spaces

theorem skipSpace_append {spaces : Text} (isSpaces : IsSpaces spaces) (rest : Text) :
    skipSpace (spaces ++ rest) = skipSpace rest :=
  List.dropWhile_append_of_pos isSpaces

theorem skipSpace_cons {c : Char} (dark : isSpace c = false) (rest : Text) :
    skipSpace (c :: rest) = c :: rest :=
  List.dropWhile_cons_of_neg (by simp [dark])

theorem skipSpace_skipSpace (text : Text) : skipSpace (skipSpace text) = skipSpace text := by
  exact List.dropWhile_idempotent _ _

/-! ## Numbers -/

/-- The rest of a text does not begin with a digit. -/
def BehindDigits (rest : Text) : Prop :=
  ∀ c ∈ rest.head?, Text.isAsciiDigit c = false

def IsDigits (digits : Text) : Prop :=
  digits ≠ [] ∧ ∀ c ∈ digits, Text.isAsciiDigit c = true

theorem ne_of_isAsciiDigit {c other : Char} (isDigit : Text.isAsciiDigit c = true)
    (noDigit : Text.isAsciiDigit other = false) : c ≠ other := by
  rintro rfl
  rw [isDigit] at noDigit
  cases noDigit

/-- No zero stands in front of other digits. -/
inductive IsWhole : Text → Prop
  | zero : IsWhole ['0']
  | digits {first : Char} {more : Text} (noZero : first ≠ '0') (digits : IsDigits (first :: more)) :
      IsWhole (first :: more)

inductive IsFraction : Text → Prop
  | none : IsFraction []
  | some {digits : Text} (isDigits : IsDigits digits) : IsFraction ('.' :: digits)

inductive IsExponent : Text → Prop
  | none : IsExponent []
  | some {letter : Char} {sign digits : Text} (isLetter : letter = 'e' ∨ letter = 'E')
      (isSign : sign = [] ∨ sign = ['+'] ∨ sign = ['-']) (isDigits : IsDigits digits) :
      IsExponent (letter :: (sign ++ digits))

inductive IsNumber : Text → Prop
  | parts {sign whole fraction exponent : Text} (isSign : sign = [] ∨ sign = ['-'])
      (isWhole : IsWhole whole) (isFraction : IsFraction fraction)
      (isExponent : IsExponent exponent) : IsNumber (sign ++ (whole ++ (fraction ++ exponent)))

/-- A character does not go on with a number. -/
structure EndsNumber (c : Char) : Prop where
  noDigit : Text.isAsciiDigit c = false
  noPoint : c ≠ '.'
  noLetter : c ≠ 'e' ∧ c ≠ 'E'

/-- The rest of a text does not go on with a number that stands before it. -/
def BehindNumber (rest : Text) : Prop :=
  ∀ c ∈ rest.head?, EndsNumber c

theorem BehindNumber.behindDigits {rest : Text} (behind : BehindNumber rest) : BehindDigits rest :=
  fun c first => (behind c first).noDigit

private theorem IsExponent.behindDigits {exponent rest : Text} (isExponent : IsExponent exponent)
    (behind : BehindDigits rest) : BehindDigits (exponent ++ rest) := by
  cases isExponent with
  | none => exact behind
  | some isLetter _ _ =>
      intro c first
      obtain rfl := Option.some.inj first
      rcases isLetter with rfl | rfl <;> decide

private theorem IsFraction.behindDigits {fraction rest : Text} (isFraction : IsFraction fraction)
    (behind : BehindDigits rest) : BehindDigits (fraction ++ rest) := by
  cases isFraction with
  | none => exact behind
  | some _ =>
      intro c first
      obtain rfl := Option.some.inj first
      decide

private theorem endsNumber_of_isSpace {c : Char} (space : isSpace c = true) : EndsNumber c := by
  simp only [isSpace, Bool.or_eq_true, decide_eq_true_eq] at space
  rcases space with ((rfl | rfl) | rfl) | rfl <;> exact ⟨by decide, by decide, by decide⟩

theorem EndsNumber.behindNumber {c : Char} (ends : EndsNumber c) (rest : Text) :
    BehindNumber (c :: rest) := by
  intro first isFirst
  obtain rfl := Option.some.inj isFirst
  exact ends

theorem endsNumber_comma : EndsNumber ',' :=
  ⟨rfl, by decide, by decide⟩

theorem BehindNumber.append {spaces rest : Text} (isSpaces : IsSpaces spaces)
    (behind : BehindNumber rest) : BehindNumber (spaces ++ rest) := by
  cases spaces with
  | nil => exact behind
  | cons first more =>
      exact (endsNumber_of_isSpace (isSpaces first List.mem_cons_self)).behindNumber _

namespace Number

theorem digits_append {taken rest : Text} (isDigits : IsDigits taken)
    (behind : BehindDigits rest) :
    digits (taken ++ rest) = taken ∧ behindDigits (taken ++ rest) = rest := by
  have none : rest.takeWhile Text.isAsciiDigit = [] ∧ rest.dropWhile Text.isAsciiDigit = rest := by
    cases rest with
    | nil => exact ⟨rfl, rfl⟩
    | cons c rest => simp [behind c rfl]
  rw [digits, behindDigits, List.takeWhile_append_of_pos isDigits.2, none.1, List.append_nil,
    List.dropWhile_append_of_pos isDigits.2, none.2]
  exact ⟨rfl, rfl⟩

private theorem digits_eq_nil {rest : Text} (behind : BehindDigits rest) : digits rest = [] := by
  cases rest with
  | nil => rfl
  | cons c rest => exact List.takeWhile_cons_of_neg (by simp [behind c rfl])

private theorem isEmpty_digits_append {taken : Text} (isDigits : IsDigits taken) (rest : Text) :
    (digits (taken ++ rest)).isEmpty = false := by
  obtain ⟨filled, all⟩ := isDigits
  rw [digits, List.takeWhile_append_of_pos all]
  simp [filled]

private theorem skipExponent_append {sign taken rest : Text}
    (isSign : sign = [] ∨ sign = ['+'] ∨ sign = ['-']) (isDigits : IsDigits taken)
    (behind : BehindNumber rest) : skipExponent (sign ++ taken ++ rest) = .ok rest := by
  have unsigned : skipExponent (sign ++ taken ++ rest) =
      if (digits (taken ++ rest)).isEmpty then failAhead .invalidNumber (taken ++ rest)
      else .ok (behindDigits (taken ++ rest)) := by
    rcases isSign with rfl | rfl | rfl
    · obtain ⟨first, more, rfl⟩ := List.exists_cons_of_ne_nil isDigits.1
      have isDigit := isDigits.2 first List.mem_cons_self
      have noPlus : first ≠ '+' := ne_of_isAsciiDigit isDigit rfl
      have noMinus : first ≠ '-' := ne_of_isAsciiDigit isDigit rfl
      rw [skipExponent]
      · rfl
      · exact fun _ same => noPlus (List.cons.inj same).1
      · exact fun _ same => noMinus (List.cons.inj same).1
    · rfl
    · rfl
  rw [unsigned, isEmpty_digits_append isDigits,
    (digits_append isDigits behind.behindDigits).2]
  rfl

private theorem skipFraction_append {fraction exponent rest : Text}
    (isFraction : IsFraction fraction)
    (isExponent : IsExponent exponent) (behind : BehindNumber rest) :
    skipFraction (fraction ++ (exponent ++ rest)) = .ok rest := by
  have exponentSkipped : (if startsExponent (exponent ++ rest)
      then skipExponent ((exponent ++ rest).drop 1) else .ok (exponent ++ rest)) = .ok rest := by
    cases isExponent with
    | none =>
        have noExponent : startsExponent rest = false := by
          cases rest with
          | nil => rfl
          | cons c rest => simp [startsExponent, (behind c rfl).noLetter]
        rw [List.nil_append, noExponent]
        rfl
    | @some letter sign digits isLetter isSign isDigits =>
        have starts : startsExponent (letter :: (sign ++ digits) ++ rest) = true := by
          rcases isLetter with rfl | rfl <;> rfl
        rw [starts, if_pos rfl]
        exact skipExponent_append isSign isDigits behind
  cases isFraction with
  | none =>
      rw [List.nil_append, skipFraction]
      · exact exponentSkipped
      · intro more same
        cases isExponent with
        | none =>
            rw [List.nil_append] at same
            exact (behind '.' (by rw [same]; rfl)).noPoint rfl
        | some isLetter _ _ =>
            obtain rfl := (List.cons.inj same).1
            rcases isLetter with point | point <;> exact absurd point (by decide)
  | some isDigits =>
      rw [List.cons_append, skipFraction, isEmpty_digits_append isDigits,
        (digits_append isDigits (isExponent.behindDigits behind.behindDigits)).2]
      exact exponentSkipped

/-- A number is passed over, where nothing follows that goes on with it. -/
theorem skip_append {whole fraction exponent rest : Text} (isWhole : IsWhole whole)
    (isFraction : IsFraction fraction) (isExponent : IsExponent exponent)
    (behind : BehindNumber rest) :
    skip (whole ++ (fraction ++ (exponent ++ rest))) = .ok rest := by
  have skipped := skipFraction_append isFraction isExponent behind
  have ends := isFraction.behindDigits (isExponent.behindDigits behind.behindDigits)
  cases isWhole with
  | zero =>
      rw [List.singleton_append, skip, digits_eq_nil ends]
      exact skipped
  | @digits first more noZero isDigits =>
      rw [List.cons_append, skip]
      · rw [← List.cons_append, isEmpty_digits_append isDigits, (digits_append isDigits ends).2]
        exact skipped
      · exact fun _ same => noZero (List.cons.inj same).1

end Number

/-! ## Values -/

/-- A value that is neither a list nor an object. -/
inductive IsScalar : Text → Prop
  | null : IsScalar "null".toList
  | true : IsScalar "true".toList
  | false : IsScalar "false".toList
  | number {text : Text} (isNumber : IsNumber text) : IsScalar text
  | string {content : Text} (isContent : IsContent content) : IsScalar ('"' :: (content ++ ['"']))

/-- An element of a list, or the value of a member, with the space on both sides. -/
structure Element where
  before : Text
  value : Text
  behind : Text

def Element.text (element : Element) : Text :=
  element.before ++ (element.value ++ element.behind)

def Element.IsSpaced (element : Element) : Prop :=
  IsSpaces element.before ∧ IsSpaces element.behind

instance : DecidablePred Element.IsSpaced := fun element =>
  inferInstanceAs (Decidable (IsSpaces element.before ∧ IsSpaces element.behind))

/-- A member of an object, with the space on both sides of its key. -/
structure Member where
  before : Text
  key : Text
  behind : Text
  element : Element

/-- What stands behind the first quote of the key. -/
def Member.opened (member : Member) : Text :=
  member.key ++ '"' :: (member.behind ++ ':' :: member.element.text)

def Member.text (member : Member) : Text :=
  member.before ++ '"' :: member.opened

def Member.IsSpaced (member : Member) : Prop :=
  IsSpaces member.before ∧ IsSpaces member.behind ∧ member.element.IsSpaced

instance : DecidablePred Member.IsSpaced := fun member =>
  inferInstanceAs
    (Decidable (IsSpaces member.before ∧ IsSpaces member.behind ∧ member.element.IsSpaced))

inductive IsValue : Text → Prop
  | scalar {text : Text} (isScalar : IsScalar text) : IsValue text
  | emptyList {spaces : Text} (isSpaces : IsSpaces spaces) : IsValue ('[' :: (spaces ++ [']']))
  | list {elements : List Element} (filled : elements ≠ [])
      (spaced : ∀ element ∈ elements, element.IsSpaced)
      (values : ∀ element ∈ elements, IsValue element.value) :
      IsValue ('[' :: (Text.joinWith [','] (elements.map Element.text) ++ [']']))
  | emptyObject {spaces : Text} (isSpaces : IsSpaces spaces) :
      IsValue ('\x7b' :: (spaces ++ ['\x7d']))
  | object {members : List Member} (filled : members ≠ [])
      (spaced : ∀ member ∈ members, member.IsSpaced)
      (keys : ∀ member ∈ members, IsContent member.key)
      (values : ∀ member ∈ members, IsValue member.element.value) :
      IsValue ('\x7b' :: (Text.joinWith [','] (members.map Member.text) ++ ['\x7d']))

/-! ## Passing over what is no list and no object -/

/-- Where a value starts, there is no white space and no end of a list. -/
structure StartsValue (c : Char) : Prop where
  dark : isSpace c = false
  noEnd : c ≠ ']'

theorem startsValue_of_isAsciiDigit {c : Char} (isDigit : Text.isAsciiDigit c = true) :
    StartsValue c where
  dark := by
    refine Bool.eq_false_iff.mpr fun space => ?_
    rw [(endsNumber_of_isSpace space).noDigit] at isDigit
    cases isDigit
  noEnd := ne_of_isAsciiDigit isDigit rfl

private theorem IsWhole.exists_digit {whole : Text} (isWhole : IsWhole whole) :
    ∃ c more, whole = c :: more ∧ Text.isAsciiDigit c = true := by
  cases isWhole with
  | zero => exact ⟨'0', [], rfl, rfl⟩
  | digits _ isDigits => exact ⟨_, _, rfl, isDigits.2 _ List.mem_cons_self⟩

theorem IsScalar.starts {text : Text} (isScalar : IsScalar text) :
    ∃ c more, text = c :: more ∧ StartsValue c ∧ c ≠ '[' ∧ c ≠ '\x7b' := by
  have known : ∀ c ∈ ['n', 't', 'f', '"', '-'], StartsValue c ∧ c ≠ '[' ∧ c ≠ '\x7b' := by
    intro c member
    simp only [List.mem_cons, List.not_mem_nil, or_false] at member
    rcases member with rfl | rfl | rfl | rfl | rfl <;> exact ⟨⟨rfl, by decide⟩, by decide, by decide⟩
  cases isScalar with
  | null => exact ⟨_, _, rfl, known 'n' (by decide)⟩
  | true => exact ⟨_, _, rfl, known 't' (by decide)⟩
  | false => exact ⟨_, _, rfl, known 'f' (by decide)⟩
  | string _ => exact ⟨_, _, rfl, known '"' (by decide)⟩
  | number isNumber =>
      cases isNumber with
      | parts isSign isWhole _ _ =>
          rcases isSign with rfl | rfl
          · obtain ⟨c, more, rfl, isDigit⟩ := isWhole.exists_digit
            exact ⟨c, _, rfl, startsValue_of_isAsciiDigit isDigit, ne_of_isAsciiDigit isDigit rfl,
              ne_of_isAsciiDigit isDigit rfl⟩
          · exact ⟨'-', _, rfl, known '-' (by decide)⟩

private theorem skipScalar_of_isAsciiDigit {c : Char} (isDigit : Text.isAsciiDigit c = true)
    (rest : Text) :
    skipScalar (c :: rest) = Number.skip (c :: rest) := by
  have noWord : c ≠ 'n' ∧ c ≠ 't' ∧ c ≠ 'f' ∧ c ≠ '-' :=
    ⟨ne_of_isAsciiDigit isDigit rfl, ne_of_isAsciiDigit isDigit rfl, ne_of_isAsciiDigit isDigit rfl,
      ne_of_isAsciiDigit isDigit rfl⟩
  simp only [skipScalar, noWord, isDigit, if_false, if_true]

theorem skipScalar_append {text rest : Text} (isScalar : IsScalar text)
    (behind : BehindNumber rest) : skipScalar (text ++ rest) = .ok rest := by
  cases isScalar with
  | null => rfl
  | true => rfl
  | false => rfl
  | number isNumber =>
      cases isNumber with
      | parts isSign isWhole isFraction isExponent =>
          have skipped := Number.skip_append isWhole isFraction isExponent behind
          rw [List.append_assoc, List.append_assoc, List.append_assoc]
          rcases isSign with rfl | rfl
          · obtain ⟨c, more, rfl, isDigit⟩ := isWhole.exists_digit
            exact (skipScalar_of_isAsciiDigit isDigit _).trans skipped
          · exact skipped
  | string isContent =>
      have skipped := skipString_of_isContent isContent rest
      rw [List.cons_append, List.append_assoc]
      exact skipped

end DocCheck.Json
