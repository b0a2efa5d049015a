import DocCheck.Json.Value
import DocCheck.Proofs.Json.Skipping
import DocCheck.Proofs.Text.Numeral
import Mathlib.Algebra.BigOperators.Group.List.Basic

/-!
JSON texts and the values that they denote. Main statements: a text that denotes a value is read as
this value, whatever white space it holds and however its strings are spelled; and the text of a value
denotes it.
-/

namespace DocCheck.Json

/-! ## What a text denotes -/

/-- A text denotes a value: it is the value as it may be written in JSON. Numbers are those that count
something, and members of objects stand in their order. -/
inductive Denotes : Text → Json → Prop
  | null : Denotes "null".toList .null
  | true : Denotes "true".toList (.bool true)
  | false : Denotes "false".toList (.bool false)
  | number (n : Nat) : Denotes (Text.decimal n) (.number n)
  | string {content text : Text} (spells : Spells content text) :
      Denotes ('"' :: (content ++ ['"'])) (.string text)
  | list {items : List (Element × Json)} {behind : Text}
      (spaced : ∀ item ∈ items, item.1.IsSpaced) (isSpaces : IsSpaces behind)
      (denote : ∀ item ∈ items, Denotes item.1.value item.2) :
      Denotes ('[' :: (Text.joinWith [','] (items.map fun item => item.1.text) ++ (behind ++ [']'])))
        (.list (items.map Prod.snd))
  | object {items : List (Member × Text × Json)} {behind : Text}
      (spaced : ∀ item ∈ items, item.1.IsSpaced) (isSpaces : IsSpaces behind)
      (keys : ∀ item ∈ items, Spells item.1.key item.2.1)
      (denote : ∀ item ∈ items, Denotes item.1.element.value item.2.2) :
      Denotes
        ('\x7b' :: (Text.joinWith [','] (items.map fun item => item.1.text) ++ (behind ++ ['\x7d'])))
        (.object (items.map Prod.snd))

/-- A text denotes a value, and there may be white space around it. -/
def Conveys (text : Text) (value : Json) : Prop :=
  ∃ before inner behind, text = before ++ (inner ++ behind) ∧ IsSpaces before ∧
    Denotes inner value ∧ IsSpaces behind

/-! ## Reading -/

/-- Reads something at the beginning of a text. What is left is returned with it. -/
abbrev Reader (α : Type) := Text → Option (α × Text)

def words : List (Text × Json) :=
  [("null".toList, .null), ("true".toList, .bool true), ("false".toList, .bool false)]

/-- Reads a number. No zeros stand in front of it. -/
def readNumber : Reader Json := fun text =>
  let digits := Number.digits text
  let value := Text.decimalValue digits
  if digits = Text.decimal value then some (.number value, Number.behindDigits text) else none

/-- Reads a value that is neither a list nor an object. -/
def readScalar : Reader Json := fun text =>
  match text with
  | '"' :: rest =>
      match readString rest with
      | .ok (text, rest) => some (.string text, rest)
      | .error _ => none
  | _ =>
      let word := words.findSome? fun word =>
        (List.isPrefixOf? word.1 text).map fun rest => (word.2, rest)
      word.or (readNumber text)

/-- Reads items up to a closing character, with commas between them. -/
def readItems {α : Type} (readItem : Reader α) (closer : Char) : Nat → Reader (List α)
  | 0, _ => none
  | fuel + 1, text =>
      match readItem text with
      | none => none
      | some (item, rest) =>
          match skipSpace rest with
          | [] => none
          | c :: rest =>
              if c = ',' then
                (readItems readItem closer fuel rest).map fun more => (item :: more.1, more.2)
              else if c = closer then some ([item], rest)
              else none

/-- Reads any number of items. -/
def readSequence {α : Type} (readItem : Reader α) (closer : Char) : Reader (List α) := fun text =>
  match skipSpace text with
  | [] => none
  | c :: rest => if c = closer then some ([], rest) else readItems readItem closer text.length text

def readMember (readValue : Reader Json) : Reader (Text × Json) := fun text =>
  match skipSpace text with
  | '"' :: rest =>
      match readString rest with
      | .error _ => none
      | .ok (key, rest) =>
          match skipSpace rest with
          | ':' :: rest => (readValue rest).map fun read => ((key, read.1), read.2)
          | _ => none
  | _ => none

/-- Reads a value that is nested less deep than a bound. -/
def readWithin : Nat → Reader Json
  | 0, _ => none
  | depth + 1, text =>
      match skipSpace text with
      | '[' :: rest =>
          (readSequence (readWithin depth) ']' rest).map fun read => (.list read.1, read.2)
      | '\x7b' :: rest =>
          (readSequence (readMember (readWithin depth)) '\x7d' rest).map
            fun read => (.object read.1, read.2)
      | scalar => readScalar scalar

/-- The value that a text denotes. -/
def read? (text : Text) : Option Json :=
  match readWithin (text.length + 1) text with
  | some (value, rest) => if (skipSpace rest).isEmpty then some value else none
  | none => none

/-! ## Items -/

/-- A text is read as an item, whatever follows that does not go on with a number. White space behind
the item may be left. -/
structure IsReadAs {α : Type} (readItem : Reader α) (closer : Char) (text : Text) (item : α) :
    Prop where
  starts : ∀ rest, ∃ c more, skipSpace (text ++ rest) = c :: more ∧ c ≠ closer
  reads : ∀ rest, BehindNumber rest →
    ∃ left, readItem (text ++ rest) = some (item, left) ∧ skipSpace left = skipSpace rest

section Items

variable {α : Type} {readItem : Reader α} {frame : Frame} {behind : Text}

private theorem skipSpace_closer (isSpaces : IsSpaces behind) (rest : Text) :
    skipSpace (behind ++ frame.closer :: rest) = frame.closer :: rest := by
  rw [skipSpace_append isSpaces, skipSpace_cons frame.closer_spec.1]

private theorem readItems_append (isSpaces : IsSpaces behind) {first : Text × α}
    {more : List (Text × α)} (isFirst : IsReadAs readItem frame.closer first.1 first.2)
    (areRead : ∀ item ∈ more, IsReadAs readItem frame.closer item.1 item.2) (rest : Text) {fuel : Nat}
    (enough : more.length < fuel) :
    readItems readItem frame.closer fuel (first.1 ++
        (more.flatMap (fun item => ',' :: item.1) ++ (behind ++ frame.closer :: rest))) =
      some (first.2 :: more.map Prod.snd, rest) := by
  obtain ⟨_, noComma, ends⟩ := frame.closer_spec
  obtain ⟨fuel, rfl⟩ := Nat.exists_eq_succ_of_ne_zero (Nat.ne_zero_of_lt enough)
  induction more generalizing first fuel with
  | nil =>
      obtain ⟨left, read, same⟩ := isFirst.reads (behind ++ frame.closer :: rest)
        ((ends.behindNumber rest).append isSpaces)
      rw [skipSpace_closer isSpaces] at same
      rw [List.flatMap_nil, List.nil_append, readItems, read]
      simp only [same, noComma, if_false, if_true, List.map_nil]
  | cons second more inductionHypothesis =>
      obtain ⟨fuel, rfl⟩ := Nat.exists_eq_succ_of_ne_zero
        (Nat.ne_zero_of_lt (Nat.lt_of_succ_lt_succ enough))
      have others := inductionHypothesis (areRead second List.mem_cons_self)
        (fun item member => areRead item (List.mem_cons_of_mem _ member)) fuel
        (Nat.lt_of_succ_lt_succ enough)
      obtain ⟨left, read, same⟩ := isFirst.reads
        (',' :: (second.1 ++ (more.flatMap (fun item => ',' :: item.1) ++
          (behind ++ frame.closer :: rest)))) (endsNumber_comma.behindNumber _)
      rw [skipSpace_cons rfl] at same
      rw [List.flatMap_cons, List.cons_append, List.cons_append, List.append_assoc, readItems, read]
      simp only [same, if_true, others, Option.map_some, List.map_cons]

private theorem readSequence_append (isSpaces : IsSpaces behind) {items : List (Text × α)}
    (areRead : ∀ item ∈ items, IsReadAs readItem frame.closer item.1 item.2) (rest : Text) :
    readSequence readItem frame.closer
        (Text.joinWith [','] (items.map Prod.fst) ++ (behind ++ frame.closer :: rest)) =
      some (items.map Prod.snd, rest) := by
  cases items with
  | nil =>
      have nothing : Text.joinWith [','] [] = [] := rfl
      rw [List.map_nil, nothing, List.nil_append, readSequence, skipSpace_closer isSpaces]
      exact if_pos rfl
  | cons first more =>
      have isFirst := areRead first List.mem_cons_self
      have whole : Text.joinWith [','] ((first :: more).map Prod.fst) ++
            (behind ++ frame.closer :: rest) =
          first.1 ++ (more.flatMap (fun item => ',' :: item.1) ++
            (behind ++ frame.closer :: rest)) := by
        rw [List.map_cons, Text.joinWith_cons, List.flatMap_map, List.append_assoc]
        rfl
      have enough : more.length < (first.1 ++ (more.flatMap (fun item => ',' :: item.1) ++
          (behind ++ frame.closer :: rest))).length := by
        have counted : more.length ≤ (more.flatMap fun item => ',' :: item.1).length := by
          rw [List.length_flatMap, ← List.length_map fun item : Text × α => (',' :: item.1).length]
          refine List.length_le_sum_of_one_le _ fun count member => ?_
          obtain ⟨item, _, rfl⟩ := List.mem_map.mp member
          exact Nat.succ_pos _
        simp only [List.length_append, List.length_cons]
        omega
      obtain ⟨c, behindFirst, starts, noEnd⟩ := isFirst.starts
        (more.flatMap (fun item => ',' :: item.1) ++ (behind ++ frame.closer :: rest))
      rw [whole, readSequence, starts]
      simp only [noEnd, if_false]
      exact readItems_append isSpaces isFirst
        (fun item member => areRead item (List.mem_cons_of_mem _ member)) rest enough

end Items

/-! ## Values -/

private theorem isDigits_decimal (n : Nat) : IsDigits (Text.decimal n) :=
  Text.isAsciiDigit_of_spells ⟨0, rfl⟩

private theorem readNumber_append (n : Nat) {rest : Text} (behind : BehindDigits rest) :
    readNumber (Text.decimal n ++ rest) = some (.number n, rest) := by
  obtain ⟨taken, left⟩ := Number.digits_append (isDigits_decimal n) behind
  have value : Text.decimalValue (Text.decimal n) = n :=
    Text.decimalValue_of_spells ⟨0, rfl⟩
  simp only [readNumber, taken, left, value, if_true]

private theorem readScalar_of_isAsciiDigit {c : Char} (isDigit : Text.isAsciiDigit c = true)
    (rest : Text) :
    readScalar (c :: rest) = readNumber (c :: rest) := by
  have noQuote : c ≠ '"' := ne_of_isAsciiDigit isDigit rfl
  have noWord : c ≠ 'n' ∧ c ≠ 't' ∧ c ≠ 'f' :=
    ⟨ne_of_isAsciiDigit isDigit rfl, ne_of_isAsciiDigit isDigit rfl, ne_of_isAsciiDigit isDigit rfl⟩
  rw [readScalar]
  · simp [words, List.isPrefixOf?, noWord.1.symm, noWord.2.1.symm, noWord.2.2.symm]
  · exact fun _ same => noQuote (List.cons.inj same).1

private theorem readWithin_append {spaces : Text} (isSpaces : IsSpaces spaces) (depth : Nat)
    (rest : Text) :
    readWithin depth (spaces ++ rest) = readWithin depth rest := by
  cases depth with
  | zero => rfl
  | succ depth => rw [readWithin, readWithin, skipSpace_append isSpaces]

private theorem readWithin_scalar {c : Char} (dark : isSpace c = false) (noList : c ≠ '[')
    (noObject : c ≠ '\x7b') (depth : Nat) (rest : Text) :
    readWithin (depth + 1) (c :: rest) = readScalar (c :: rest) := by
  rw [readWithin, skipSpace_cons dark]
  split
  · next same => exact absurd (List.cons.inj same).1 noList
  · next same => exact absurd (List.cons.inj same).1 noObject
  · rfl

private theorem readWithin_opened_list (depth : Nat) (inside : Text) :
    readWithin (depth + 1) ('[' :: inside) =
      (readSequence (readWithin depth) ']' inside).map fun read => (.list read.1, read.2) :=
  rfl

private theorem readWithin_opened_object (depth : Nat) (inside : Text) :
    readWithin (depth + 1) ('\x7b' :: inside) =
      (readSequence (readMember (readWithin depth)) '\x7d' inside).map
        fun read => (.object read.1, read.2) :=
  rfl

private theorem Denotes.starts {text : Text} {value : Json} (denotes : Denotes text value) :
    ∃ c more, text = c :: more ∧ StartsValue c := by
  cases denotes with
  | number n =>
      obtain ⟨c, more, whole⟩ := List.exists_cons_of_ne_nil (isDigits_decimal n).1
      exact ⟨c, more, whole,
        startsValue_of_isAsciiDigit ((isDigits_decimal n).2 c (whole ▸ List.mem_cons_self))⟩
  | null => exact ⟨_, _, rfl, rfl, by decide⟩
  | true => exact ⟨_, _, rfl, rfl, by decide⟩
  | false => exact ⟨_, _, rfl, rfl, by decide⟩
  | string _ => exact ⟨_, _, rfl, rfl, by decide⟩
  | list _ _ _ => exact ⟨_, _, rfl, rfl, by decide⟩
  | object _ _ _ _ => exact ⟨_, _, rfl, rfl, by decide⟩

/-- A text is read as a value within any depth from its length on. -/
def IsReadWithin (text : Text) (value : Json) : Prop :=
  ∀ depth, text.length ≤ depth → ∀ rest, BehindNumber rest →
    readWithin depth (text ++ rest) = some (value, rest)

private theorem Element.isReadAs {element : Element} {value : Json} (spaced : element.IsSpaced)
    (denotes : Denotes element.value value) (isRead : IsReadWithin element.value value) {depth : Nat}
    (deep : element.value.length ≤ depth) :
    IsReadAs (readWithin depth) ']' element.text value where
  starts := by
    obtain ⟨c, more, whole, start⟩ := denotes.starts
    intro rest
    refine ⟨c, more ++ (element.behind ++ rest), ?_, start.noEnd⟩
    rw [text, List.append_assoc, List.append_assoc, skipSpace_append spaced.1, whole,
      List.cons_append, skipSpace_cons start.dark]
  reads := by
    intro rest behind
    refine ⟨element.behind ++ rest, ?_, skipSpace_append spaced.2 rest⟩
    rw [text, List.append_assoc, List.append_assoc, readWithin_append spaced.1,
      isRead depth deep _ (behind.append spaced.2)]

private theorem Member.isReadAs {member : Member} {key : Text} {value : Json}
    (spaced : member.IsSpaced)
    (spells : Spells member.key key) (denotes : Denotes member.element.value value)
    (isRead : IsReadWithin member.element.value value) {depth : Nat}
    (deep : member.element.value.length ≤ depth) :
    IsReadAs (readMember (readWithin depth)) '\x7d' member.text (key, value) where
  starts := by
    intro rest
    refine ⟨'"', member.opened ++ rest, ?_, by decide⟩
    rw [text, List.append_assoc, skipSpace_append spaced.1]
    exact skipSpace_cons rfl _
  reads := by
    intro rest behind
    obtain ⟨left, read, same⟩ :=
      (Element.isReadAs spaced.2.2 denotes isRead deep).reads rest behind
    have whole : member.text ++ rest = member.before ++ '"' :: (member.key ++
        '"' :: (member.behind ++ ':' :: (member.element.text ++ rest))) := by
      simp [text, opened]
    refine ⟨left, ?_, same⟩
    rw [whole, readMember, skipSpace_append spaced.1, skipSpace_cons rfl]
    simp only [readString_of_spells spells, skipSpace_append spaced.2.1,
      skipSpace_cons (show isSpace ':' = false from rfl), read, Option.map_some]

private theorem isReadWithin_number (n : Nat) : IsReadWithin (Text.decimal n) (.number n) := by
  intro depth deep rest behind
  obtain ⟨c, more, whole⟩ := List.exists_cons_of_ne_nil (isDigits_decimal n).1
  have isDigit := (isDigits_decimal n).2 c (whole ▸ List.mem_cons_self)
  have read := readNumber_append n behind.behindDigits
  rw [whole] at deep read ⊢
  obtain ⟨depth, rfl⟩ := Nat.exists_eq_succ_of_ne_zero (Nat.ne_zero_of_lt deep)
  rw [List.cons_append] at read ⊢
  rw [readWithin_scalar (startsValue_of_isAsciiDigit isDigit).dark
    (ne_of_isAsciiDigit isDigit rfl) (ne_of_isAsciiDigit isDigit rfl),
    readScalar_of_isAsciiDigit isDigit, read]

private theorem isReadWithin_string {content text : Text} (spells : Spells content text) :
    IsReadWithin ('"' :: (content ++ ['"'])) (.string text) := by
  intro depth deep rest _
  obtain ⟨depth, rfl⟩ := Nat.exists_eq_succ_of_ne_zero (Nat.ne_zero_of_lt deep)
  rw [List.cons_append, List.append_assoc, List.singleton_append,
    readWithin_scalar rfl (by decide) (by decide), readScalar]
  simp only [readString_of_spells spells]

private theorem isReadWithin_list {items : List (Element × Json)} {behind : Text}
    (spaced : ∀ item ∈ items, item.1.IsSpaced) (isSpaces : IsSpaces behind)
    (denote : ∀ item ∈ items, Denotes item.1.value item.2)
    (areRead : ∀ item ∈ items, IsReadWithin item.1.value item.2) :
    IsReadWithin
      ('[' :: (Text.joinWith [','] (items.map fun item => item.1.text) ++ (behind ++ [']'])))
      (.list (items.map Prod.snd)) := by
  intro depth deep rest _
  obtain ⟨depth, rfl⟩ := Nat.exists_eq_succ_of_ne_zero (Nat.ne_zero_of_lt deep)
  have areElements : ∀ item ∈ items.map fun item => (item.1.text, item.2),
      IsReadAs (readWithin depth) ']' item.1 item.2 := by
    intro item member
    obtain ⟨⟨element, value⟩, isItem, rfl⟩ := List.mem_map.mp member
    have short := Text.length_le_joinWith
      (List.mem_map_of_mem (f := fun item : Element × Json => item.1.text) isItem) [',']
    refine Element.isReadAs (spaced _ isItem) (denote _ isItem) (areRead _ isItem) ?_
    simp only [Element.text, List.length_append, List.length_cons] at short deep ⊢
    omega
  have read := @readSequence_append _ _ .list _ isSpaces _ areElements rest
  rw [List.map_map, List.map_map] at read
  rw [List.cons_append, List.append_assoc, List.append_assoc, readWithin_opened_list]
  exact congrArg (Option.map fun read => (Json.list read.1, read.2)) read

private theorem isReadWithin_object {items : List (Member × Text × Json)} {behind : Text}
    (spaced : ∀ item ∈ items, item.1.IsSpaced) (isSpaces : IsSpaces behind)
    (keys : ∀ item ∈ items, Spells item.1.key item.2.1)
    (denote : ∀ item ∈ items, Denotes item.1.element.value item.2.2)
    (areRead : ∀ item ∈ items, IsReadWithin item.1.element.value item.2.2) :
    IsReadWithin
      ('\x7b' :: (Text.joinWith [','] (items.map fun item => item.1.text) ++ (behind ++ ['\x7d'])))
      (.object (items.map Prod.snd)) := by
  intro depth deep rest _
  obtain ⟨depth, rfl⟩ := Nat.exists_eq_succ_of_ne_zero (Nat.ne_zero_of_lt deep)
  have areMembers : ∀ item ∈ items.map fun item => (item.1.text, item.2),
      IsReadAs (readMember (readWithin depth)) '\x7d' item.1 item.2 := by
    intro item member
    obtain ⟨⟨field, key, value⟩, isItem, rfl⟩ := List.mem_map.mp member
    have short := Text.length_le_joinWith
      (List.mem_map_of_mem (f := fun item : Member × Text × Json => item.1.text) isItem) [',']
    refine Member.isReadAs (spaced _ isItem) (keys _ isItem) (denote _ isItem)
      (areRead _ isItem) ?_
    simp only [Member.text, Member.opened, Element.text, List.length_append,
      List.length_cons] at short deep ⊢
    omega
  have read := @readSequence_append _ _ .object _ isSpaces _ areMembers rest
  rw [List.map_map, List.map_map] at read
  rw [List.cons_append, List.append_assoc, List.append_assoc, readWithin_opened_object]
  exact congrArg (Option.map fun read => (Json.object read.1, read.2)) read

/-- A text that denotes a value is read as this value, and what follows is left. -/
theorem Denotes.isReadWithin {text : Text} {value : Json} (denotes : Denotes text value) :
    IsReadWithin text value := by
  induction denotes with
  | null | true | false =>
      intro depth deep rest _
      obtain ⟨depth, rfl⟩ := Nat.exists_eq_succ_of_ne_zero (Nat.ne_zero_of_lt deep)
      rfl
  | number n => exact isReadWithin_number n
  | string spells => exact isReadWithin_string spells
  | list spaced isSpaces denote inductionHypothesis =>
      exact isReadWithin_list spaced isSpaces denote inductionHypothesis
  | object spaced isSpaces keys denote inductionHypothesis =>
      exact isReadWithin_object spaced isSpaces keys denote inductionHypothesis

/-- A text that denotes a value is read as this value. -/
theorem read?_of_conveys {text : Text} {value : Json} (conveys : Conveys text value) :
    read? text = some value := by
  obtain ⟨before, inner, behind, rfl, isBefore, denotes, isBehind⟩ := conveys
  have deep : inner.length ≤ (before ++ (inner ++ behind)).length + 1 := by
    simp only [List.length_append]
    omega
  have ends : BehindNumber behind := by
    have none : BehindNumber [] := nofun
    simpa using none.append isBehind
  have nothing : skipSpace behind = [] := List.dropWhile_eq_nil_iff.mpr isBehind
  rw [read?, readWithin_append isBefore, denotes.isReadWithin _ deep _ ends]
  simp only [nothing, List.isEmpty_nil, if_true]

/-- A text denotes one value at most. -/
theorem Conveys.unique {text : Text} {value other : Json} (conveys : Conveys text value)
    (conveysOther : Conveys text other) : value = other :=
  Option.some.inj ((read?_of_conveys conveys).symm.trans (read?_of_conveys conveysOther))

/-! ## The text of a value -/

/-- What holds of a list if it holds of its elements, of an object if it holds of the values of its
members, and of all that is neither, holds of any value. -/
@[elab_as_elim]
theorem by_parts {motive : Json → Prop} (null : motive .null) (bool : ∀ value, motive (.bool value))
    (number : ∀ value, motive (.number value)) (string : ∀ value, motive (.string value))
    (list : ∀ elements, (∀ element ∈ elements, motive element) → motive (.list elements))
    (object : ∀ members : List (Text × Json), (∀ member ∈ members, motive member.2) →
      motive (.object members)) (value : Json) : motive value :=
  match value with
  | .null => null
  | .bool value => bool value
  | .number value => number value
  | .string value => string value
  | .list elements =>
      list elements fun element _ => by_parts null bool number string list object element
  | .object members =>
      object members fun member _ => by_parts null bool number string list object member.2
termination_by sizeOf value
decreasing_by
  · next isElement =>
      rw [Json.list.sizeOf_spec]
      exact Nat.lt_add_left 1 (List.sizeOf_lt_of_mem isElement)
  · next isMember =>
      have inMembers := List.sizeOf_lt_of_mem isMember
      have inMember : sizeOf member = 1 + sizeOf member.1 + sizeOf member.2 := rfl
      rw [Json.object.sizeOf_spec]
      omega

/-- A control character without a letter of its own is written by its number. -/
private theorem spellsUnit_controlDigits {c : Char} (control : c.toNat < 32) :
    SpellsUnit (controlDigits c) c.toNat := by
  have known : ∀ n < 32, controlDigits (Char.ofNat n) =
        ['0', '0', Nat.digitChar (n / 16), Nat.digitChar (n % 16)] ∧
      IsHexDigit (Nat.digitChar (n / 16)) (n / 16) ∧
        IsHexDigit (Nat.digitChar (n % 16)) (n % 16) := by
    decide
  obtain ⟨digits, third, fourth⟩ := known c.toNat control
  have zero : IsHexDigit '0' 0 := by decide
  have value : c.toNat = ((16 * 0 + 0) * 16 + c.toNat / 16) * 16 + c.toNat % 16 := by omega
  rw [Char.ofNat_toNat] at digits
  have spells := SpellsUnit.digits zero zero third fourth
  rw [← value] at spells
  exact digits ▸ spells

private theorem spellsChar_stringChar (c : Char) : SpellsChar (stringChar c) c := by
  have short : ∀ letter, (c, letter) ∈ shortEscapes → SpellsChar ['\\', letter] c :=
    fun _ => .letter
  rw [stringChar]
  split_ifs with quote backslash backspace feed newline carriage tab control
  · exact short '"' (by rw [quote]; decide)
  · exact short '\\' (by rw [backslash]; decide)
  · exact short 'b' (by rw [backspace]; decide)
  · exact short 'f' (by rw [feed]; decide)
  · exact short 'n' (by rw [newline]; decide)
  · exact short 'r' (by rw [carriage]; decide)
  · exact short 't' (by rw [tab]; decide)
  · exact .unit (spellsUnit_controlDigits control)
  · exact .plain ⟨Nat.le_of_not_lt control, quote, backslash⟩

private theorem spells_flatMap (text : Text) : Spells (text.flatMap stringChar) text := by
  induction text with
  | nil => exact .nil
  | cons c text inductionHypothesis =>
      rw [List.flatMap_cons]
      exact .cons (spellsChar_stringChar c) inductionHypothesis

private theorem isSpaces_newLine (level : Nat) : IsSpaces (newLine level) := by
  intro c member
  rcases List.mem_cons.mp member with rfl | space
  · rfl
  · rw [List.eq_of_mem_replicate space]
    rfl

private theorem prettyElements_eq (level : Nat) (elements : List Json) :
    prettyElements level elements =
      elements.flatMap fun element => ',' :: (newLine level ++ pretty level element) := by
  induction elements with
  | nil => rfl
  | cons element elements inductionHypothesis =>
      rw [prettyElements, inductionHypothesis]
      rfl

private theorem prettyMembers_eq (level : Nat) (members : List (Text × Json)) :
    prettyMembers level members = members.flatMap fun member =>
      ',' :: (newLine level ++ quote member.1 ++ ':' :: ' ' :: pretty level member.2) := by
  induction members with
  | nil => rfl
  | cons member members inductionHypothesis =>
      rw [prettyMembers, inductionHypothesis]
      simp

/-- An element on a line of its own. -/
def lineElement (level : Nat) (value : Json) : Element :=
  ⟨newLine level, pretty level value, []⟩

/-- A member on a line of its own. -/
def lineMember (level : Nat) (member : Text × Json) : Member :=
  ⟨newLine level, member.1.flatMap stringChar, [], ⟨[' '], pretty level member.2, []⟩⟩

private theorem pretty_list (level : Nat) (first : Json) (rest : List Json) :
    pretty level (.list (first :: rest)) =
      '[' :: (Text.joinWith [','] ((first :: rest).map fun element =>
        (lineElement (level + 1) element).text) ++ (newLine level ++ [']'])) := by
  rw [pretty, prettyElements_eq, List.map_cons, Text.joinWith_cons, List.flatMap_map]
  simp [lineElement, Element.text]

private theorem pretty_object (level : Nat) (first : Text × Json) (rest : List (Text × Json)) :
    pretty level (.object (first :: rest)) =
      '\x7b' :: (Text.joinWith [','] ((first :: rest).map fun member =>
        (lineMember (level + 1) member).text) ++ (newLine level ++ ['\x7d'])) := by
  obtain ⟨key, value⟩ := first
  rw [pretty, prettyMembers_eq, List.map_cons, Text.joinWith_cons, List.flatMap_map]
  simp [lineMember, Member.text, Member.opened, Element.text, quote]

/-- The text of a value on several lines denotes it. -/
theorem denotes_pretty (level : Nat) (value : Json) : Denotes (pretty level value) value := by
  induction value using by_parts generalizing level with
  | null => exact .null
  | bool value =>
      cases value with
      | false => exact .false
      | true => exact .true
  | number value => exact .number value
  | string value => exact .string (spells_flatMap value)
  | list elements inductionHypothesis =>
      cases elements with
      | nil => exact @Denotes.list [] [] nofun nofun nofun
      | cons first rest =>
          rw [pretty_list]
          have denotes := @Denotes.list
            ((first :: rest).map fun element => (lineElement (level + 1) element, element))
            (newLine level) ?_ (isSpaces_newLine level) ?_
          · simp only [List.map_map, Function.comp_def, List.map_id'] at denotes
            exact denotes
          · intro item member
            obtain ⟨element, _, rfl⟩ := List.mem_map.mp member
            exact ⟨isSpaces_newLine _, nofun⟩
          · intro item member
            obtain ⟨element, isElement, rfl⟩ := List.mem_map.mp member
            exact inductionHypothesis element isElement (level + 1)
  | object members inductionHypothesis =>
      cases members with
      | nil => exact @Denotes.object [] [] nofun nofun nofun nofun
      | cons first rest =>
          rw [pretty_object]
          have denotes := @Denotes.object
            ((first :: rest).map fun member => (lineMember (level + 1) member, member))
            (newLine level) ?_ (isSpaces_newLine level) ?_ ?_
          · simp only [List.map_map, Function.comp_def, List.map_id'] at denotes
            exact denotes
          · intro item isItem
            obtain ⟨member, _, rfl⟩ := List.mem_map.mp isItem
            exact ⟨isSpaces_newLine _, nofun, List.forall_mem_singleton.mpr rfl, nofun⟩
          · intro item isItem
            obtain ⟨member, _, rfl⟩ := List.mem_map.mp isItem
            exact spells_flatMap member.1
          · intro item isItem
            obtain ⟨member, isMember, rfl⟩ := List.mem_map.mp isItem
            exact inductionHypothesis member isMember (level + 1)

/-- The text of a value denotes it, also with white space behind. -/
theorem conveys_text (value : Json) {spaces : Text} (isSpaces : IsSpaces spaces) :
    Conveys (value.text ++ spaces) value :=
  ⟨[], value.text, spaces, rfl, nofun, denotes_pretty 0 value, isSpaces⟩

end DocCheck.Json
