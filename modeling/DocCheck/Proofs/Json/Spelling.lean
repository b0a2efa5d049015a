import DocCheck.Json.Token
import DocCheck.Proofs.Text.Basic

/-!
How strings are spelled in JSON: each character as itself, by a letter behind a backslash, or by the
hexadecimal number of its code, in two halves if it needs more than four digits. Main statements: any
spelling of a text is read as that text, and whatever has the form of a string is passed over.
-/

namespace DocCheck.Json

/-! ## Numbers of characters -/

/-- The hexadecimal digits in the order of their values, in either case. -/
def hexDigits : List Text :=
  ["0123456789abcdef".toList, "0123456789ABCDEF".toList]

def IsHexDigit (digit : Char) (value : Nat) : Prop :=
  ∃ digits ∈ hexDigits, digits[value]? = some digit

instance (digit : Char) (value : Nat) : Decidable (IsHexDigit digit value) :=
  List.decidableBEx (fun digits : Text => digits[value]? = some digit) hexDigits

/-- Four hexadecimal digits and the number that they spell. -/
inductive SpellsUnit : Text → Nat → Prop
  | digits {a b c d : Char} {i j k l : Nat} (first : IsHexDigit a i) (second : IsHexDigit b j)
      (third : IsHexDigit c k) (fourth : IsHexDigit d l) :
      SpellsUnit [a, b, c, d] (((16 * i + j) * 16 + k) * 16 + l)

private theorem hexDigit?_of_isHexDigit {digit : Char} {value : Nat}
    (isDigit : IsHexDigit digit value) :
    hexDigit? digit = some value := by
  have known : ∀ digits ∈ hexDigits, ∀ value, ∀ inside : value < digits.length,
      hexDigit? digits[value] = some value := by
    decide
  obtain ⟨digits, isCase, isAt⟩ := isDigit
  obtain ⟨inside, rfl⟩ := List.getElem?_eq_some_iff.mp isAt
  exact known digits isCase value inside

private theorem hexEscape_append {digits : Text} {unit : Nat} (spells : SpellsUnit digits unit)
    (rest : Text) : hexEscape (digits ++ rest) = .ok (unit, rest) := by
  obtain ⟨first, second, third, fourth⟩ := spells
  next a b c d i j k l =>
    have wide : ¬ Text.byteLength (a :: b :: c :: d :: rest) < 4 := by
      have first := Char.utf8Size_pos a
      have second := Char.utf8Size_pos b
      have third := Char.utf8Size_pos c
      have fourth := Char.utf8Size_pos d
      simp only [Text.byteLength]
      omega
    have whole : [a, b, c, d] ++ rest = a :: b :: c :: d :: rest := rfl
    rw [whole, hexEscape, if_neg wide, hexDigit?_of_isHexDigit first, hexDigit?_of_isHexDigit second,
      hexDigit?_of_isHexDigit third, hexDigit?_of_isHexDigit fourth]

/-! ## Texts -/

/-- The characters that have an escape by a letter, and the letters. -/
def shortEscapes : List (Char × Char) :=
  [('"', '"'), ('\\', '\\'), ('/', '/'), ('\x08', 'b'), ('\x0c', 'f'), ('\n', 'n'), ('\r', 'r'),
    ('\t', 't')]

/-- A character may stand for itself in a string. -/
structure IsPlain (c : Char) : Prop where
  noControl : 32 ≤ c.toNat
  noQuote : c ≠ '"'
  noBackslash : c ≠ '\\'

instance : DecidablePred IsPlain := fun c =>
  decidable_of_iff (32 ≤ c.toNat ∧ c ≠ '"' ∧ c ≠ '\\')
    ⟨fun ⟨noControl, noQuote, noBackslash⟩ => ⟨noControl, noQuote, noBackslash⟩,
      fun ⟨noControl, noQuote, noBackslash⟩ => ⟨noControl, noQuote, noBackslash⟩⟩

/-- What stands for a character in a string. -/
inductive SpellsChar : Text → Char → Prop
  | plain {c : Char} (plain : IsPlain c) : SpellsChar [c] c
  | letter {c letter : Char} (short : (c, letter) ∈ shortEscapes) : SpellsChar ['\\', letter] c
  | unit {digits : Text} {c : Char} (spells : SpellsUnit digits c.toNat) :
      SpellsChar ('\\' :: 'u' :: digits) c
  /-- A character beyond the basic plane is spelled by its two surrogates. -/
  | pair {high low : Text} {c : Char} (beyond : 0x10000 ≤ c.toNat)
      (spellsHigh : SpellsUnit high (0xD800 + (c.toNat - 0x10000) / 0x400))
      (spellsLow : SpellsUnit low (0xDC00 + (c.toNat - 0x10000) % 0x400)) :
      SpellsChar ('\\' :: 'u' :: high ++ '\\' :: 'u' :: low) c

/-- What stands for a text between the quotes of a string. -/
inductive Spells : Text → Text → Prop
  | nil : Spells [] []
  | cons {piece content text : Text} {c : Char} (first : SpellsChar piece c)
      (more : Spells content text) : Spells (piece ++ content) (c :: text)

/-- What may stand between the quotes of a string. Surrogates may stand alone. -/
inductive IsContent : Text → Prop
  | nil : IsContent []
  | plain {c : Char} {content : Text} (plain : IsPlain c) (more : IsContent content) :
      IsContent (c :: content)
  | letter {c letter : Char} {content : Text} (short : (c, letter) ∈ shortEscapes)
      (more : IsContent content) : IsContent ('\\' :: letter :: content)
  | unit {digits content : Text} {number : Nat} (spells : SpellsUnit digits number)
      (more : IsContent content) : IsContent ('\\' :: 'u' :: digits ++ content)

theorem Spells.of_isPlain {text : Text} (plain : ∀ c ∈ text, IsPlain c) : Spells text text := by
  induction text with
  | nil => exact .nil
  | cons c text inductionHypothesis =>
      exact .cons (.plain (plain c List.mem_cons_self))
        (inductionHypothesis fun d member => plain d (List.mem_cons_of_mem _ member))

theorem IsContent.of_isPlain {text : Text} (plain : ∀ c ∈ text, IsPlain c) : IsContent text := by
  induction text with
  | nil => exact .nil
  | cons c text inductionHypothesis =>
      exact .plain (plain c List.mem_cons_self)
        (inductionHypothesis fun d member => plain d (List.mem_cons_of_mem _ member))

/-! ## Reading -/

/-- An escape by a letter is read, and it is passed over. -/
private theorem escape_of_short {c letter : Char} (short : (c, letter) ∈ shortEscapes)
    (rest : Text) :
    escape (letter :: rest) = .ok (c, rest) ∧ skipEscape (letter :: rest) = .ok rest := by
  simp only [shortEscapes, List.mem_cons, List.not_mem_nil, or_false, Prod.mk.injEq] at short
  rcases short with ⟨rfl, rfl⟩ | ⟨rfl, rfl⟩ | ⟨rfl, rfl⟩ | ⟨rfl, rfl⟩ | ⟨rfl, rfl⟩ | ⟨rfl, rfl⟩ |
    ⟨rfl, rfl⟩ | ⟨rfl, rfl⟩ <;> exact ⟨rfl, rfl⟩

/-- The numbers of surrogates are not those of characters. -/
private theorem no_surrogate (c : Char) :
    c.toNat < 0xD800 ∨ 0xDFFF < c.toNat ∧ c.toNat < 0x110000 := by
  simpa [UInt32.isValidChar, Nat.isValidChar] using c.valid

private theorem escape_of_spellsUnit {digits : Text} {c : Char} (spells : SpellsUnit digits c.toNat)
    (rest : Text) : escape ('u' :: digits ++ rest) = .ok (c, rest) := by
  have valid := no_surrogate c
  have noLow : ¬ (0xDC00 ≤ c.toNat ∧ c.toNat ≤ 0xDFFF) := by omega
  have noHigh : ¬ (0xD800 ≤ c.toNat ∧ c.toNat ≤ 0xDBFF) := by omega
  simp [escape, hexEscape_append spells, noLow, noHigh, Char.ofNat_toNat]

private theorem escape_of_pair {high low : Text} {c : Char} (beyond : 0x10000 ≤ c.toNat)
    (spellsHigh : SpellsUnit high (0xD800 + (c.toNat - 0x10000) / 0x400))
    (spellsLow : SpellsUnit low (0xDC00 + (c.toNat - 0x10000) % 0x400)) (rest : Text) :
    escape ('u' :: high ++ '\\' :: 'u' :: low ++ rest) = .ok (c, rest) := by
  have valid := no_surrogate c
  have isHigh : 0xD800 + (c.toNat - 0x10000) / 0x400 ≤ 0xDBFF := by omega
  have noLow : ¬ (0xDC00 ≤ 0xD800 + (c.toNat - 0x10000) / 0x400) := by omega
  have isLow : ¬ (0xDC00 + (c.toNat - 0x10000) % 0x400 < 0xDC00) ∧
      ¬ (0xDFFF < 0xDC00 + (c.toNat - 0x10000) % 0x400) := by
    omega
  have together : 0x10000 + (0xD800 + (c.toNat - 0x10000) / 0x400 - 0xD800) * 0x400 +
      (0xDC00 + (c.toNat - 0x10000) % 0x400 - 0xDC00) = c.toNat := by
    omega
  have read : escape ('u' :: (high ++ '\\' :: 'u' :: (low ++ rest))) =
      .ok (Char.ofNat c.toNat, rest) := by
    rw [← together]
    simp [escape, hexEscape_append spellsHigh, lowSurrogate, hexEscape_append spellsLow, isHigh,
      noLow, isLow]
  rw [Char.ofNat_toNat] at read
  simpa using read

private theorem readStringWithin_plain {c : Char} (plain : IsPlain c) (fuel : Nat) (rest : Text) :
    readStringWithin (fuel + 1) (c :: rest) =
      (readStringWithin fuel rest).map fun more => (c :: more.1, more.2) := by
  rw [readStringWithin]
  simp only [plain.noQuote, plain.noBackslash, Nat.not_lt.mpr plain.noControl, if_false]

private theorem readStringWithin_escape {behind rest : Text} {c : Char} (fuel : Nat)
    (escaped : escape behind = .ok (c, rest)) :
    readStringWithin (fuel + 1) ('\\' :: behind) =
      (readStringWithin fuel rest).map fun more => (c :: more.1, more.2) := by
  have noControl : ¬ '\\'.toNat < 32 := by decide
  rw [readStringWithin]
  simp only [noControl, if_false, if_true, escaped]
  rfl

private theorem readStringWithin_append {piece : Text} {c : Char} (spells : SpellsChar piece c)
    (fuel : Nat) (rest : Text) : readStringWithin (fuel + 1) (piece ++ rest) =
      (readStringWithin fuel rest).map fun more => (c :: more.1, more.2) := by
  cases spells with
  | plain plain => exact readStringWithin_plain plain fuel rest
  | letter short => exact readStringWithin_escape fuel (escape_of_short short rest).1
  | unit spells => exact readStringWithin_escape fuel (escape_of_spellsUnit spells rest)
  | pair beyond spellsHigh spellsLow =>
      exact readStringWithin_escape fuel (escape_of_pair beyond spellsHigh spellsLow rest)

private theorem SpellsChar.length_pos {piece : Text} {c : Char} (spells : SpellsChar piece c) :
    0 < piece.length := by
  cases spells <;> exact Nat.succ_pos _

/-- Whatever spelling of a text stands between the quotes, the text is read. -/
theorem readString_of_spells {content text : Text} (spells : Spells content text) (rest : Text) :
    readString (content ++ '"' :: rest) = .ok (text, rest) := by
  have read : ∀ fuel, content.length < fuel →
      readStringWithin fuel (content ++ '"' :: rest) = .ok (text, rest) := by
    induction spells with
    | nil =>
        intro fuel enough
        obtain ⟨fuel, rfl⟩ := Nat.exists_eq_add_of_lt enough
        rfl
    | @cons piece content text c first more inductionHypothesis =>
        intro fuel enough
        have positive := first.length_pos
        rw [List.length_append] at enough
        obtain ⟨fuel, rfl⟩ := Nat.exists_eq_succ_of_ne_zero (Nat.ne_zero_of_lt enough)
        rw [List.append_assoc, readStringWithin_append first, inductionHypothesis fuel (by omega)]
        rfl
  exact read _ (Nat.lt_succ_of_le (by simp))

/-! ## Passing over -/

private theorem skipEscape_of_spellsUnit {digits : Text} {number : Nat}
    (spells : SpellsUnit digits number)
    (rest : Text) : skipEscape ('u' :: digits ++ rest) = .ok rest := by
  simp [skipEscape, hexEscape_append spells, Except.map]

private theorem skipStringWithin_escape {behind rest : Text} (fuel : Nat)
    (skipped : skipEscape behind = .ok rest) :
    skipStringWithin (fuel + 1) ('\\' :: behind) = skipStringWithin fuel rest := by
  have noControl : ¬ '\\'.toNat < 32 := by decide
  rw [skipStringWithin]
  simp only [noControl, if_false, if_true, skipped]
  rfl

/-- What has the form of a string is passed over, whatever its escapes stand for. -/
theorem skipString_of_isContent {content : Text} (isContent : IsContent content) (rest : Text) :
    skipString (content ++ '"' :: rest) = .ok rest := by
  have skipped : ∀ fuel, content.length < fuel →
      skipStringWithin fuel (content ++ '"' :: rest) = .ok rest := by
    induction isContent with
    | nil =>
        intro fuel enough
        obtain ⟨fuel, rfl⟩ := Nat.exists_eq_add_of_lt enough
        rfl
    | plain plain more inductionHypothesis =>
        intro fuel enough
        obtain ⟨fuel, rfl⟩ := Nat.exists_eq_succ_of_ne_zero (Nat.ne_zero_of_lt enough)
        rw [List.length_cons] at enough
        rw [List.cons_append, skipStringWithin]
        simp only [plain.noQuote, plain.noBackslash, Nat.not_lt.mpr plain.noControl, if_false]
        exact inductionHypothesis fuel (Nat.lt_of_succ_lt_succ enough)
    | letter short more inductionHypothesis =>
        intro fuel enough
        obtain ⟨fuel, rfl⟩ := Nat.exists_eq_succ_of_ne_zero (Nat.ne_zero_of_lt enough)
        rw [List.length_cons, List.length_cons] at enough
        exact (skipStringWithin_escape fuel (escape_of_short short _).2).trans
          (inductionHypothesis fuel (by omega))
    | @unit digits content number spells more inductionHypothesis =>
        intro fuel enough
        obtain ⟨fuel, rfl⟩ := Nat.exists_eq_succ_of_ne_zero (Nat.ne_zero_of_lt enough)
        simp only [List.length_append, List.length_cons] at enough
        rw [List.append_assoc]
        exact (skipStringWithin_escape fuel (skipEscape_of_spellsUnit spells _)).trans
          (inductionHypothesis fuel (by omega))
  exact skipped _ (Nat.lt_succ_of_le (by simp))

end DocCheck.Json
