import DocCheck.Text.Basic
import DocCheck.Text.Digit
import Mathlib.Data.List.Induction

/-!
Numbers spelled by decimal digits. Main statement: a number below `2 ^ 64` is read off exactly its own
digits, behind any zeros.
-/

namespace DocCheck.Text

/-- The digits spell the number, with any zeros in front. -/
def Spells (digits : Text) (n : Nat) : Prop :=
  ∃ zeros, digits = List.replicate zeros '0' ++ decimal n

private theorem digitChar_of_isAsciiDigit {c : Char} (digit : isAsciiDigit c = true) :
    c.toNat - 48 < 10 ∧ Nat.digitChar (c.toNat - 48) = c := by
  rw [isAsciiDigit, Bool.and_eq_true, decide_eq_true_eq, decide_eq_true_eq] at digit
  have small : c.toNat - 48 < 10 := by omega
  refine ⟨small, Char.toNat_inj.mp ?_⟩
  rw [Nat.toNat_digitChar_of_lt_ten small]
  omega

private theorem decimalValue_eq (digits : Text) :
    decimalValue digits = Nat.ofDigitChars 10 digits 0 :=
  Nat.ofDigitChars_eq_foldl.symm

private theorem decimalValue_append_singleton (digits : Text) (c : Char) :
    decimalValue (digits ++ [c]) = 10 * decimalValue digits + (c.toNat - 48) := by
  rw [decimalValue, decimalValue, List.foldl_append]
  rfl

/-- A digit more behind a number that is not zero. -/
private theorem decimal_append_singleton {n : Nat} (positive : 0 < n) {c : Char}
    (digit : isAsciiDigit c = true) : decimal n ++ [c] = decimal (10 * n + (c.toNat - 48)) := by
  obtain ⟨small, rebuilt⟩ := digitChar_of_isAsciiDigit digit
  have joined := Nat.toDigits_append_toDigits (by decide : 1 < 10) positive small
  rwa [Nat.toDigits_of_lt_base small, rebuilt] at joined

private theorem spells_decimalValue {digits : Text} (filled : digits ≠ [])
    (ascii : ∀ c ∈ digits, isAsciiDigit c = true) : Spells digits (decimalValue digits) := by
  -- The last digit is the one that counts least, so the induction goes from there.
  induction digits using List.reverseRecOn with
  | nil => exact absurd rfl filled
  | append_singleton digits c inductionHypothesis =>
      have digit := ascii c (by simp)
      obtain ⟨small, rebuilt⟩ := digitChar_of_isAsciiDigit digit
      have alone : decimal (c.toNat - 48) = [c] := by
        rw [decimal, Nat.toDigits_of_lt_base small, rebuilt]
      rw [decimalValue_append_singleton]
      by_cases first : digits = []
      · subst first
        have value : 10 * decimalValue [] + (c.toNat - 48) = c.toNat - 48 := Nat.zero_add _
        exact ⟨0, by rw [value, alone]; rfl⟩
      · obtain ⟨zeros, isDigits⟩ := inductionHypothesis first fun d member =>
          ascii d (List.mem_append_left _ member)
        generalize decimalValue digits = value at isDigits ⊢
        subst isDigits
        rcases Nat.eq_zero_or_pos value with rfl | positive
        · refine ⟨zeros + 1, ?_⟩
          have zero : decimal 0 = ['0'] := rfl
          rw [Nat.mul_zero, Nat.zero_add, alone, zero, List.replicate_succ']
        · refine ⟨zeros, ?_⟩
          rw [List.append_assoc, decimal_append_singleton positive digit]

theorem decimalValue_of_spells {digits : Text} {n : Nat} (spells : Spells digits n) :
    decimalValue digits = n := by
  obtain ⟨zeros, rfl⟩ := spells
  rw [decimalValue_eq, Nat.ofDigitChars_append, Nat.ofDigitChars_replicate_zero, Nat.mul_zero]
  exact Nat.ofDigitChars_ten_toDigits

theorem isAsciiDigit_of_spells {digits : Text} {n : Nat} (spells : Spells digits n) :
    digits ≠ [] ∧ ∀ c ∈ digits, isAsciiDigit c = true := by
  obtain ⟨zeros, rfl⟩ := spells
  have filled : decimal n ≠ [] := Nat.toDigits_ne_nil
  refine ⟨by simp [filled], ?_⟩
  intro c member
  rcases List.mem_append.mp member with zero | inNumber
  · rw [List.eq_of_mem_replicate zero]
    rfl
  · have digit : c.isDigit = true :=
      Nat.isDigit_of_mem_toDigits (by decide) (by decide) inNumber
    simpa [Char.isDigit, isAsciiDigit, UInt32.le_iff_toNat_le] using digit

theorem parseDecimal?_eq_some_iff {digits : Text} {n : Nat} :
    parseDecimal? digits = some n ↔ n < UInt64.size ∧ Spells digits n := by
  constructor
  · intro parsed
    rw [parseDecimal?] at parsed
    split at parsed
    · cases parsed
    · next readable =>
        rw [Bool.or_eq_true, not_or, List.isEmpty_iff, Bool.not_eq_true', Bool.not_eq_false,
          List.all_eq_true] at readable
        dsimp only at parsed
        split at parsed
        · next counted =>
            cases parsed
            exact ⟨counted, spells_decimalValue readable.1 readable.2⟩
        · cases parsed
  · rintro ⟨counted, spells⟩
    obtain ⟨filled, ascii⟩ := isAsciiDigit_of_spells spells
    rw [parseDecimal?, List.isEmpty_eq_false_iff.mpr filled, List.all_eq_true.mpr ascii,
      decimalValue_of_spells spells]
    exact if_pos counted

theorem parseDecimal?_decimal {n : Nat} (counted : n < UInt64.size) :
    parseDecimal? (decimal n) = some n :=
  parseDecimal?_eq_some_iff.mpr ⟨counted, 0, rfl⟩

end DocCheck.Text
