import DocCheck.Diagnostic.Reference
import DocCheck.Proofs.Diagnostic.BlockPath

/-!
References to lines, by what they look like. Both searches are for texts that begin with a mark of
their own, so that no reference hides another one. Main statement: the lines of a diagnostic are
exactly those that its detail refers to somewhere.
-/

namespace DocCheck.Diagnostic

/-! ## Numerals -/

/-- Decimal digits, of whatever script, and at least one. -/
def IsNumeral (digits : Text) : Prop :=
  digits ≠ [] ∧ ∀ c ∈ digits, Text.isDigit c = true

theorem not_mem_of_isNumeral {digits : Text} (numeral : IsNumeral digits) {c : Char}
    (noDigit : Text.isDigit c = false) : c ∉ digits := by
  intro member
  rw [numeral.2 c member] at noDigit
  cases noDigit

theorem isNumeral_decimal (n : Nat) : IsNumeral (Text.decimal n) :=
  ⟨(BlockPath.isNumber_decimal n).1,
    fun _ member => BlockPath.isDigit_of_isNumber (BlockPath.isNumber_decimal n) member⟩

private theorem isDigit_eq_false_of_head?_dropWhile {text : Text} {c : Char}
    (first : c ∈ (text.dropWhile Text.isDigit).head?) : Text.isDigit c = false := by
  have outside := List.head?_dropWhile_not Text.isDigit text
  rw [first] at outside
  exact outside

theorem digits?_eq_some_iff {text run rest : Text} :
    digits? text = some (run, rest) ↔
      IsNumeral run ∧ (∀ c ∈ rest.head?, Text.isDigit c = false) ∧ text = run ++ rest := by
  constructor
  · intro read
    rw [digits?] at read
    split at read
    · cases read
    · next nonempty =>
        cases read
        refine ⟨⟨nonempty, ?_⟩, ?_, List.takeWhile_append_dropWhile.symm⟩
        · exact fun c member => List.all_eq_true.mp List.all_takeWhile c member
        · exact fun c first => isDigit_eq_false_of_head?_dropWhile first
  · rintro ⟨⟨nonempty, digits⟩, ends, rfl⟩
    have stops : rest.takeWhile Text.isDigit = [] ∧ rest.dropWhile Text.isDigit = rest := by
      cases rest with
      | nil => exact ⟨rfl, rfl⟩
      | cons c rest =>
          have noDigit := ends c rfl
          exact ⟨List.takeWhile_cons_of_neg (by simp [noDigit]),
            List.dropWhile_cons_of_neg (by simp [noDigit])⟩
    have taken : (run ++ rest).takeWhile Text.isDigit = run := by
      rw [List.takeWhile_append_of_pos digits, stops.1, List.append_nil]
    have left : (run ++ rest).dropWhile Text.isDigit = rest := by
      rw [List.dropWhile_append_of_pos digits, stops.2]
    rw [digits?, taken, left]
    cases run with
    | nil => exact absurd rfl nonempty
    | cons c run => rfl

/-- A numeral that another character follows is read as a whole. -/
theorem digits?_append_cons {run : Text} (numeral : IsNumeral run) {c : Char}
    (noDigit : Text.isDigit c = false) (rest : Text) :
    digits? (run ++ c :: rest) = some (run, c :: rest) := by
  refine digits?_eq_some_iff.mpr ⟨numeral, ?_, rfl⟩
  rintro d ⟨⟩
  exact noDigit

/-! ## References -/

theorem parenthesised?_eq_some_iff {text line column after : Text} :
    parenthesised? text = some ((line, column), after) ↔
      IsNumeral line ∧ IsNumeral column ∧
        text = '(' :: (line ++ ',' :: (column ++ ')' :: after)) := by
  constructor
  · intro read
    unfold parenthesised? at read
    split at read
    · split at read
      · next digits behind readLine =>
          split at read
          · next columnDigits left readColumn =>
              cases read
              obtain ⟨lineNumeral, _, rfl⟩ := digits?_eq_some_iff.mp readLine
              obtain ⟨columnNumeral, _, rfl⟩ := digits?_eq_some_iff.mp readColumn
              exact ⟨lineNumeral, columnNumeral, rfl⟩
          · cases read
      · cases read
    · cases read
  · rintro ⟨lineNumeral, columnNumeral, rfl⟩
    have readLine := digits?_append_cons lineNumeral (c := ',') (by decide)
      (column ++ ')' :: after)
    have readColumn := digits?_append_cons columnNumeral (c := ')') (by decide) after
    simp only [parenthesised?, readLine, readColumn]

theorem parenReference_eq_some_iff {before : Option Char} {text line after : Text} :
    parenReference before text = some (line, after) ↔
      ∃ column, IsNumeral line ∧ IsNumeral column ∧
        text = '(' :: (line ++ ',' :: (column ++ ')' :: after)) := by
  rw [parenReference, Option.map_eq_some_iff]
  constructor
  · rintro ⟨⟨⟨digits, column⟩, rest⟩, read, equality⟩
    cases equality
    exact ⟨column, parenthesised?_eq_some_iff.mp read⟩
  · rintro ⟨column, parts⟩
    exact ⟨((line, column), after), parenthesised?_eq_some_iff.mpr parts, rfl⟩

theorem labelReference_eq_some_iff {before : Option Char} {text line after : Text} :
    labelReference before text = some (line, after) ↔
      ∃ index column, IsNumeral index ∧ IsNumeral line ∧ IsNumeral column ∧
        (∀ c ∈ after.head?, Text.isDigit c = false) ∧
          text = "Code Block ".toList ++ (index ++ ':' :: (line ++ ':' :: (column ++ after))) := by
  constructor
  · intro read
    rw [labelReference] at read
    split at read
    · cases read
    · next rest stripped =>
        obtain rfl := List.append_eq_of_isPrefixOf?_eq_some stripped
        split at read
        · next index behind readIndex =>
            split at read
            · next digits left readLine =>
                obtain ⟨⟨column, last⟩, readColumn, equality⟩ := Option.map_eq_some_iff.mp read
                cases equality
                obtain ⟨indexNumeral, _, rfl⟩ := digits?_eq_some_iff.mp readIndex
                obtain ⟨lineNumeral, _, rfl⟩ := digits?_eq_some_iff.mp readLine
                obtain ⟨columnNumeral, ends, rfl⟩ := digits?_eq_some_iff.mp readColumn
                exact ⟨index, column, indexNumeral, lineNumeral, columnNumeral, ends, rfl⟩
            · cases read
        · cases read
  · rintro ⟨index, column, indexNumeral, lineNumeral, columnNumeral, ends, rfl⟩
    have readIndex := digits?_append_cons indexNumeral (c := ':') (by decide)
      (line ++ ':' :: (column ++ after))
    have readLine := digits?_append_cons lineNumeral (c := ':') (by decide) (column ++ after)
    have readColumn := digits?_eq_some_iff.mpr ⟨columnNumeral, ends, rfl⟩
    simp only [labelReference, Text.isPrefixOf?_append, readIndex, readLine, readColumn,
      Option.map_some]

private theorem marked_parenReference : Text.Marked '(' parenReference where
  begins := by
    intro before text after line found
    obtain ⟨column, lineNumeral, columnNumeral, rfl⟩ := parenReference_eq_some_iff.mp found
    refine ⟨line ++ ',' :: (column ++ [')']), by simp, ?_⟩
    simp [not_mem_of_isNumeral lineNumeral (c := '(') (by decide),
      not_mem_of_isNumeral columnNumeral (c := '(') (by decide)]
  blind _ _ := rfl

private theorem marked_labelReference : Text.Marked 'C' labelReference where
  begins := by
    intro before text after line found
    obtain ⟨index, column, indexNumeral, lineNumeral, columnNumeral, _, rfl⟩ :=
      labelReference_eq_some_iff.mp found
    refine ⟨"ode Block ".toList ++ (index ++ ':' :: (line ++ ':' :: column)), by simp, ?_⟩
    simp [not_mem_of_isNumeral indexNumeral (c := 'C') (by decide),
      not_mem_of_isNumeral lineNumeral (c := 'C') (by decide),
      not_mem_of_isNumeral columnNumeral (c := 'C') (by decide)]
  blind _ _ := rfl

/-- `Refers text n` means that the text refers somewhere to line `n`. -/
inductive Refers : Text → Nat → Prop
  | parenthesised (lead line column rest : Text) {n : Nat} :
      IsNumeral line → IsNumeral column → Text.parseDecimal? line = some n →
      Refers (lead ++ '(' :: (line ++ ',' :: (column ++ ')' :: rest))) n
  | labelled (lead index line column rest : Text) {n : Nat} :
      IsNumeral index → IsNumeral line → IsNumeral column → Text.parseDecimal? line = some n →
      Refers (lead ++ ("Code Block ".toList ++
        (index ++ ':' :: (line ++ ':' :: (column ++ rest))))) n

theorem mem_insertLine {n m : Nat} {lines : List Nat} :
    m ∈ insertLine n lines ↔ m = n ∨ m ∈ lines := by
  fun_induction insertLine n lines with
  | case1 => simp
  | case2 rest => simp
  | case3 first rest different smaller => simp
  | case4 first rest different larger inductionHypothesis =>
      rw [List.mem_cons, inductionHypothesis, List.mem_cons]
      exact or_left_comm

private theorem mem_foldr_insertLine {m : Nat} {lines : List Nat} :
    m ∈ lines.foldr insertLine [] ↔ m ∈ lines := by
  induction lines with
  | nil => rfl
  | cons n lines inductionHypothesis =>
      rw [List.foldr_cons, mem_insertLine, inductionHypothesis, List.mem_cons]

/-- Exactly the lines that a text refers to are found in it. -/
theorem mem_referredLines_iff {text : Text} {n : Nat} :
    n ∈ referredLines text ↔ Refers text n := by
  rw [referredLines, mem_foldr_insertLine, List.mem_filterMap]
  constructor
  · rintro ⟨digits, member, parsed⟩
    rcases List.mem_append.mp member with labelled | bracketed
    · obtain ⟨lead, rest, after, rfl, found⟩ :=
        (Text.mem_findAll_iff marked_labelReference).mp labelled
      obtain ⟨index, column, indexNumeral, lineNumeral, columnNumeral, _, rfl⟩ :=
        labelReference_eq_some_iff.mp found
      exact .labelled lead index digits column after indexNumeral lineNumeral columnNumeral parsed
    · obtain ⟨lead, rest, after, rfl, found⟩ :=
        (Text.mem_findAll_iff marked_parenReference).mp bracketed
      obtain ⟨column, lineNumeral, columnNumeral, rfl⟩ := parenReference_eq_some_iff.mp found
      exact .parenthesised lead digits column after lineNumeral columnNumeral parsed
  · intro refers
    cases refers with
    | parenthesised lead line column rest lineNumeral columnNumeral parsed =>
        refine ⟨line, List.mem_append_right _ ?_, parsed⟩
        refine (Text.mem_findAll_iff marked_parenReference).mpr ⟨lead, _, rest, rfl, ?_⟩
        exact parenReference_eq_some_iff.mpr ⟨column, lineNumeral, columnNumeral, rfl⟩
    | labelled lead index line column rest indexNumeral lineNumeral columnNumeral parsed =>
        refine ⟨line, List.mem_append_left _ ?_, parsed⟩
        -- The column is read as far as its digits go, into what follows if need be.
        have wholeNumeral : IsNumeral (column ++ rest.takeWhile Text.isDigit) := by
          refine ⟨by simp [columnNumeral.1], ?_⟩
          intro c member
          rcases List.mem_append.mp member with inColumn | behind
          · exact columnNumeral.2 c inColumn
          · exact List.all_eq_true.mp List.all_takeWhile c behind
        have ends : ∀ c ∈ (rest.dropWhile Text.isDigit).head?, Text.isDigit c = false :=
          fun c first => isDigit_eq_false_of_head?_dropWhile first
        refine (Text.mem_findAll_iff marked_labelReference).mpr
          ⟨lead, _, rest.dropWhile Text.isDigit, rfl, ?_⟩
        refine labelReference_eq_some_iff.mpr
          ⟨index, _, indexNumeral, lineNumeral, wholeNumeral, ends, ?_⟩
        rw [List.append_assoc, List.takeWhile_append_dropWhile]

theorem mem_errorLines_iff {diagnostic : Diagnostic} {n : Nat} :
    n ∈ diagnostic.errorLines ↔ Refers diagnostic.detail n :=
  mem_referredLines_iff

end DocCheck.Diagnostic
