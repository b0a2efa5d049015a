import DocCheck.Proofs.Diagnostic.ErrorLines
import DocCheck.Proofs.Diagnostic.Recovery
import Mathlib.Data.List.Basic

/-!
The lines at fault before and after paths of block files are replaced by the label of their block. A
label is read with what stands behind it, and its document may complete words that a text only begins.
Main statement: the lines in parentheses stay the same, and every other line comes from one of these
two.
-/

namespace DocCheck

-- The ranges are many, so their ends are compared without going through propositions.
private theorem Text.inRanges_of_within {inner outer : List CodePointRange} {codePoint : Nat}
    (within : (inner.all fun range => outer.any fun other =>
      Nat.ble other.1 range.1 && Nat.ble range.2 other.2) = true)
    (member : inRanges inner codePoint = true) : inRanges outer codePoint = true := by
  obtain ⟨range, inInner, holds⟩ := List.any_eq_true.mp member
  obtain ⟨other, inOuter, covers⟩ := List.any_eq_true.mp (List.all_eq_true.mp within range inInner)
  refine List.any_eq_true.mpr ⟨other, inOuter, ?_⟩
  simp only [Bool.and_eq_true, decide_eq_true_eq, Nat.ble_eq] at holds covers ⊢
  omega

/-- Digits are characters of words. -/
private theorem Text.isWord_of_isDigit {c : Char} (digit : isDigit c = true) : isWord c = true := by
  rw [isDigit, Bool.or_eq_true, Bool.and_eq_true] at digit
  rw [isWord, Bool.or_eq_true, Bool.and_eq_true]
  rcases digit with ascii | ⟨beyond, inDigits⟩
  · left
    rw [isAsciiDigit] at ascii
    simp only [isAsciiWord, ascii, Bool.or_true, Bool.true_or]
  · exact Or.inr ⟨beyond, inRanges_of_within (by decide +kernel) inDigits⟩

namespace BlockPath

/-! ## What stands behind a path -/

private theorem endsWord_of_afterFile? {text after : Text} (found : afterFile? text = some after) :
    Text.endsWord after.head? = true := by
  rw [afterFile?] at found
  split at found
  · cases found
  · split at found
    · cases found
    · split at found
      · cases found
      · split at found
        · next ends =>
            cases found
            exact ends
        · cases found

private theorem endsWord_of_afterBlock? {name text after : Text}
    (found : afterBlock? name text = some after) : Text.endsWord after.head? = true := by
  rw [afterBlock?] at found
  split at found
  · split at found
    · exact endsWord_of_afterFile? found
    · cases found
  · cases found

private theorem endsWord_of_afterDirectories? {name text after : Text}
    (found : afterDirectories? name text = some after) : Text.endsWord after.head? = true := by
  induction text with
  | nil => cases found
  | cons c rest inductionHypothesis =>
      rw [afterDirectories?] at found
      split at found
      · cases found
      · split at found
        · next further =>
            cases found
            exact inductionHypothesis further
        · split at found
          · exact endsWord_of_afterBlock? found
          · cases found

/-- No word goes on behind a path. -/
private theorem endsWord_of_pattern {name text after : Text} {before : Option Char} {value : Unit}
    (found : pattern name before text = some (value, after)) :
    Text.endsWord after.head? = true := by
  rw [pattern] at found
  split at found
  · next directories =>
      cases found
      exact endsWord_of_afterDirectories? directories
  · obtain ⟨rest, isBlock, equality⟩ := Option.map_eq_some_iff.mp found
    cases equality
    exact endsWord_of_afterBlock? isBlock

private theorem exists_cut_behind {name text path : Text} {before : Option Char}
    {ahead rest : List (Text.Segment Unit)}
    (cut : Text.Cut (pattern name) before text (ahead ++ .found path () :: rest)) :
    ∃ last behind, Text.Cut (pattern name) last behind rest ∧
      Text.endsWord behind.head? = true := by
  induction ahead generalizing before text with
  | nil =>
      cases cut with
      | found found _ cutRest => exact ⟨_, _, cutRest, endsWord_of_pattern found⟩
  | cons part ahead inductionHypothesis =>
      cases cut with
      | plain _ cutRest => exact inductionHypothesis cutRest
      | found _ _ cutRest => exact inductionHypothesis cutRest

/-! ## Segments with labels -/

/-- The segments with a label in place of the paths. -/
private def shown (label : Text) (parts : List (Text.Segment Unit)) : Text :=
  parts.flatMap (Text.Segment.replaceWith fun _ _ => label)

section Shown

variable (label : Text)

private theorem shown_append (front back : List (Text.Segment Unit)) :
    shown label (front ++ back) = shown label front ++ shown label back :=
  List.flatMap_append

private theorem shown_found (path : Text) (rest : List (Text.Segment Unit)) :
    shown label (.found path () :: rest) = label ++ shown label rest :=
  List.flatMap_cons

private theorem shown_plain (front : Text) (rest : List (Text.Segment Unit)) :
    shown label (front.map .plain ++ rest) = front ++ shown label rest := by
  rw [shown_append, shown, List.flatMap_map]
  exact congrArg (· ++ shown label rest) (List.flatMap_singleton' front)

end Shown

/-- Behind a path no digit follows, and a label that begins with none puts none there. -/
private theorem isDigit_eq_false_of_head?_shown {name text label path : Text} {before : Option Char}
    {ahead rest : List (Text.Segment Unit)} (filled : label ≠ [])
    (noDigit : ∀ c ∈ label.head?, Text.isDigit c = false)
    (cut : Text.Cut (pattern name) before text (ahead ++ .found path () :: rest)) :
    ∀ c ∈ (shown label rest).head?, Text.isDigit c = false := by
  obtain ⟨last, behind, cutRest, ends⟩ := exists_cut_behind cut
  intro c first
  cases cutRest with
  | done _ => cases first
  | plain _ _ =>
      cases first
      rw [List.head?_cons, Text.endsWord, Bool.not_eq_true'] at ends
      refine Bool.eq_false_iff.mpr fun digit => ?_
      rw [Text.isWord_of_isDigit digit] at ends
      cases ends
  | found _ _ _ =>
      rw [shown_found, List.head?_append_of_ne_nil _ filled] at first
      exact noDigit c first

/-- A text that the segments are shown to begin with lies outside the paths, or a label begins in
it. -/
private theorem isPrefix_shown_cases {label front : Text} {parts : List (Text.Segment Unit)}
    (begins : front <+: shown label parts) :
    (∃ rest, parts = front.map .plain ++ rest) ∨
      ∃ begun path rest completed, parts = begun.map .plain ++ .found path () :: rest ∧
        front = begun ++ completed ∧ completed ≠ [] ∧ completed <+: label ++ shown label rest := by
  induction parts generalizing front with
  | nil =>
      obtain rfl := List.prefix_nil.mp begins
      exact Or.inl ⟨[], rfl⟩
  | cons part parts inductionHypothesis =>
      cases front with
      | nil => exact Or.inl ⟨part :: parts, rfl⟩
      | cons c front =>
          cases part with
          | plain d =>
              obtain ⟨rfl, goesOn⟩ := List.cons_prefix_cons.mp begins
              rcases inductionHypothesis goesOn with
                ⟨rest, rfl⟩ | ⟨begun, path, rest, completed, rfl, rfl, filled, isLabel⟩
              · exact Or.inl ⟨rest, rfl⟩
              · exact Or.inr ⟨c :: begun, path, rest, completed, rfl, rfl, filled, isLabel⟩
          | found path value =>
              exact Or.inr ⟨[], path, parts, c :: front, rfl, rfl, List.cons_ne_nil c front, begins⟩

/-- A text among the shown segments begins outside the paths or inside a label. -/
private theorem isInfix_shown_cases {label front : Text} (filled : front ≠ [])
    {parts : List (Text.Segment Unit)} (inside : front <:+: shown label parts) :
    (∃ ahead rest, parts = ahead ++ rest ∧ front <+: shown label rest) ∨
      ∃ ahead path rest inner, parts = ahead ++ .found path () :: rest ∧ inner <:+ label ∧
        inner ≠ [] ∧ front <+: inner ++ shown label rest := by
  induction parts with
  | nil => exact absurd (List.infix_nil.mp inside) filled
  | cons part parts inductionHypothesis =>
      rcases Text.isInfix_append_cases inside with ⟨inner, inPart, nonempty, begins⟩ | later
      · cases part with
        | plain c =>
            refine Or.inl ⟨[], .plain c :: parts, rfl, ?_⟩
            rcases List.suffix_cons_iff.mp inPart with rfl | inNil
            · exact begins
            · exact absurd (List.suffix_nil.mp inNil) nonempty
        | found path value => exact Or.inr ⟨[], path, parts, inner, rfl, inPart, nonempty, begins⟩
      · rcases inductionHypothesis later with
          ⟨ahead, rest, rfl, begins⟩ | ⟨ahead, path, rest, inner, rfl, inLabel, nonempty, begins⟩
        · exact Or.inl ⟨part :: ahead, rest, rfl, begins⟩
        · exact Or.inr ⟨part :: ahead, path, rest, inner, rfl, inLabel, nonempty, begins⟩

private theorem isInfix_of_segments {name text front : Text} {ahead rest : List (Text.Segment Unit)}
    (cut : Text.segments (pattern name) text = ahead ++ (front.map .plain ++ rest)) :
    front <:+: text := by
  have whole := Text.flatMap_text_segments (pattern name) text
  rw [cut, List.flatMap_append, List.flatMap_append, List.flatMap_map] at whole
  have same : (front.flatMap fun c => Text.Segment.text (.plain c : Text.Segment Unit)) = front :=
    List.flatMap_singleton' front
  rw [same] at whole
  exact ⟨_, _, (List.append_assoc _ _ _).trans whole⟩

/-- What begins with a character that the label lacks, and cannot be mistaken for the label, is not
made by it. -/
private theorem Relabelled.isInfix {label text after lead : Text} {c : Char}
    (relabelled : Relabelled label text after) (absent : c ∉ label) (apart : Apart label (c :: lead))
    (inside : c :: lead <:+: after) : c :: lead <:+: text := by
  induction relabelled with
  | nil => exact inside
  | @plain text after d rest inductionHypothesis =>
      rcases List.infix_cons_iff.mp inside with first | later
      · exact ((Relabelled.plain d rest).isPrefix apart first).isInfix
      · exact (inductionHypothesis later).trans (List.suffix_cons d text).isInfix
  | @path matched text after _ _ _ inductionHypothesis =>
      have behind := inductionHypothesis (Text.isInfix_of_isInfix_append absent inside)
      exact behind.trans (List.suffix_append matched text).isInfix

end BlockPath

namespace Diagnostic

open BlockPath (relabel relabelled_relabel shown shown_plain shown_append shown_found Apart pattern)

/-! ## Documents -/

/-- The path of a document that begins like no number, has no parentheses and holds no words of a
label. -/
structure IsOrdinary (document : Text) : Prop where
  begins : ∃ first others, document = first :: others ∧ Text.isAsciiLetter first = true
  unopened : '(' ∉ document
  unclosed : ')' ∉ document
  unlabelled : ¬ "Block ".toList <:+: document

private theorem passes_of_isAsciiLetter {c : Char} (letter : Text.isAsciiLetter c = true) :
    Text.isDigit c = false ∧ c ≠ ':' := by
  have ascii : c.toNat < 128 := by
    simp only [Text.isAsciiLetter, Bool.or_eq_true, Bool.and_eq_true, decide_eq_true_eq] at letter
    omega
  exact Text.of_ascii (p := fun c => Text.isDigit c = false ∧ c ≠ ':')
    (by decide) ascii letter

private theorem notMem_blockLabel {document : Text} {c : Char} (inDocument : c ∉ document)
    (inWords : c ∉ " → Code Block ".toList) (noDigit : Text.isDigit c = false) (index : Nat) :
    c ∉ blockLabel document index := by
  rw [blockLabel, List.mem_append, List.mem_append, not_or, not_or]
  exact ⟨⟨inDocument, inWords⟩, not_mem_of_isNumeral (isNumeral_decimal index) noDigit⟩

namespace IsOrdinary

variable {document : Text} (ordinary : IsOrdinary document) (index : Nat)

include ordinary

private theorem exists_blockLabel_eq : ∃ first others, blockLabel document index = first :: others ∧
    Text.isDigit first = false ∧ first ≠ ':' := by
  obtain ⟨first, others, rfl, letter⟩ := ordinary.begins
  exact ⟨first, _, rfl, passes_of_isAsciiLetter letter⟩

/-- No place is made by a label. -/
private theorem isInfix_of_place {name text line column : Text} (lineNumeral : IsNumeral line)
    (columnNumeral : IsNumeral column)
    (inside : placeText line column <:+: relabel name (blockLabel document index) text) :
    placeText line column <:+: text := by
  have unopened : '(' ∉ blockLabel document index :=
    notMem_blockLabel ordinary.unopened (by decide) (by decide) index
  have unclosed : ')' ∉ blockLabel document index :=
    notMem_blockLabel ordinary.unclosed (by decide) (by decide) index
  have arrow : '→' ∈ blockLabel document index := by simp [blockLabel]
  have noArrow : '→' ∉ placeText line column := by
    simp [placeText, not_mem_of_isNumeral lineNumeral (c := '→') (by decide),
      not_mem_of_isNumeral columnNumeral (c := '→') (by decide)]
  have ending : [')'] <:+ placeText line column :=
    ⟨'(' :: (line ++ ',' :: column), by simp [placeText]⟩
  have apart : Apart (blockLabel document index) (placeText line column) := by
    intro inner inPlace nonempty
    constructor
    · intro begins
      have closed : ')' ∈ inner := by
        rcases List.suffix_or_suffix_of_suffix inPlace ending with short | long
        · rcases List.suffix_cons_iff.mp short with rfl | inNil
          · exact List.mem_singleton_self ')'
          · exact absurd (List.suffix_nil.mp inNil) nonempty
        · exact long.subset (List.mem_singleton_self ')')
      exact unclosed (begins.subset closed)
    · intro begins
      exact noArrow (inPlace.subset (begins.subset arrow))
  exact (relabelled_relabel name _ text).isInfix unopened apart inside

end IsOrdinary

/-! ## Words of a label -/

/-- What ends in a digit and holds no arrow goes no further than the path of a document. -/
private theorem isPrefix_of_arrow {text document back : Text} {digit : Char}
    (isDigit : Text.isDigit digit = true) (ends : text.getLast? = some digit) (noArrow : '→' ∉ text)
    (begins : text <+: document ++ ' ' :: '→' :: back) : text <+: document := by
  obtain ⟨behind, whole⟩ := begins
  have split : document ++ [' '] ++ '→' :: back = text ++ behind := by
    rw [whole]
    simp
  rcases List.prefix_concat_iff.mp (Text.isPrefix_of_append_cons noArrow split) with
    rfl | inDocument
  · rw [List.getLast?_concat] at ends
    cases ends
    exact absurd isDigit (by decide)
  · exact inDocument

section Labelled

variable {index line : Text} {digit : Char} (indexNumeral : IsNumeral index)
  (lineNumeral : IsNumeral line) (isDigit : Text.isDigit digit = true)

include indexNumeral lineNumeral isDigit

private theorem notMem_labelText : '→' ∉ labelText index line [digit] := by
  have other : '→' ≠ digit := by
    rintro rfl
    exact absurd isDigit (by decide)
  have inIndex := not_mem_of_isNumeral indexNumeral (c := '→') (by decide)
  have inLine := not_mem_of_isNumeral lineNumeral (c := '→') (by decide)
  have inWords : '→' ∉ "Code Block ".toList := by decide
  unfold labelText
  generalize "Code Block ".toList = words at inWords
  simp [inWords, inIndex, inLine, other]

end Labelled

private theorem getLast?_labelText (index line : Text) (digit : Char) :
    (labelText index line [digit]).getLast? = some digit := by
  unfold labelText
  generalize "Code Block ".toList = words
  simp [List.getLast?_append, List.getLast?_cons]

private theorem isPrefix_labelText (index line column : Text) :
    "Code Block ".toList <+: labelText index line column :=
  List.prefix_append _ _

private theorem labelText_isPrefix (index line column rest : Text) :
    labelText index line column <+: labelText index line (column ++ rest) := by
  refine ⟨rest, ?_⟩
  unfold labelText
  generalize "Code Block ".toList = words
  simp only [List.append_assoc, List.cons_append]

/-- A label refers to what stands behind it. -/
private theorem labelText_isSuffix (document line column : Text) (index : Nat) :
    labelText (Text.decimal index) line column <:+
      blockLabel document index ++ ':' :: (line ++ ':' :: column) := by
  have words : " → Code Block ".toList = " → ".toList ++ "Code Block ".toList := rfl
  refine ⟨document ++ " → ".toList, ?_⟩
  rw [blockLabel, words]
  unfold labelText
  generalize "Code Block ".toList = words, " → ".toList = arrow
  simp only [List.append_assoc]

/-- A reference that begins with the words of a label takes the number of the label as a whole. -/
private theorem isPrefix_of_words {index line back : Text} {digit : Char} {number : Nat}
    (indexNumeral : IsNumeral index)
    (begins : labelText index line [digit] <+: "Code Block ".toList ++ Text.decimal number ++ back)
    (ends : ∀ c ∈ back.head?, Text.isDigit c = false) : ':' :: (line ++ [':', digit]) <+: back := by
  obtain ⟨behind, whole⟩ := begins
  have rests : index ++ ':' :: (line ++ ':' :: digit :: behind) = Text.decimal number ++ back := by
    have spelled := labelText_append [] index line [digit] behind
    exact List.append_cancel_left (spelled.symm.trans
      (whole.trans (List.append_assoc "Code Block ".toList (Text.decimal number) back)))
  have readIndex := digits?_append_cons indexNumeral (c := ':') (by decide)
    (line ++ ':' :: digit :: behind)
  have readNumber := digits?_eq_some_iff.mpr ⟨isNumeral_decimal number, ends, rfl⟩
  rw [rests, readNumber] at readIndex
  cases readIndex
  exact ⟨behind, by simp⟩

namespace IsOrdinary

variable {document : Text} (ordinary : IsOrdinary document) {index line : Text} {digit : Char}
  (indexNumeral : IsNumeral index) (lineNumeral : IsNumeral line)
  (isDigit : Text.isDigit digit = true)

include ordinary indexNumeral lineNumeral isDigit

/-- A reference that begins inside a label begins with the words of the label, and its line stands
behind the label. -/
private theorem isPrefix_of_inLabel {number : Nat} {inner back : Text}
    (inLabel : inner <:+ blockLabel document number) (nonempty : inner ≠ [])
    (begins : labelText index line [digit] <+: inner ++ back)
    (ends : ∀ c ∈ back.head?, Text.isDigit c = false) :
    ':' :: (line ++ [':', digit]) <+: back := by
  obtain ⟨outer, whole⟩ := inLabel
  have split : outer ++ inner = document ++ (" → Code Block ".toList ++ Text.decimal number) := by
    rw [whole, blockLabel, List.append_assoc]
  rcases List.append_eq_append_iff.mp split with ⟨gap, isDocument, isInner⟩ | ⟨gap, _, isWords⟩
  · -- It cannot begin in the path of the document, which would have to hold it as a whole.
    have inGap : labelText index line [digit] <+: gap := by
      apply isPrefix_of_arrow isDigit (getLast?_labelText index line digit)
        (notMem_labelText indexNumeral lineNumeral isDigit)
      rw [isInner, List.append_assoc] at begins
      exact begins
    have inWords : "Block ".toList <:+: "Code Block ".toList := ⟨"Code ".toList, [], rfl⟩
    have inDocument : gap <:+ document := ⟨outer, isDocument.symm⟩
    exact absurd (inWords.trans (((isPrefix_labelText index line [digit]).trans inGap).isInfix.trans
      inDocument.isInfix)) ordinary.unlabelled
  · -- It begins with a character that the words of the label hold once.
    obtain ⟨first, others, rfl⟩ := List.exists_cons_of_ne_nil nonempty
    obtain rfl : 'C' = first := (List.cons_prefix_cons.mp begins).1
    have noDigit : 'C' ∉ Text.decimal number :=
      not_mem_of_isNumeral (isNumeral_decimal number) (by decide)
    have notAhead : 'C' ∉ " → ".toList := by decide
    have notBehind : 'C' ∉ "ode Block ".toList ++ Text.decimal number := by
      rw [List.mem_append, not_or]
      exact ⟨by decide, noDigit⟩
    obtain ⟨_, _, isOthers⟩ := (List.append_cons_inj_of_notMem notAhead notBehind).mp isWords
    rw [← isOthers] at begins
    exact isPrefix_of_words indexNumeral begins ends

end IsOrdinary

/-! ## References behind and across paths -/

/-- A path is followed by `:n:` and a digit, and no other path has a part in this. -/
def IsColoned (name text : Text) (n : Nat) : Prop :=
  ∃ ahead path rest line digit,
    Text.segments (pattern name) text =
        ahead ++ .found path () :: ((':' :: (line ++ [':', digit])).map .plain ++ rest) ∧
      Text.isDigit digit = true ∧ Text.parseDecimal? line = some n

/-- Words that begin like a label stand before a path, and with the path of the document they are a
reference to the line. -/
def IsCompleted (name document text : Text) (n : Nat) : Prop :=
  ∃ ahead begun path rest index line digit,
    Text.segments (pattern name) text = ahead ++ (begun.map .plain ++ .found path () :: rest) ∧
      begun <+: "Code Block ".toList ∧ labelText index line [digit] <+: begun ++ document ∧
        IsNumeral index ∧ Text.isDigit digit = true ∧ Text.parseDecimal? line = some n

private theorem isNumeral_of_parseDecimal? {line : Text} {n : Nat}
    (parsed : Text.parseDecimal? line = some n) : IsNumeral line :=
  isNumeral_of_spells (Text.parseDecimal?_eq_some_iff.mp parsed).2

private theorem isNumeral_singleton {digit : Char} (isDigit : Text.isDigit digit = true) :
    IsNumeral [digit] :=
  ⟨List.cons_ne_nil digit [], fun _ member => List.mem_singleton.mp member ▸ isDigit⟩

private theorem refers_of_isInfix_labelText {index line text : Text} {digit : Char} {n : Nat}
    (indexNumeral : IsNumeral index) (isDigit : Text.isDigit digit = true)
    (parsed : Text.parseDecimal? line = some n)
    (inside : labelText index line [digit] <:+: text) : Refers text n :=
  refers_iff.mpr ⟨line, [digit], isNumeral_of_parseDecimal? parsed, isNumeral_singleton isDigit,
    parsed, Or.inr ⟨index, indexNumeral, inside⟩⟩

private theorem refers_of_isColoned {name text : Text} {n : Nat} (coloned : IsColoned name text n)
    (document : Text) (index : Nat) : Refers (relabel name (blockLabel document index) text) n := by
  obtain ⟨ahead, path, rest, line, digit, cut, isDigit, parsed⟩ := coloned
  refine refers_of_isInfix_labelText (isNumeral_decimal index) isDigit parsed ?_
  change _ <:+: shown _ (Text.segments (pattern name) text)
  rw [cut, shown_append, shown_found, shown_plain, ← List.append_assoc (blockLabel document index)]
  exact (labelText_isSuffix document line [digit] index).isInfix.trans (List.infix_append' _ _ _)

private theorem refers_of_isCompleted {name document text : Text} {n : Nat}
    (completed : IsCompleted name document text n) (index : Nat) :
    Refers (relabel name (blockLabel document index) text) n := by
  obtain ⟨ahead, begun, path, rest, number, line, digit, cut, _, begins, numeral, isDigit, parsed⟩ :=
    completed
  refine refers_of_isInfix_labelText numeral isDigit parsed (begins.isInfix.trans ?_)
  have inLabel : begun ++ document <+: begun ++ blockLabel document index := by
    rw [blockLabel, List.append_assoc, List.prefix_append_right_inj]
    exact List.prefix_append _ _
  change _ <:+: shown _ (Text.segments (pattern name) text)
  rw [cut, shown_append, shown_plain, shown_found, ← List.append_assoc begun]
  exact inLabel.isInfix.trans (List.infix_append' _ _ _)

section Found

variable {document name text index line : Text} {digit : Char} {n number : Nat}
  (indexNumeral : IsNumeral index) (isDigit : Text.isDigit digit = true)
  (parsed : Text.parseDecimal? line = some n)

include indexNumeral isDigit parsed

/-- A reference that begins outside the paths goes on in a document. -/
private theorem isCompleted_of_isPrefix (unlabelled : ¬ "Code Block ".toList <:+: text)
    {ahead parts : List (Text.Segment Unit)}
    (cut : Text.segments (pattern name) text = ahead ++ parts)
    (begins : labelText index line [digit] <+: shown (blockLabel document number) parts) :
    IsCompleted name document text n := by
  have words := isPrefix_labelText index line [digit]
  have lineNumeral := isNumeral_of_parseDecimal? parsed
  rcases BlockPath.isPrefix_shown_cases begins with
    ⟨rest, rfl⟩ | ⟨begun, path, rest, completed, rfl, whole, nonempty, goesOn⟩
  · exact absurd (words.isInfix.trans (BlockPath.isInfix_of_segments cut)) unlabelled
  · have ends : completed.getLast? = some digit := by
      rw [← getLast?_labelText index line digit, whole, List.getLast?_append_of_ne_nil _ nonempty]
    have noArrow : '→' ∉ completed := fun member =>
      notMem_labelText indexNumeral lineNumeral isDigit (whole ▸ List.mem_append_right begun member)
    have inDocument : completed <+: document := by
      rw [blockLabel, List.append_assoc, List.append_assoc] at goesOn
      exact isPrefix_of_arrow isDigit ends noArrow goesOn
    have begins : begun <+: labelText index line [digit] := whole ▸ List.prefix_append begun completed
    have begunWords : begun <+: "Code Block ".toList :=
      (List.prefix_or_prefix_of_prefix words begins).resolve_left fun more =>
        unlabelled (more.isInfix.trans (BlockPath.isInfix_of_segments cut))
    refine ⟨ahead, begun, path, rest, index, line, digit, cut, begunWords, ?_, indexNumeral, isDigit,
      parsed⟩
    rw [whole, List.prefix_append_right_inj]
    exact inDocument

/-- A reference that begins inside a label takes its line from behind the path. -/
private theorem IsOrdinary.isColoned_of_isPrefix (ordinary : IsOrdinary document)
    {ahead rest : List (Text.Segment Unit)} {path inner : Text}
    (cut : Text.segments (pattern name) text = ahead ++ .found path () :: rest)
    (inLabel : inner <:+ blockLabel document number) (nonempty : inner ≠ [])
    (begins : labelText index line [digit] <+: inner ++ shown (blockLabel document number) rest) :
    IsColoned name text n := by
  have lineNumeral := isNumeral_of_parseDecimal? parsed
  obtain ⟨first, others, isLabel, noDigit, noColon⟩ := ordinary.exists_blockLabel_eq number
  have ends : ∀ c ∈ (shown (blockLabel document number) rest).head?, Text.isDigit c = false := by
    refine BlockPath.isDigit_eq_false_of_head?_shown (by simp [isLabel]) ?_
      (cut ▸ Text.cut_segments (BlockPath.consumes_pattern name) text)
    rw [isLabel]
    rintro c ⟨⟩
    exact noDigit
  have behind := ordinary.isPrefix_of_inLabel indexNumeral lineNumeral isDigit inLabel nonempty
    begins ends
  rcases BlockPath.isPrefix_shown_cases behind with
    ⟨rest, rfl⟩ | ⟨begun, _, _, completed, rfl, whole, filled, goesOn⟩
  · exact ⟨ahead, path, rest, line, digit, cut, isDigit, parsed⟩
  · -- Another label would begin with a character that is neither a colon nor a digit.
    obtain ⟨c, more, rfl⟩ := List.exists_cons_of_ne_nil filled
    rw [isLabel] at goesOn
    obtain ⟨rfl, _⟩ := List.cons_prefix_cons.mp goesOn
    have member : c ∈ ':' :: (line ++ [':', digit]) := by
      rw [whole]
      exact List.mem_append_right begun List.mem_cons_self
    have inLine := not_mem_of_isNumeral lineNumeral noDigit
    have other : c ≠ digit := by
      rintro rfl
      rw [isDigit] at noDigit
      cases noDigit
    simp [noColon, inLine, other] at member

end Found

/-- Every reference by a label comes from what stands behind a path or across one. -/
theorem IsOrdinary.isColoned_or_isCompleted {document : Text} (ordinary : IsOrdinary document)
    {name text : Text} (unlabelled : ¬ "Code Block ".toList <:+: text) {number : Nat}
    {index line column : Text} {n : Nat} (indexNumeral : IsNumeral index)
    (columnNumeral : IsNumeral column) (parsed : Text.parseDecimal? line = some n)
    (inside : labelText index line column <:+: relabel name (blockLabel document number) text) :
    IsColoned name text n ∨ IsCompleted name document text n := by
  obtain ⟨digit, more, rfl⟩ := List.exists_cons_of_ne_nil columnNumeral.1
  have isDigit := columnNumeral.2 digit List.mem_cons_self
  have short := (labelText_isPrefix index line [digit] more).isInfix.trans inside
  have filled : labelText index line [digit] ≠ [] := List.cons_ne_nil _ _
  rcases BlockPath.isInfix_shown_cases filled short with
    ⟨ahead, parts, cut, begins⟩ | ⟨ahead, path, rest, inner, cut, inLabel, nonempty, begins⟩
  · exact Or.inr (isCompleted_of_isPrefix indexNumeral isDigit parsed unlabelled cut begins)
  · exact Or.inl (ordinary.isColoned_of_isPrefix indexNumeral isDigit parsed cut inLabel nonempty
      begins)

/-- The lines at fault of a scrubbed diagnostic ascend. They are those from before, those that stand
behind a path, and those that the path of the document tells to words before a path that begin like a
label. -/
theorem errorLines_scrub (scratch : ScratchDir) (unopened : '(' ∉ scratch.name)
    (unclosed : ')' ∉ scratch.name) {document : Text} (ordinary : IsOrdinary document) (index : Nat)
    (diagnostic : Diagnostic) (unlabelled : ¬ "Code Block ".toList <:+: diagnostic.detail) :
    let scrubbed := diagnostic.scrub scratch.blockPattern (blockLabel document index)
    scrubbed.errorLines.Pairwise (· < ·) ∧
      ∀ n, n ∈ scrubbed.errorLines ↔
        n ∈ diagnostic.errorLines ∨ IsColoned scratch.name diagnostic.detail n ∨
          IsCompleted scratch.name document diagnostic.detail n := by
  intro scrubbed
  refine ⟨pairwise_referredLines scrubbed.detail, fun n => ?_⟩
  rw [mem_errorLines_iff, mem_errorLines_iff]
  have detail : scrubbed.detail =
      relabel scratch.name (blockLabel document index) diagnostic.detail := rfl
  rw [detail]
  constructor
  · intro refers
    obtain ⟨line, column, lineNumeral, columnNumeral, parsed, inside⟩ := refers_iff.mp refers
    rcases inside with place | ⟨number, indexNumeral, label⟩
    · have inDetail := ordinary.isInfix_of_place index lineNumeral columnNumeral place
      exact Or.inl (refers_of_isInfix lineNumeral columnNumeral parsed inDetail)
    · exact Or.inr (ordinary.isColoned_or_isCompleted unlabelled indexNumeral columnNumeral parsed
        label)
  · rintro (refers | coloned | completed)
    · obtain ⟨line, column, lineNumeral, columnNumeral, parsed, inside⟩ := refers_iff.mp refers
      rcases inside with place | ⟨number, indexNumeral, label⟩
      · have kept : placeText line column <:+:
            relabel scratch.name (blockLabel document index) diagnostic.detail :=
          isInfix_relabel unopened unclosed lineNumeral columnNumeral place
        exact refers_of_isInfix lineNumeral columnNumeral parsed kept
      · exact absurd ((isPrefix_labelText number line column).isInfix.trans label) unlabelled
    · exact refers_of_isColoned coloned document index
    · exact refers_of_isCompleted completed index

/-- A path with a place behind it, and one with a line and a column. -/
theorem errorLines_scrub_behind_paths :
    let scratch : ScratchDir := ⟨"docs".toList, "./docs".toList⟩
    let document := "README.md".toList
    let diagnostic :=
      plain .typeCheck "m".toList "docs/block-1.ts(4,1) docs/block-1.ts:7:2".toList
    let scrubbed := diagnostic.scrub scratch.blockPattern (blockLabel document 3)
    ('(' ∉ scratch.name ∧ ')' ∉ scratch.name ∧ IsOrdinary document ∧
        ¬ "Code Block ".toList <:+: diagnostic.detail) ∧
      4 ∈ diagnostic.errorLines ∧ 7 ∉ diagnostic.errorLines ∧
        4 ∈ scrubbed.errorLines ∧ 7 ∈ scrubbed.errorLines := by
  intro scratch document diagnostic scrubbed
  have unopened : '(' ∉ scratch.name := by decide
  have unclosed : ')' ∉ scratch.name := by decide
  have ordinary : IsOrdinary document :=
    ⟨⟨'R', _, rfl, by decide⟩, by decide, by decide, by decide +kernel⟩
  have unlabelled : ¬ "Code Block ".toList <:+: diagnostic.detail := by decide +kernel
  obtain ⟨_, exact⟩ := errorLines_scrub scratch unopened unclosed ordinary 3 diagnostic unlabelled
  have place : 4 ∈ diagnostic.errorLines := by decide +kernel
  have coloned : IsColoned scratch.name diagnostic.detail 7 :=
    ⟨(Text.segments (pattern scratch.name) diagnostic.detail).take 7, "docs/block-1.ts".toList, [],
      ['7'], '2', by decide +kernel, by decide, by decide⟩
  exact ⟨⟨unopened, unclosed, ordinary, unlabelled⟩, place, by decide +kernel,
    (exact 4).mpr (Or.inl place), (exact 7).mpr (Or.inr (Or.inl coloned))⟩

/-- Words before a path become a label: the lines of places and those behind paths do not account for
the line that the document gives them. -/
theorem errorLines_scrub_across_path :
    let scratch : ScratchDir := ⟨"compiled-docs".toList, "./compiled-docs".toList⟩
    let document := "ock 1:2:3.md".toList
    let diagnostic := plain .typeCheck "m".toList "Code Blcompiled-docs/block-1.ts".toList
    let scrubbed := diagnostic.scrub scratch.blockPattern (blockLabel document 1)
    (∀ c ∈ scratch.name, BlockPath.isDelimiter c = false) ∧ IsOrdinary document ∧
      ¬ "Code Block ".toList <:+: diagnostic.detail ∧
        ¬ ∀ n, n ∈ scrubbed.errorLines ↔
          n ∈ diagnostic.errorLines ∨ IsColoned scratch.name diagnostic.detail n := by
  intro scratch document diagnostic scrubbed
  have ordinary : IsOrdinary document :=
    ⟨⟨'o', _, rfl, by decide⟩, by decide, by decide, by decide +kernel⟩
  refine ⟨Text.forall_mem_of_all (by decide), ordinary, by decide +kernel, fun exact => ?_⟩
  rcases (exact 2).mp (by decide +kernel) with before | ⟨ahead, path, rest, line, digit, cut, _, _⟩
  · exact absurd before (by decide +kernel)
  · -- No colon stands behind the path.
    have colon : Text.Segment.plain ':' ∈ Text.segments (pattern scratch.name) diagnostic.detail := by
      rw [cut]
      simp
    exact absurd colon (by decide +kernel)

end Diagnostic

end DocCheck
