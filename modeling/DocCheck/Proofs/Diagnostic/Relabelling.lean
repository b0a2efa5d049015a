import DocCheck.Check.Config
import DocCheck.Proofs.Diagnostic.Delimiter

/-!
Texts with a label in place of the paths of block files. Main statements: a text that delimiters set
off is not changed if it holds no slash, and a label that holds none of the marks of a report is never
taken for a part of one.
-/

namespace DocCheck

namespace BlockPath

/-! ## Replaced texts -/

/-- The text with a label in place of the paths of block files. -/
def relabel (name label text : Text) : Text :=
  Text.replaceAll (pattern name) (fun _ _ => label) text

/-- `Relabelled label text after` means that in `after` the label stands for parts of the text that
are not empty, each with a slash in it or behind it. -/
inductive Relabelled (label : Text) : Text → Text → Prop
  | nil : Relabelled label [] []
  | plain {text after : Text} (c : Char) :
      Relabelled label text after → Relabelled label (c :: text) (c :: after)
  | path {matched text after : Text} :
      matched ≠ [] → (∃ c ∈ matched ++ text, isSlash c = true) → Relabelled label text after →
      Relabelled label (matched ++ text) (label ++ after)

private theorem afterBlock?_eq_none {name text : Text} (level : ∀ c ∈ text, isSlash c = false) :
    afterBlock? name text = none := by
  rw [afterBlock?]
  split
  · next slash rest stripped =>
      have inText : slash ∈ text := by
        rw [← List.append_eq_of_isPrefixOf?_eq_some stripped]
        exact List.mem_append_right _ List.mem_cons_self
      rw [level slash inText, if_neg Bool.false_ne_true]
  · rfl

private theorem pattern_eq_none {name text : Text} (level : ∀ c ∈ text, isSlash c = false)
    (before : Option Char) : pattern name before text = none := by
  have directories : afterDirectories? name text = none := by
    induction text with
    | nil => rfl
    | cons c rest inductionHypothesis =>
        rw [afterDirectories?, inductionHypothesis fun d member =>
          level d (List.mem_cons_of_mem _ member), level c List.mem_cons_self]
        split <;> rfl
  rw [pattern, directories, afterBlock?_eq_none level]
  rfl

private theorem relabelled_of_cut {name label text : Text} {before : Option Char}
    {parts : List (Text.Segment Unit)} (cut : Text.Cut (pattern name) before text parts) :
    Relabelled label text (parts.flatMap (Text.Segment.replaceWith fun _ _ => label)) := by
  induction cut with
  | done _ => exact .nil
  | plain _ _ inductionHypothesis => exact .plain _ inductionHypothesis
  | @found before matched after _ _ found nonempty _ inductionHypothesis =>
      refine .path nonempty (Classical.byContradiction fun level => ?_) inductionHypothesis
      have noSlash : ∀ c ∈ matched ++ after, isSlash c = false := fun c member =>
        Bool.eq_false_iff.mpr fun slash => level ⟨c, member, slash⟩
      rw [pattern_eq_none noSlash before] at found
      cases found

theorem relabelled_relabel (name label text : Text) :
    Relabelled label text (relabel name label text) :=
  relabelled_of_cut (Text.cut_segments (consumes_pattern name) text)

theorem relabel_nil (name label : Text) : relabel name label [] = [] :=
  replaceAll_nil name label

namespace Relabelled

variable {label text after : Text}

theorem eq_nil_iff (relabelled : Relabelled label text after) (filled : label ≠ []) :
    after = [] ↔ text = [] := by
  cases relabelled with
  | nil => simp
  | plain c _ => simp
  | path nonempty _ _ => simp [filled, nonempty]

/-- Without slashes there is no path. -/
theorem eq_of_level (relabelled : Relabelled label text after)
    (level : ∀ c ∈ text, isSlash c = false) : after = text := by
  induction relabelled with
  | nil => rfl
  | plain c _ inductionHypothesis =>
      rw [inductionHypothesis fun d member => level d (List.mem_cons_of_mem _ member)]
  | path _ slashed _ _ =>
      obtain ⟨c, member, slash⟩ := slashed
      rw [level c member] at slash
      cases slash

private theorem mem_or_mem (relabelled : Relabelled label text after) {c : Char}
    (member : c ∈ after) :
    c ∈ text ∨ c ∈ label := by
  induction relabelled with
  | nil => cases member
  | plain d _ inductionHypothesis =>
      rcases List.mem_cons.mp member with rfl | later
      · exact Or.inl List.mem_cons_self
      · exact (inductionHypothesis later).imp_left (List.mem_cons_of_mem _)
  | path _ _ _ inductionHypothesis =>
      rcases List.mem_append.mp member with inLabel | later
      · exact Or.inr inLabel
      · exact (inductionHypothesis later).imp_left (List.mem_append_right _)

/-- A replaced text ends as the text or as the label does. -/
private theorem getLast?_cases (relabelled : Relabelled label text after) (filled : label ≠ [])
    {c : Char}
    (last : after.getLast? = some c) : text.getLast? = some c ∨ label.getLast? = some c := by
  induction relabelled with
  | nil => cases last
  | @plain text after d rest inductionHypothesis =>
      cases after with
      | nil =>
          rw [(rest.eq_nil_iff filled).mp rfl]
          exact Or.inl last
      | cons e after =>
          rw [List.getLast?_cons_cons] at last
          refine (inductionHypothesis last).imp_left fun ends => ?_
          rw [List.getLast?_cons, ends]
          rfl
  | @path matched text after _ _ rest inductionHypothesis =>
      rw [List.getLast?_append] at last
      cases ends : after.getLast? with
      | none =>
          rw [ends] at last
          exact Or.inr last
      | some e =>
          rw [ends] at last
          rw [List.getLast?_append]
          refine (inductionHypothesis (ends.trans last)).imp_left fun same => ?_
          rw [same]
          rfl

end Relabelled

theorem notMem_relabel {name label text : Text} {c : Char} (inText : c ∉ text) (inLabel : c ∉ label) :
    c ∉ relabel name label text := fun member =>
  ((relabelled_relabel name label text).mem_or_mem member).elim inText inLabel

/-- Wherever the label begins inside a text, one of the two goes on differently from the other. -/
def Apart (label text : Text) : Prop :=
  ∀ inner, inner <:+ text → inner ≠ [] → ¬ inner <+: label ∧ ¬ label <+: inner

/-- What the label cannot be mistaken for is not made by it. -/
theorem Relabelled.isPrefix {label text after lead : Text}
    (relabelled : Relabelled label text after) (apart : Apart label lead)
    (begins : lead <+: after) : lead <+: text := by
  induction relabelled generalizing lead with
  | nil => exact begins
  | plain _ _ inductionHypothesis =>
      cases lead with
      | nil => exact List.nil_prefix
      | cons d lead =>
          obtain ⟨rfl, goesOn⟩ := List.cons_prefix_cons.mp begins
          have apartRest : Apart label lead := fun inner inLead =>
            apart inner (inLead.trans (List.suffix_cons d lead))
          exact List.cons_prefix_cons.mpr ⟨rfl, inductionHypothesis apartRest goesOn⟩
  | @path matched text after _ _ _ _ =>
      cases lead with
      | nil => exact List.nil_prefix
      | cons d lead =>
          have here := apart (d :: lead) (List.suffix_refl _) (List.cons_ne_nil d lead)
          rcases List.prefix_or_prefix_of_prefix begins (List.prefix_append label after) with
            inLabel | overLabel
          · exact absurd inLabel here.1
          · exact absurd overLabel here.2

theorem isDelimiter_of_isWhite {c : Char} (white : Text.isWhite c = true) :
    isDelimiter c = true := by
  simp [isDelimiter, white]

section Delimited

variable {name : Text} (undelimited : ∀ c ∈ name, isDelimiter c = false)

include undelimited

theorem relabel_append_delimiter (label text : Text) {d : Char} (delimits : isDelimiter d = true)
    (rest : Text) :
    relabel name label (text ++ d :: rest) = relabel name label text ++ d :: relabel name label rest :=
  replaceAll_append_delimiter undelimited delimits label text rest

/-- A text without slashes that a delimiter ends is not changed, whatever follows it. -/
theorem relabel_append_of_level (label : Text) {lead : Text} (level : ∀ c ∈ lead, isSlash c = false)
    {d : Char} (delimits : isDelimiter d = true) (rest : Text) :
    relabel name label (lead ++ d :: rest) = lead ++ d :: relabel name label rest := by
  rw [relabel_append_delimiter undelimited label lead delimits,
    (relabelled_relabel name label lead).eq_of_level level]

theorem isPrefix_relabel_iff {label lead : Text} {d : Char} (delimits : isDelimiter d = true)
    (level : ∀ c ∈ lead, isSlash c = false) (apart : Apart label (lead ++ [d])) (text : Text) :
    lead ++ [d] <+: relabel name label text ↔ lead ++ [d] <+: text := by
  refine ⟨(relabelled_relabel name label text).isPrefix apart, ?_⟩
  rintro ⟨rest, rfl⟩
  rw [List.append_assoc, List.singleton_append, relabel_append_of_level undelimited label level
    delimits]
  exact ⟨relabel name label rest, by simp⟩

end Delimited

/-! ## Labels -/

/-- A label that is not taken for a part of what a report is read by. -/
structure Unmistakable (label : Text) : Prop where
  begins : ∀ c ∈ label.head?, Text.isWhite c = false
  ends : ∀ c ∈ label.getLast?, Text.isWhite c = false
  arrow : '→' ∈ label
  unopened : '(' ∉ label
  unbroken : '\n' ∉ label
  uncoloned : ¬ ": ".toList <:+: label

theorem unmistakable_blockLabel {document : Text} {index : Nat}
    (begins : ∀ c ∈ (blockLabel document index).head?, Text.isWhite c = false)
    (unopened : '(' ∉ blockLabel document index) (unbroken : '\n' ∉ blockLabel document index)
    (uncoloned : ¬ ": ".toList <:+: blockLabel document index) :
    Unmistakable (blockLabel document index) where
  begins := begins
  ends := by
    intro c last
    have number := isNumber_decimal index
    have inNumber : c ∈ Text.decimal index := by
      rw [blockLabel, List.getLast?_append, List.getLast?_eq_some_getLast number.1] at last
      exact List.mem_of_getLast? ((List.getLast?_eq_some_getLast number.1).trans last)
    have digit := isDigit_of_isNumber number inNumber
    refine Bool.eq_false_iff.mpr fun white => ?_
    rw [(passes_of_isDelimiter (isDelimiter_of_isWhite white)).2.1] at digit
    cases digit
  arrow := by simp [blockLabel]
  unopened := unopened
  unbroken := unbroken
  uncoloned := uncoloned

theorem Unmistakable.filled {label : Text} (unmistakable : Unmistakable label) : label ≠ [] :=
  List.ne_nil_of_mem unmistakable.arrow

theorem Unmistakable.isEmpty_relabel {label : Text} (unmistakable : Unmistakable label)
    (name text : Text) : (relabel name label text).isEmpty = text.isEmpty := by
  rw [Bool.eq_iff_iff, List.isEmpty_iff, List.isEmpty_iff]
  exact (relabelled_relabel name label text).eq_nil_iff unmistakable.filled

/-- White space at the end of a replaced text has been at the end of the text. -/
theorem Unmistakable.getLast?_relabel {name label text : Text} (unmistakable : Unmistakable label)
    {c : Char} (white : Text.isWhite c = true)
    (last : (relabel name label text).getLast? = some c) : text.getLast? = some c := by
  refine ((relabelled_relabel name label text).getLast?_cases unmistakable.filled
    last).resolve_right fun inLabel => ?_
  rw [unmistakable.ends c inLabel] at white
  cases white

/-- What ends in a colon and a space is apart from such a label. -/
theorem Unmistakable.apart {label lead : Text} (unmistakable : Unmistakable label)
    (plain : '→' ∉ lead) : Apart label (lead ++ ": ".toList) := by
  intro inner inText nonempty
  constructor
  · intro begins
    rcases List.suffix_or_suffix_of_suffix inText (List.suffix_append lead ": ".toList) with
      short | long
    · rcases List.suffix_cons_iff.mp short with rfl | short
      · exact unmistakable.uncoloned begins.isInfix
      · rcases List.suffix_cons_iff.mp short with rfl | short
        · obtain ⟨rest, rfl⟩ := begins
          exact absurd (unmistakable.begins ' ' rfl) (by decide)
        · exact nonempty (List.suffix_nil.mp short)
    · exact unmistakable.uncoloned (long.isInfix.trans begins.isInfix)
  · intro begins
    have inLead := inText.subset (begins.subset unmistakable.arrow)
    rcases List.mem_append.mp inLead with arrow | arrow
    · exact plain arrow
    · exact absurd arrow (by decide)

end BlockPath

end DocCheck
