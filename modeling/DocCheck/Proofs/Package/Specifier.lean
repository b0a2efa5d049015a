import DocCheck.Package.Import
import DocCheck.Proofs.Text.Cut
import DocCheck.Proofs.Text.Basic
import Mathlib.Data.List.TakeWhile

/-!
What a module specifier looks like in source text. A specifier is found exactly where a keyword is
introduced as a word of its own, a quote follows, and the same quote closes the target on the same
line. The target decides nothing else, so that another target can stand in its place.
-/

namespace DocCheck

namespace Specifier

/-- A character that a target can stand between. -/
def isQuote (c : Char) : Bool :=
  c = '\'' || c = '"'

/-! ## Quoted targets -/

/-- A target is closed by the quote that opens it, on the same line. -/
theorem quoted?_eq_some_iff {text target after : Text} {quote : Char} :
    quoted? text = some (quote, target, after) ↔
      isQuote quote = true ∧ (∀ c ∈ target, c ≠ quote ∧ c ≠ '\n') ∧
        text = quote :: (target ++ quote :: after) := by
  constructor
  · intro read
    cases text with
    | nil => simp [quoted?] at read
    | cons first rest =>
        simp only [quoted?, Text.drop_length_takeWhile] at read
        split at read
        · next opens =>
            split at read
            · next c behind closing =>
                split at read
                · next same =>
                    obtain ⟨rfl, rfl, rfl⟩ : first = quote ∧ _ = target ∧ behind = after := by
                      simpa using read
                    refine ⟨opens, ?_, ?_⟩
                    · intro d member
                      simpa using List.all_eq_true.mp List.all_takeWhile d member
                    · subst same
                      rw [← closing, List.takeWhile_append_dropWhile]
                · cases read
            · cases read
        · cases read
  · rintro ⟨opens, inside, rfl⟩
    have taken : (target ++ quote :: after).takeWhile (fun c => c != quote && c != '\n') =
        target := by
      rw [List.takeWhile_append_of_pos (by simpa using inside)]
      simp
    have opens' : (decide (quote = '\'') || decide (quote = '"')) = true := opens
    simp [quoted?, taken, opens']

/-! ## Introductions -/

theorem isWhite_of_isQuote {c : Char} (quote : isQuote c = true) : Text.isWhite c = false := by
  simp only [isQuote, Bool.or_eq_true, decide_eq_true_eq] at quote
  rcases quote with rfl | rfl <;> decide

/-- A keyword holds no quote. -/
private theorem not_mem_keyword {keyword : Text} {c : Char}
    (known : keyword ∈ ["from".toList, "import".toList, "require".toList])
    (quote : isQuote c = true) : c ∉ keyword := by
  simp only [isQuote, Bool.or_eq_true, decide_eq_true_eq] at quote
  simp only [List.mem_cons, List.not_mem_nil, or_false] at known
  rcases known with rfl | rfl | rfl <;> rcases quote with rfl | rfl <;> decide

private theorem afterKeyword?_append_quote {keyword : Text} {quote : Char}
    (isQuoted : isQuote quote = true) (absent : quote ∉ keyword) (lead rest : Text) :
    afterKeyword? keyword (lead ++ quote :: rest) =
      (afterKeyword? keyword lead).map (· ++ quote :: rest) := by
  rw [afterKeyword?, afterKeyword?, Text.isPrefixOf?_append_cons absent, Option.map_map,
    Option.map_map]
  congr 1
  funext behind
  exact Text.dropWhile_append_cons (isWhite_of_isQuote isQuoted) behind rest

private theorem afterCall?_append_quote {keyword : Text} {quote : Char}
    (isQuoted : isQuote quote = true) (absent : quote ∉ keyword) (lead rest : Text) :
    afterCall? keyword (lead ++ quote :: rest) =
      (afterCall? keyword lead).map (· ++ quote :: rest) := by
  have noParenthesis : quote ≠ '(' := by
    rintro rfl
    exact absurd isQuoted (by decide)
  rw [afterCall?, afterCall?, afterKeyword?_append_quote isQuoted absent]
  rcases afterKeyword? keyword lead with _ | behind
  · rfl
  · cases behind with
    | nil => simp [noParenthesis]
    | cons c behind =>
        by_cases parenthesis : c = '('
        · subst parenthesis
          simp [Text.dropWhile_append_cons (isWhite_of_isQuote isQuoted)]
        · simp [parenthesis]

private theorem isQuote_eq_false_of_isWhite {c : Char} (white : Text.isWhite c = true) :
    isQuote c = false := by
  rw [Bool.eq_false_iff]
  intro quote
  rw [isWhite_of_isQuote quote] at white
  cases white

private theorem afterKeyword?_eq_some_iff {keyword text behind : Text} :
    afterKeyword? keyword text = some behind ↔
      ∃ white, (∀ c ∈ white, Text.isWhite c = true) ∧
        (∀ c ∈ behind.head?, Text.isWhite c = false) ∧ text = keyword ++ (white ++ behind) := by
  rw [afterKeyword?, Option.map_eq_some_iff]
  constructor
  · intro read
    obtain ⟨rest, stripped, rfl⟩ := read
    refine ⟨rest.takeWhile Text.isWhite, ?_, ?_, ?_⟩
    · exact fun c member => List.all_eq_true.mp List.all_takeWhile c member
    · intro c first
      have stops := List.head?_dropWhile_not Text.isWhite rest
      rw [first] at stops
      exact stops
    · rw [List.takeWhile_append_dropWhile]
      exact (List.append_eq_of_isPrefixOf?_eq_some stripped).symm
  · intro parts
    obtain ⟨white, isWhite, stops, rfl⟩ := parts
    refine ⟨white ++ behind, Text.isPrefixOf?_append keyword _, ?_⟩
    rw [List.dropWhile_append_of_pos isWhite]
    cases behind with
    | nil => rfl
    | cons c behind => exact List.dropWhile_cons_of_neg (by simp [stops c rfl])

private theorem exists_of_afterKeyword? {keyword text behind : Text}
    (noQuote : ∀ c, isQuote c = true → c ∉ keyword)
    (read : afterKeyword? keyword text = some behind) :
    ∃ passed, text = passed ++ behind ∧ ∀ c ∈ passed, isQuote c = false := by
  obtain ⟨white, isWhite, _, rfl⟩ := afterKeyword?_eq_some_iff.mp read
  refine ⟨keyword ++ white, by rw [List.append_assoc], ?_⟩
  intro c member
  rcases List.mem_append.mp member with inKeyword | inSpace
  · rw [Bool.eq_false_iff]
    exact fun quote => noQuote c quote inKeyword
  · exact isQuote_eq_false_of_isWhite (isWhite c inSpace)

private theorem exists_of_afterCall? {keyword text behind : Text}
    (noQuote : ∀ c, isQuote c = true → c ∉ keyword)
    (read : afterCall? keyword text = some behind) :
    ∃ passed, text = passed ++ behind ∧ ∀ c ∈ passed, isQuote c = false := by
  rw [afterCall?] at read
  split at read
  · next rest opened =>
      cases read
      obtain ⟨passed, rfl, unquoted⟩ := exists_of_afterKeyword? noQuote opened
      refine ⟨passed ++ '(' :: rest.takeWhile Text.isWhite, ?_, ?_⟩
      · rw [List.append_assoc, List.cons_append, List.takeWhile_append_dropWhile]
      · intro c member
        rcases List.mem_append.mp member with inPassed | inSpace
        · exact unquoted c inPassed
        · rcases List.mem_cons.mp inSpace with rfl | inSpace
          · decide
          · exact isQuote_eq_false_of_isWhite (List.all_eq_true.mp List.all_takeWhile c inSpace)
  · cases read

/-- What an introduction passes holds no quote. -/
private theorem exists_of_introduction {introduction : Text → Option Text}
    (known : introduction ∈ introductions) {text behind : Text}
    (read : introduction text = some behind) :
    ∃ passed, text = passed ++ behind ∧ ∀ c ∈ passed, isQuote c = false := by
  simp only [introductions, List.mem_cons, List.not_mem_nil, or_false] at known
  rcases known with rfl | rfl | rfl | rfl
  · exact exists_of_afterKeyword? (fun _ => not_mem_keyword (by simp)) read
  · exact exists_of_afterKeyword? (fun _ => not_mem_keyword (by simp)) read
  · exact exists_of_afterCall? (fun _ => not_mem_keyword (by simp)) read
  · exact exists_of_afterCall? (fun _ => not_mem_keyword (by simp)) read

private theorem introduction_append_quote {introduction : Text → Option Text}
    (known : introduction ∈ introductions) {quote : Char} (isQuoted : isQuote quote = true)
    (lead rest : Text) :
    introduction (lead ++ quote :: rest) = (introduction lead).map (· ++ quote :: rest) := by
  simp only [introductions, List.mem_cons, List.not_mem_nil, or_false] at known
  rcases known with rfl | rfl | rfl | rfl
  · exact afterKeyword?_append_quote isQuoted (not_mem_keyword (by simp) isQuoted) lead rest
  · exact afterKeyword?_append_quote isQuoted (not_mem_keyword (by simp) isQuoted) lead rest
  · exact afterCall?_append_quote isQuoted (not_mem_keyword (by simp) isQuoted) lead rest
  · exact afterCall?_append_quote isQuoted (not_mem_keyword (by simp) isQuoted) lead rest

/-! ## Specifiers -/

/-- A lead that makes a specifier of the quoted text behind it, where it follows `before`. -/
def Introduces (before : Option Char) (lead : Text) : Prop :=
  Text.endsWord before = true ∧ ∃ introduction ∈ introductions, introduction lead = some []

/-- What can stand before a quoted target: a keyword with white space behind it or, where the keyword
is called, with white space on both sides of a parenthesis. -/
inductive IsLead : Text → Prop
  | bare {keyword white : Text} :
      keyword ∈ ["from".toList, "import".toList] → (∀ c ∈ white, Text.isWhite c = true) →
      IsLead (keyword ++ white)
  | called {keyword white inner : Text} :
      keyword ∈ ["import".toList, "require".toList] → (∀ c ∈ white, Text.isWhite c = true) →
      (∀ c ∈ inner, Text.isWhite c = true) → IsLead (keyword ++ (white ++ '(' :: inner))

private theorem afterCall?_eq_some_nil_iff {keyword text : Text} :
    afterCall? keyword text = some [] ↔
      ∃ white inner, (∀ c ∈ white, Text.isWhite c = true) ∧
        (∀ c ∈ inner, Text.isWhite c = true) ∧ text = keyword ++ (white ++ '(' :: inner) := by
  rw [afterCall?]
  constructor
  · intro read
    split at read
    · next inner opened =>
        obtain ⟨white, isWhite, _, whole⟩ := afterKeyword?_eq_some_iff.mp opened
        exact ⟨white, inner, isWhite, List.dropWhile_eq_nil_iff.mp (Option.some.inj read), whole⟩
    · cases read
  · intro parts
    obtain ⟨white, inner, isWhite, innerWhite, whole⟩ := parts
    have opened : afterKeyword? keyword text = some ('(' :: inner) := by
      apply afterKeyword?_eq_some_iff.mpr
      refine ⟨white, isWhite, ?_, whole⟩
      intro c first
      cases first
      decide
    rw [opened]
    exact congrArg some (List.dropWhile_eq_nil_iff.mpr innerWhite)

/-- The introductions read leads, and nothing else, to their end. -/
theorem introduces_iff {before : Option Char} {lead : Text} :
    Introduces before lead ↔ Text.endsWord before = true ∧ IsLead lead := by
  have bareRead (keyword : Text) : afterKeyword? keyword lead = some [] ↔
      ∃ white, (∀ c ∈ white, Text.isWhite c = true) ∧ lead = keyword ++ white := by
    simp [afterKeyword?_eq_some_iff]
  rw [Introduces]
  apply and_congr_right
  intro _
  simp only [introductions, List.mem_cons, List.not_mem_nil, or_false, exists_eq_or_imp,
    exists_eq_left, bareRead, afterCall?_eq_some_nil_iff]
  constructor
  · intro read
    rcases read with ⟨white, isWhite, rfl⟩ | ⟨white, isWhite, rfl⟩ |
      ⟨white, inner, isWhite, innerWhite, rfl⟩ | ⟨white, inner, isWhite, innerWhite, rfl⟩
    · exact .bare (by simp) isWhite
    · exact .bare (by simp) isWhite
    · exact .called (by simp) isWhite innerWhite
    · exact .called (by simp) isWhite innerWhite
  · intro isLead
    cases isLead with
    | @bare keyword white known isWhite =>
        simp only [List.mem_cons, List.not_mem_nil, or_false] at known
        rcases known with rfl | rfl
        · exact Or.inl ⟨white, isWhite, rfl⟩
        · exact Or.inr (Or.inl ⟨white, isWhite, rfl⟩)
    | @called keyword white inner known isWhite innerWhite =>
        simp only [List.mem_cons, List.not_mem_nil, or_false] at known
        rcases known with rfl | rfl
        · exact Or.inr (Or.inr (Or.inl ⟨white, inner, isWhite, innerWhite, rfl⟩))
        · exact Or.inr (Or.inr (Or.inr ⟨white, inner, isWhite, innerWhite, rfl⟩))

theorem isQuote_eq_false_of_introduces {before : Option Char} {lead : Text}
    (introduces : Introduces before lead) : ∀ c ∈ lead, isQuote c = false := by
  obtain ⟨_, introduction, known, read⟩ := introduces
  obtain ⟨passed, rfl, unquoted⟩ := exists_of_introduction known read
  simpa using unquoted

/-- The specifier is closed by the quote that opens it, on the same line. -/
def IsQuoted (specifier : Specifier) : Prop :=
  isQuote specifier.quote = true ∧ ∀ c ∈ specifier.target, c ≠ specifier.quote ∧ c ≠ '\n'

theorem quote_ne_newline {specifier : Specifier} (quoted : specifier.IsQuoted) :
    specifier.quote ≠ '\n' := by
  intro same
  have isQuoted := quoted.1
  rw [same] at isQuoted
  exact absurd isQuoted (by decide)

theorem newline_notMem_target {specifier : Specifier} (quoted : specifier.IsQuoted) :
    '\n' ∉ specifier.target :=
  fun member => (quoted.2 '\n' member).2 rfl

theorem newline_notMem_quoted {specifier : Specifier} (quoted : specifier.IsQuoted) :
    '\n' ∉ specifier.quote :: (specifier.target ++ [specifier.quote]) := by
  have noQuote := quote_ne_newline quoted
  intro member
  rcases List.mem_cons.mp member with same | member
  · exact noQuote same.symm
  · rcases List.mem_append.mp member with inTarget | same
    · exact newline_notMem_target quoted inTarget
    · exact noQuote (List.mem_singleton.mp same).symm

theorem text_append (specifier : Specifier) (after : Text) :
    specifier.text ++ after =
      specifier.lead ++ specifier.quote :: (specifier.target ++ specifier.quote :: after) := by
  simp [text]

theorem introducedBy?_eq_some_iff {introduction : Text → Option Text}
    (known : introduction ∈ introductions) {text after : Text} {specifier : Specifier} :
    introducedBy? introduction text = some (specifier, after) ↔
      introduction specifier.lead = some [] ∧ specifier.IsQuoted ∧
        text = specifier.text ++ after := by
  constructor
  · intro found
    rw [introducedBy?] at found
    split at found
    · cases found
    · next behind read =>
        obtain ⟨⟨quote, target, rest⟩, quoted, equality⟩ := Option.map_eq_some_iff.mp found
        cases equality
        obtain ⟨isQuoted, inside, rfl⟩ := quoted?_eq_some_iff.mp quoted
        obtain ⟨passed, rfl, _⟩ := exists_of_introduction known read
        have lead : (passed ++ quote :: (target ++ quote :: rest)).take
            ((passed ++ quote :: (target ++ quote :: rest)).length -
              (quote :: (target ++ quote :: rest)).length) = passed := by
          rw [List.length_append, Nat.add_sub_cancel]
          exact List.take_left
        rw [introduction_append_quote known isQuoted] at read
        obtain ⟨remainder, reached, empty⟩ := Option.map_eq_some_iff.mp read
        rw [List.append_left_eq_self] at empty
        subst empty
        simp only [lead]
        exact ⟨reached, ⟨isQuoted, inside⟩, (text_append ⟨passed, quote, target⟩ rest).symm⟩
  · rintro ⟨read, isQuoted, rfl⟩
    have reached : introduction (specifier.text ++ after) =
        some (specifier.quote :: (specifier.target ++ specifier.quote :: after)) := by
      rw [text_append, introduction_append_quote known isQuoted.1, read]
      rfl
    have quoted : quoted? (specifier.quote :: (specifier.target ++ specifier.quote :: after)) =
        some (specifier.quote, specifier.target, after) :=
      quoted?_eq_some_iff.mpr ⟨isQuoted.1, isQuoted.2, rfl⟩
    rw [introducedBy?, reached]
    simp only [quoted, Option.map_some]
    rw [text_append, List.length_append, Nat.add_sub_cancel, List.take_left]

/-- The specifier that begins a text, by what it is made of. -/
theorem pattern_eq_some_iff {before : Option Char} {text after : Text} {specifier : Specifier} :
    pattern before text = some (specifier, after) ↔
      Introduces before specifier.lead ∧ specifier.IsQuoted ∧ text = specifier.text ++ after := by
  constructor
  · intro found
    rw [pattern] at found
    split at found
    · next word =>
        obtain ⟨introduction, known, found⟩ := List.exists_of_findSome?_eq_some found
        obtain ⟨read, isQuoted, equality⟩ := (introducedBy?_eq_some_iff known).mp found
        exact ⟨⟨word, introduction, known, read⟩, isQuoted, equality⟩
    · cases found
  · rintro ⟨introduces, isQuoted, rfl⟩
    have unquoted := isQuote_eq_false_of_introduces introduces
    obtain ⟨word, introduction, known, read⟩ := introduces
    have found : introducedBy? introduction (specifier.text ++ after) = some (specifier, after) :=
      (introducedBy?_eq_some_iff known).mpr ⟨read, isQuoted, rfl⟩
    rw [pattern, if_pos word]
    rcases search : introductions.findSome? fun introduction =>
      introducedBy? introduction (specifier.text ++ after) with _ | ⟨other, rest⟩
    · rw [List.findSome?_eq_none_iff.mp search introduction known] at found
      cases found
    · -- Whichever introduction comes first, the first quote of the text closes its lead.
      obtain ⟨chosen, chosenKnown, first⟩ := List.exists_of_findSome?_eq_some search
      obtain ⟨otherRead, otherQuoted, equality⟩ := (introducedBy?_eq_some_iff chosenKnown).mp first
      have otherUnquoted :=
        isQuote_eq_false_of_introduces ⟨word, chosen, chosenKnown, otherRead⟩
      rw [text_append, text_append] at equality
      obtain ⟨sameLead, sameQuote, tails⟩ :=
        Text.append_cons_unique isQuote isQuoted.1 otherQuoted.1 unquoted otherUnquoted equality
      obtain ⟨sameTarget, _, sameAfter⟩ :=
        Text.append_cons_unique (fun c => c = specifier.quote) (by simp)
          (by simp [sameQuote]) (by simpa using fun c member => (isQuoted.2 c member).1)
          (by simpa [sameQuote] using fun c member => (otherQuoted.2 c member).1) tails
      cases specifier
      cases other
      simp_all

/-- `Begins before text specifier after` means that behind the character `before` a text begins with
a specifier, whose keyword begins a word, and goes on with `after`. -/
structure Begins (before : Option Char) (text : Text) (specifier : Specifier) (after : Text) :
    Prop where
  word : Text.endsWord before = true
  lead : IsLead specifier.lead
  quoted : specifier.IsQuoted
  whole : text = specifier.text ++ after

theorem pattern_eq_some_iff_begins {before : Option Char} {text after : Text}
    {specifier : Specifier} :
    pattern before text = some (specifier, after) ↔ Begins before text specifier after := by
  rw [pattern_eq_some_iff, introduces_iff]
  constructor
  · intro found
    obtain ⟨⟨word, lead⟩, quoted, whole⟩ := found
    exact ⟨word, lead, quoted, whole⟩
  · intro begins
    exact ⟨⟨begins.word, begins.lead⟩, begins.quoted, begins.whole⟩

theorem pattern_eq_none_iff {before : Option Char} {text : Text} :
    pattern before text = none ↔ ∀ specifier after, ¬ Begins before text specifier after := by
  rw [Option.eq_none_iff_forall_ne_some]
  constructor
  · intro missing specifier after begins
    exact missing _ (pattern_eq_some_iff_begins.mpr begins)
  · intro missing found
    obtain ⟨specifier, after⟩ := found
    exact fun same => missing specifier after (pattern_eq_some_iff_begins.mp same)

theorem consumes_pattern : Text.Consumes pattern := by
  intro before text specifier after found
  obtain ⟨_, _, rfl⟩ := pattern_eq_some_iff.mp found
  exact ⟨specifier.text, by simp [text], rfl⟩

/-- A match is the text of its specifier. -/
theorem eq_text_of_pattern {before : Option Char} {matched after : Text} {specifier : Specifier}
    (found : pattern before (matched ++ after) = some (specifier, after)) :
    matched = specifier.text :=
  List.append_cancel_right (pattern_eq_some_iff.mp found).2.2

theorem getLast?_text (specifier : Specifier) :
    specifier.text.getLast? = some specifier.quote := by
  simp [text, List.getLast?_append, List.getLast?_cons]

end Specifier

end DocCheck
