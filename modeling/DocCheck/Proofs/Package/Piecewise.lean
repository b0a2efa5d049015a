import DocCheck.Check.Config
import DocCheck.Proofs.Package.Specifier

/-!
Source text localised piece by piece. Only the white space in the lead of a specifier can hold a line
break, and a quote or a parenthesis follows there. Main statement: where a piece of source text begins
with neither behind a line break, the text before it and the piece are localised on their own.
-/

namespace DocCheck

namespace Specifier

/-- The first character of a text that is not white space, if there is one, opens no target and calls
no keyword. -/
def StandsAlone (text : Text) : Prop :=
  ∀ c ∈ (text.dropWhile Text.isWhite).head?, c ≠ '\'' ∧ c ≠ '"' ∧ c ≠ '('

instance (text : Text) : Decidable (StandsAlone text) :=
  Option.decidableForallMem (text.dropWhile Text.isWhite).head?

private theorem standsAlone_append {front back : Text} (frontAlone : StandsAlone front)
    (backAlone : StandsAlone back) : StandsAlone (front ++ '\n' :: back) := by
  intro c first
  rw [List.dropWhile_append] at first
  by_cases blank : (front.dropWhile Text.isWhite).isEmpty
  · have newline : Text.isWhite '\n' = true := by decide
    rw [if_pos blank, List.dropWhile_cons_of_pos newline] at first
    exact backAlone c first
  · rw [if_neg blank] at first
    apply frontAlone c
    cases spaced : front.dropWhile Text.isWhite with
    | nil => exact absurd (by rw [spaced]; rfl) blank
    | cons d rest =>
        rw [spaced] at first
        exact first

/-! ## Specifiers and line breaks -/

/-- Behind a line break in a lead there is white space at most, as far as to a parenthesis. -/
private theorem eq_parenthesis_of_isLead {lead front inner : Text} (isLead : IsLead lead)
    (broken : lead = front ++ '\n' :: inner) :
    ∀ c ∈ (inner.dropWhile Text.isWhite).head?, c = '(' := by
  have blank {white front : Text} (isWhite : ∀ c ∈ white, Text.isWhite c = true)
      (whole : white = front ++ '\n' :: inner) :
      ∀ c ∈ (inner.dropWhile Text.isWhite).head?, c = '(' := by
    have innerWhite : ∀ c ∈ inner, Text.isWhite c = true := fun c member =>
      isWhite c (whole ▸ List.mem_append_right front (List.mem_cons_of_mem _ member))
    rw [List.dropWhile_eq_nil_iff.mpr innerWhite]
    exact nofun
  cases isLead with
  | @bare keyword white known isWhite =>
      have unbroken : '\n' ∉ keyword := by
        have keywords : ∀ keyword ∈ ["from".toList, "import".toList], '\n' ∉ keyword := by decide
        exact keywords keyword known
      obtain ⟨rest, _, isRest⟩ := Text.exists_of_append_eq_of_notMem_left unbroken broken
      exact blank isWhite isRest
  | @called keyword white within known isWhite withinWhite =>
      have unbroken : '\n' ∉ keyword := by
        have keywords : ∀ keyword ∈ ["import".toList, "require".toList], '\n' ∉ keyword := by
          decide
        exact keywords keyword known
      obtain ⟨rest, _, isRest⟩ := Text.exists_of_append_eq_of_notMem_left unbroken broken
      rcases List.append_eq_append_iff.mp isRest with ⟨gap, _, split⟩ | ⟨gap, isGap, split⟩
      · -- The line break stands behind the parenthesis.
        cases gap with
        | nil => cases split
        | cons d gap => exact blank withinWhite (List.cons.inj split).2
      · -- The line break stands before it.
        cases gap with
        | nil => cases split
        | cons d gap =>
            rw [List.cons_append] at split
            obtain ⟨rfl, rfl⟩ := List.cons.inj split
            have gapWhite : ∀ c ∈ gap, Text.isWhite c = true := fun c member =>
              isWhite c (isGap ▸ List.mem_append_right rest (List.mem_cons_of_mem _ member))
            rw [List.dropWhile_append_of_pos gapWhite, List.dropWhile_cons_of_neg (by decide)]
            intro c first
            exact (Option.some.inj first).symm

/-- A line break in the text of a specifier stands in its lead. -/
private theorem exists_of_text_eq {specifier : Specifier} (quoted : specifier.IsQuoted)
    {front behind : Text} (broken : specifier.text = front ++ '\n' :: behind) :
    ∃ inner, specifier.lead = front ++ '\n' :: inner ∧
      behind = inner ++ specifier.quote :: (specifier.target ++ [specifier.quote]) := by
  exact Text.exists_of_append_eq_of_notMem_right (newline_notMem_quoted quoted) broken

/-- A specifier that begins before a line break ends before it, if what follows stands alone. -/
private theorem Begins.exists_of_append {before : Option Char} {front back after : Text}
    {specifier : Specifier} (alone : StandsAlone back)
    (begins : Begins before (front ++ '\n' :: back) specifier after) :
    ∃ inner, front = specifier.text ++ inner ∧ after = inner ++ '\n' :: back := by
  rcases List.append_eq_append_iff.mp begins.whole.symm with
    ⟨inner, isFront, isAfter⟩ | ⟨gap, isText, split⟩
  · exact ⟨inner, isFront, isAfter⟩
  · cases gap with
    | nil => exact ⟨[], by simpa using isText.symm, split.symm⟩
    | cons d gap =>
        rw [List.cons_append] at split
        obtain ⟨rfl, rfl⟩ := List.cons.inj split
        obtain ⟨inner, isLead, rfl⟩ := exists_of_text_eq begins.quoted isText
        have opening := eq_parenthesis_of_isLead begins.lead isLead
        -- What follows the line break first is the parenthesis or the quote of the specifier.
        rw [StandsAlone, List.append_assoc, List.cons_append,
          Text.dropWhile_append_cons (isWhite_of_isQuote begins.quoted.1)] at alone
        cases spaced : inner.dropWhile Text.isWhite with
        | nil =>
            rw [spaced] at alone
            obtain ⟨single, double, _⟩ := alone specifier.quote rfl
            have isQuoted := begins.quoted.1
            simp [isQuote, single, double] at isQuoted
        | cons c rest =>
            rw [spaced] at alone opening
            exact absurd (opening c rfl) (alone c rfl).2.2

private theorem pattern_append_line {back : Text} (alone : StandsAlone back) (before : Option Char)
    (front : Text) :
    pattern before (front ++ '\n' :: back) =
      (pattern before front).map fun found => (found.1, found.2 ++ '\n' :: back) := by
  apply Option.ext
  intro found
  obtain ⟨specifier, after⟩ := found
  rw [Option.map_eq_some_iff, pattern_eq_some_iff_begins]
  constructor
  · intro begins
    obtain ⟨inner, isFront, rfl⟩ := begins.exists_of_append alone
    exact ⟨(specifier, inner),
      pattern_eq_some_iff_begins.mpr ⟨begins.word, begins.lead, begins.quoted, isFront⟩, rfl⟩
  · intro read
    obtain ⟨⟨found, inner⟩, present, same⟩ := read
    cases same
    obtain ⟨word, lead, quoted, whole⟩ := pattern_eq_some_iff_begins.mp present
    exact ⟨word, lead, quoted, by rw [whole, List.append_assoc]⟩

/-- Behind a line break a word begins as it does at the beginning of a text. -/
private theorem pattern_behind_line (text : Text) :
    pattern (some '\n') text = pattern none text := by
  have word : Text.endsWord (some '\n') = Text.endsWord none := by decide
  rw [pattern, pattern, word]

end Specifier

namespace Localiser

open Specifier

private theorem localise_append_line (localiser : Localiser) {back : Text}
    (alone : StandsAlone back) (front : Text) :
    localiser.localise (front ++ '\n' :: back) =
      localiser.localise front ++ '\n' :: localiser.localise back :=
  Text.replaceAll_append_cons consumes_pattern (pattern_append_line alone)
    (pattern_behind_line back) _ front

private theorem findAll_append_line {back : Text} (alone : StandsAlone back) (front : Text) :
    Text.findAll Specifier.pattern (front ++ '\n' :: back) =
      Text.findAll Specifier.pattern front ++ Text.findAll Specifier.pattern back := by
  rw [Text.findAll, Text.segments_append_cons consumes_pattern (pattern_append_line alone)
    (pattern_behind_line back), List.filterMap_append]
  rfl

/-- Two texts with a line break between them are localised each on its own, if the second one begins
with neither a quote nor a parenthesis. So exactly the specifiers of the two are found, and a text
between two others becomes what it becomes without them. -/
theorem localise_piecewise (package : Package) (root front back : Text)
    (alone : StandsAlone back) :
    let localiser := ofPackage package root
    localiser.localise (front ++ '\n' :: back) =
        localiser.localise front ++ '\n' :: localiser.localise back ∧
      Text.findAll Specifier.pattern (front ++ '\n' :: back) =
        Text.findAll Specifier.pattern front ++ Text.findAll Specifier.pattern back ∧
      ∀ behind, StandsAlone behind →
        localiser.localise (front ++ '\n' :: (back ++ '\n' :: behind)) =
          localiser.localise front ++
            '\n' :: (localiser.localise back ++ '\n' :: localiser.localise behind) := by
  intro localiser
  refine ⟨localiser.localise_append_line alone front, findAll_append_line alone front, ?_⟩
  intro behind behindAlone
  rw [localiser.localise_append_line (standsAlone_append alone behindAlone),
    localiser.localise_append_line behindAlone]

/-- Neither a quote left open nor a keyword at the end of the line before hides an import. -/
theorem localise_piecewise_behind_open_quote :
    let package : Package := ⟨"pkg".toList, "src/index.ts".toList⟩
    let localiser := ofPackage package ScratchDir.rootReference
    let front := "it's from".toList
    let back := "\n  import x from 'pkg'".toList
    StandsAlone back ∧
      localiser.localise (front ++ '\n' :: back) =
        "it's from\n\n  import x from '../src/index'".toList ∧
      localiser.localise (front ++ '\n' :: back) =
        localiser.localise front ++ '\n' :: localiser.localise back := by
  intro package localiser front back
  have alone : StandsAlone back := by decide
  exact ⟨alone, by decide,
    (localise_piecewise package ScratchDir.rootReference front back alone).1⟩

end Localiser

end DocCheck
