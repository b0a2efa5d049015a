import DocCheck.Text.Basic

/-!
Texts cut at the matches of a pattern. Matches are taken from the left, each as early as possible
and behind the one before it. Main statement: the segments of a text concatenate to the text,
whatever the pattern.
-/

namespace DocCheck.Text

/-- What a pattern matches at a place: given the character before the place and the text from there
on, the value of the match and the text behind it. -/
abbrev Pattern (α : Type) := Option Char → Text → Option (α × Text)

/-- A part of a text that has been searched for a pattern. -/
inductive Segment (α : Type) where
  /-- A character outside all matches. -/
  | plain (c : Char)
  /-- A match, with the text that it covers. -/
  | found (text : Text) (value : α)
  deriving Repr, DecidableEq

namespace Segment

variable {α : Type}

def text : Segment α → Text
  | plain c => [c]
  | found text _ => text

def value? : Segment α → Option α
  | plain _ => none
  | found _ value => some value

def replaceWith (replacement : Text → α → Text) : Segment α → Text
  | plain c => [c]
  | found text value => replacement text value

end Segment

variable {α : Type}

/-- The segments of a text behind the character `before`, of which the first `skip` characters
belong to a match already found. -/
def segmentsFrom (pattern : Pattern α) (before : Option Char) (skip : Nat) :
    Text → List (Segment α)
  | [] =>
      if skip = 0 then
        match pattern before [] with
        | some (value, _) => [.found [] value]
        | none => []
      else []
  | c :: rest =>
      if skip = 0 then
        match pattern before (c :: rest) with
        | some (value, after) =>
            let width := rest.length + 1 - after.length
            -- A match of nothing lets the character behind it stand.
            if width = 0 then
              .found [] value :: .plain c :: segmentsFrom pattern (some c) 0 rest
            else
              .found ((c :: rest).take width) value ::
                segmentsFrom pattern (some c) (width - 1) rest
        | none => .plain c :: segmentsFrom pattern (some c) 0 rest
      else segmentsFrom pattern (some c) (skip - 1) rest

def segments (pattern : Pattern α) (text : Text) : List (Segment α) :=
  segmentsFrom pattern none 0 text

/-- The values of the matches in a text, from left to right. -/
def findAll (pattern : Pattern α) (text : Text) : List α :=
  (segments pattern text).filterMap Segment.value?

def replaceAll (pattern : Pattern α) (replacement : Text → α → Text) (text : Text) : Text :=
  (segments pattern text).flatMap (Segment.replaceWith replacement)

theorem flatMap_text_segmentsFrom (pattern : Pattern α) (before : Option Char) (skip : Nat)
    (text : Text) :
    (segmentsFrom pattern before skip text).flatMap Segment.text = text.drop skip := by
  induction text generalizing before skip with
  | nil =>
      simp only [segmentsFrom]
      split
      · split <;> simp [Segment.text]
      · simp
  | cons c rest inductionHypothesis =>
      simp only [segmentsFrom]
      split
      · next atStart =>
          subst atStart
          split
          · next value after _ =>
              generalize rest.length + 1 - after.length = width
              cases width with
              | zero => simp [Segment.text, inductionHypothesis]
              | succ width => simp [Segment.text, inductionHypothesis]
          · simp [Segment.text, inductionHypothesis]
      · next inside =>
          obtain ⟨skip, rfl⟩ := Nat.exists_eq_succ_of_ne_zero inside
          simp [inductionHypothesis]

/-- The segments of a text concatenate to it. -/
theorem flatMap_text_segments (pattern : Pattern α) (text : Text) :
    (segments pattern text).flatMap Segment.text = text := by
  simpa [segments] using flatMap_text_segmentsFrom pattern none 0 text

/-! ## Patterns -/

/-- The pattern that matches one text, wherever it stands. -/
def literal (expected : Text) : Pattern Unit :=
  fun _ text => (List.isPrefixOf? expected text).map fun rest => ((), rest)

end DocCheck.Text
