import DocCheck.Markdown.Nesting
import DocCheck.Markdown.Document
import DocCheck.Proofs.Markdown.Line
import DocCheck.Proofs.Text.Basic

/-!
Quotes and list items around lines, and the containers that they open. What is written before the
first line of a wrapped text opens them, and what is written before every other line goes on with
them, so that a cursor behind the margin has the line as it was. Main statements: the marks of
wrappers open their containers, and all of these go on along a line that has the margins.
-/

namespace DocCheck.Markdown

/-! ## Wrapped lines -/

/-- A container that lines are put into. -/
inductive Wrapper where
  | quote
  | bullet
  deriving Repr, DecidableEq

namespace Wrapper

/-- What is written before the first line. -/
def mark : Wrapper → Text
  | quote => "> ".toList
  | bullet => "- ".toList

/-- What is written before every other line. -/
def margin : Wrapper → Text
  | quote => "> ".toList
  | bullet => "  ".toList

def wrap (wrapper : Wrapper) : List Text → List Text
  | [] => []
  | first :: rest => (wrapper.mark ++ first) :: rest.map (wrapper.margin ++ ·)

end Wrapper

/-- Lines put into containers, of which the innermost is given first. -/
def wrap (wrappers : List Wrapper) (lines : List Text) : List Text :=
  wrappers.foldl (fun lines wrapper => wrapper.wrap lines) lines

/-- What stands before the first line of a text in containers. -/
def marks : List Wrapper → Text
  | [] => []
  | wrapper :: outer => marks outer ++ wrapper.mark

/-- What stands before every other line. -/
def margin : List Wrapper → Text
  | [] => []
  | wrapper :: outer => margin outer ++ wrapper.margin

theorem wrap_cons (wrappers : List Wrapper) (first : Text) (rest : List Text) :
    wrap wrappers (first :: rest) = (marks wrappers ++ first) :: rest.map (margin wrappers ++ ·) := by
  induction wrappers generalizing first rest with
  | nil =>
      have unchanged : rest.map (fun line => margin [] ++ line) = rest := List.map_id rest
      rw [unchanged]
      rfl
  | cons wrapper outer inductionHypothesis =>
      have once : wrap (wrapper :: outer) (first :: rest) =
          wrap outer ((wrapper.mark ++ first) :: rest.map (wrapper.margin ++ ·)) := rfl
      have margins : ((margin outer ++ ·) ∘ (wrapper.margin ++ ·) : Text → Text) =
          (margin (wrapper :: outer) ++ ·) := by
        funext line
        exact (List.append_assoc _ _ _).symm
      rw [once, inductionHypothesis, List.map_map, margins, marks, List.append_assoc]

theorem map_terminated_wrap (wrappers : List Wrapper) (first : Text) (rest : List Text) :
    (wrap wrappers (first :: rest)).map terminated =
      terminated (marks wrappers ++ first) ::
        rest.map fun line => terminated (margin wrappers ++ line) := by
  rw [wrap_cons, List.map_cons, List.map_map]
  rfl

theorem isLine_marks (wrappers : List Wrapper) : IsLine (marks wrappers) := by
  induction wrappers with
  | nil => exact nofun
  | cons wrapper outer inductionHypothesis =>
      refine isLine_append inductionHypothesis ?_
      cases wrapper <;> exact Text.forall_mem_of_all (by decide)

theorem isLine_margin (wrappers : List Wrapper) : IsLine (margin wrappers) := by
  induction wrappers with
  | nil => exact nofun
  | cons wrapper outer inductionHypothesis =>
      refine isLine_append inductionHypothesis ?_
      cases wrapper <;> exact Text.forall_mem_of_all (by decide)

theorem length_marks (wrappers : List Wrapper) : (marks wrappers).length = 2 * wrappers.length := by
  induction wrappers with
  | nil => rfl
  | cons wrapper outer inductionHypothesis =>
      have two : wrapper.mark.length = 2 := by cases wrapper <;> rfl
      rw [marks, List.length_append, two, inductionHypothesis, List.length_cons]
      omega

/-! ## Containers -/

/-- The containers that wrappers open; blank lines make lists loose. -/
inductive Holds : List Wrapper → List Container → Prop
  | none : Holds [] []
  | quote {outer : List Wrapper} {containers : List Container} :
      Holds outer containers → Holds (.quote :: outer) (.quote :: containers)
  | bullet {outer : List Wrapper} {containers : List Container} (tight : Bool) :
      Holds outer containers →
        Holds (.bullet :: outer) (.item 2 :: .list '-' tight :: containers)

/-- The wrappers are all that is open, and the items in them have content. -/
structure Nesting.IsWithin (nesting : Nesting) (wrappers : List Wrapper) : Prop where
  holds : Holds wrappers nesting.containers
  filled : nesting.emptyItem = false

theorem isWithin_empty : Nesting.empty.IsWithin [] :=
  ⟨.none, rfl⟩

theorem Holds.any_hasMargin {wrappers : List Wrapper} {containers : List Container}
    (holds : Holds wrappers containers) :
    containers.any Container.hasMargin = !wrappers.isEmpty := by
  cases holds <;> rfl

private theorem Holds.loosened {wrappers : List Wrapper} {inner outside : Container}
    {outer : List Container} (holds : Holds wrappers (inner :: outside :: outer)) :
    Holds wrappers (inner :: outside.loosened :: outer) := by
  cases holds with
  | bullet tight holds => exact .bullet false holds
  | quote holds =>
      cases holds with
      | quote holds => exact .quote (.quote holds)
      | bullet tight holds => exact .quote (.bullet tight holds)

/-- No list stands innermost: an item of it does. -/
private theorem Holds.isList_eq_false {wrappers : List Wrapper} {container : Container}
    {containers : List Container} (holds : Holds wrappers (container :: containers)) :
    container.isList = false := by
  cases holds <;> rfl

/-! ## Lines behind the margin -/

private theorem quoteMark?_mark (column : Nat) (text : Text) :
    (⟨'>' :: ' ' :: text, column, 0⟩ : Cursor).quoteMark? = some ⟨text, column + 2, 0⟩ := by
  have spaced := Cursor.indentUpTo_spaces_self 1 (column + 1) text
  simp only [spaces, List.replicate_one, List.singleton_append] at spaced
  simp only [Cursor.quoteMark?, Cursor.passChar?, if_true, Option.map_some, spaced]

private theorem continue?_quote (column : Nat) (text : Text) :
    Container.quote.continue? ⟨'>' :: ' ' :: text, column, 0⟩ = some ⟨text, column + 2, 0⟩ := by
  rw [Container.continue?, Cursor.indentUpTo_of_dark (by decide), quoteMark?_mark]

private theorem continue?_item (column : Nat) (text : Text) :
    (Container.item 2).continue? ⟨spaces 2 ++ text, column, 0⟩ = some ⟨text, column + 2, 0⟩ := by
  simp only [Container.continue?, Cursor.indentUpTo_spaces_self, decide_true, Bool.true_or, if_true]

/-- All containers go on along a line behind their margins. -/
theorem Holds.follow {wrappers : List Wrapper} {containers : List Container}
    (holds : Holds wrappers containers) (text : Text) :
    follow (margin wrappers ++ text) containers =
      ⟨containers, true, ⟨text, 2 * wrappers.length, 0⟩⟩ := by
  induction holds generalizing text with
  | none => rfl
  | @quote outer containers holds inductionHypothesis =>
      have split : margin (.quote :: outer) ++ text = margin outer ++ ('>' :: ' ' :: text) := by
        rw [margin, List.append_assoc]
        rfl
      rw [split, Markdown.follow, inductionHypothesis]
      simp only [if_true, continue?_quote]
      rfl
  | @bullet outer containers tight holds inductionHypothesis =>
      have split : margin (.bullet :: outer) ++ text = margin outer ++ (spaces 2 ++ text) := by
        rw [margin, List.append_assoc]
        rfl
      have list (cursor : Cursor) : (Container.list '-' tight).continue? cursor = some cursor := rfl
      rw [split, Markdown.follow, Markdown.follow, inductionHypothesis]
      simp only [if_true, list, continue?_item]
      rfl

/-! ## What is open between blocks -/

namespace Nesting

variable {nesting : Nesting} {wrappers : List Wrapper}

theorem closeTo_length (nesting : Nesting) :
    nesting.closeTo nesting.containers.length = nesting := by
  simp [closeTo]

private theorem settleItem_of_filled (filled : nesting.emptyItem = false) :
    nesting.settleItem = nesting := by
  obtain ⟨containers, emptyItem, blankBefore⟩ := nesting
  subst filled
  rw [settleItem]
  split <;> simp

theorem IsWithin.closeList (within : nesting.IsWithin wrappers) :
    nesting.closeList.IsWithin wrappers := by
  obtain ⟨containers, emptyItem, blankBefore⟩ := nesting
  obtain ⟨holds, rfl⟩ := within
  dsimp only at holds
  rw [Nesting.closeList, settleItem_of_filled rfl]
  cases blankBefore with
  | false =>
      cases holds with
      | none => exact ⟨.none, rfl⟩
      | quote holds => exact ⟨.quote holds, rfl⟩
      | bullet tight holds => exact ⟨.bullet tight holds, rfl⟩
  | true =>
      cases holds with
      | none => exact ⟨.none, rfl⟩
      | bullet tight holds => exact ⟨.bullet false holds, rfl⟩
      | @quote outer containers holds =>
          cases containers with
          | nil => exact ⟨.quote holds, rfl⟩
          | cons inner containers => exact ⟨(Holds.quote holds).loosened, rfl⟩

theorem IsWithin.afterBlank (within : nesting.IsWithin wrappers) :
    nesting.afterBlank.IsWithin wrappers := by
  have holds := within.holds
  rw [Nesting.afterBlank, within.filled]
  split
  · exact within
  · exact within
  · exact ⟨holds, rfl⟩
  · exact ⟨holds, rfl⟩

private theorem IsWithin.opening_quote (within : nesting.IsWithin wrappers) :
    (nesting.opening .quote).IsWithin (.quote :: wrappers) :=
  ⟨.quote within.holds, within.filled⟩

private theorem IsWithin.openList (within : nesting.IsWithin wrappers) :
    ((nesting.openList '-').opening (.item 2)).IsWithin (.bullet :: wrappers) := by
  have closed := within.closeList
  rw [Nesting.openList, settleItem_of_filled within.filled]
  split
  · next current tight outer isList =>
      have holds := within.holds
      rw [isList] at holds
      cases holds.isList_eq_false
  · exact ⟨.bullet true within.holds, within.filled⟩
  · exact ⟨.bullet true closed.holds, closed.filled⟩

end Nesting

/-! ## The first line -/

/-- A text that a list item may begin with: it begins with a character that is not white, and the
item's marker before it is no part of a thematic break. -/
structure Starts (text : Text) : Prop where
  dark : ∃ c rest, text = c :: rest ∧ (c ≠ ' ' ∧ c ≠ '\t') ∧ isInlineSpace c = false ∧
    c ≠ '\n' ∧ c ≠ '\r'
  noBreak : countBreakMarks '-' text = none

private theorem Starts.isBlank_eq_false {text : Text} (starts : Starts text) :
    isBlank text = false := by
  obtain ⟨⟨c, rest, rfl, dark, noSpace, noBreak⟩, _⟩ := starts
  simp [isBlank, atLineEnd, noSpace, noBreak]

private theorem Starts.mark (wrapper : Wrapper) {text : Text} (starts : Starts text) :
    Starts (wrapper.mark ++ text) := by
  cases wrapper with
  | quote =>
      exact ⟨⟨'>', ' ' :: text, rfl, by decide, by decide, by decide, by decide⟩, rfl⟩
  | bullet =>
      refine ⟨⟨'-', ' ' :: text, rfl, by decide, by decide, by decide, by decide⟩, ?_⟩
      have behind : countBreakMarks '-' (Wrapper.bullet.mark ++ text) =
          (countBreakMarks '-' text).map (· + 1) := rfl
      rw [behind, starts.noBreak]
      rfl

theorem listMarker?_eq_none {c : Char} (noBullet : isBullet c = false)
    (noDigit : Text.isAsciiDigit c = false) (indent column owed : Nat) (rest : Text) :
    (⟨c :: rest, column, owed⟩ : Cursor).listMarker? indent = none := by
  simp [Cursor.listMarker?, noBullet, noDigit]

theorem quoteMark?_eq_none {c : Char} (noQuote : c ≠ '>') (column owed : Nat) (rest : Text) :
    (⟨c :: rest, column, owed⟩ : Cursor).quoteMark? = none := by
  simp [Cursor.quoteMark?, Cursor.passChar?, noQuote]

private theorem openContainers_quote (fuel column : Nat) (nesting : Nesting) (text : Text) :
    openContainers (fuel + 1) nesting ⟨Wrapper.quote.mark ++ text, column, 0⟩ =
      openContainers fuel (nesting.closeList.opening .quote) ⟨text, column + 2, 0⟩ := by
  have shape : Wrapper.quote.mark ++ text = '>' :: ' ' :: text := rfl
  have few : (0 : Nat) ≠ 4 := by decide
  rw [shape, openContainers, Cursor.indentUpTo_of_dark (by decide)]
  simp only [few, if_false, listMarker?_eq_none (c := '>') (by decide) (by decide),
    quoteMark?_mark]

private theorem Starts.listMarker? {text : Text} (starts : Starts text) (column : Nat) :
    (⟨Wrapper.bullet.mark ++ text, column, 0⟩ : Cursor).listMarker? 0 =
      some (⟨'-', 2⟩, ⟨text, column + 2, 0⟩) := by
  have filled := starts.isBlank_eq_false
  obtain ⟨⟨c, rest, rfl, dark, _⟩, unbroken⟩ := starts
  have shape : Wrapper.bullet.mark ++ c :: rest = '-' :: (spaces 1 ++ c :: rest) := rfl
  have thematic : isThematicBreak ('-' :: (spaces 1 ++ c :: rest)) = false := by
    have count : countBreakMarks '-' ('-' :: (spaces 1 ++ c :: rest)) =
        (countBreakMarks '-' (c :: rest)).map (· + 1) := rfl
    rw [isThematicBreak, count, unbroken]
    rfl
  have few : (0 : Nat) ≠ 4 := by decide
  have bullet : isBullet '-' = true := by decide
  simp only [shape, Cursor.listMarker?, bullet, thematic, if_true, Bool.false_eq_true, if_false,
    Cursor.afterMarker?, Cursor.indentUpTo_spaces_self, decide_true, Bool.true_or, filled,
    Cursor.indentUpTo_of_dark dark, few, decide_false, Bool.or_self]

private theorem openContainers_bullet (fuel column : Nat) (nesting : Nesting) {text : Text}
    (starts : Starts text) :
    openContainers (fuel + 1) nesting ⟨Wrapper.bullet.mark ++ text, column, 0⟩ =
      openContainers fuel ((nesting.openList '-').opening (.item 2)) ⟨text, column + 2, 0⟩ := by
  have marker := starts.listMarker? column
  have shape : Wrapper.bullet.mark ++ text = '-' :: ' ' :: text := rfl
  have few : (0 : Nat) ≠ 4 := by decide
  rw [shape] at marker ⊢
  rw [openContainers, Cursor.indentUpTo_of_dark (by decide)]
  simp only [few, if_false, marker, starts.isBlank_eq_false, Bool.false_eq_true]

/-- The marks of wrappers open their containers. -/
theorem openContainers_marks (wrappers : List Wrapper) (fuel : Nat) {text : Text}
    (starts : Starts text) :
    ∃ nesting : Nesting, nesting.IsWithin wrappers ∧
      openContainers (wrappers.length + fuel) .empty (.ofLine (marks wrappers ++ text)) =
        openContainers fuel nesting ⟨text, 2 * wrappers.length, 0⟩ := by
  induction wrappers generalizing fuel text with
  | nil => exact ⟨.empty, isWithin_empty, by rw [List.length_nil, Nat.zero_add]; rfl⟩
  | cons wrapper outer inductionHypothesis =>
      obtain ⟨nesting, within, opened⟩ := inductionHypothesis (fuel + 1) (starts.mark wrapper)
      have count : (wrapper :: outer).length + fuel = outer.length + (fuel + 1) := by
        rw [List.length_cons]
        omega
      rw [marks, List.append_assoc, count, opened]
      cases wrapper with
      | quote =>
          exact ⟨_, within.closeList.opening_quote, openContainers_quote fuel _ nesting text⟩
      | bullet => exact ⟨_, within.openList, openContainers_bullet fuel _ nesting starts⟩

end DocCheck.Markdown
