import DocCheck.Markdown.Document
import DocCheck.Proofs.Markdown.LineEnd
import DocCheck.Proofs.Text.Basic

/-!
What a line does to the fenced block that is open before it. The cursor passes a margin that never
reaches the line end, and all that is kept of a line is what stands behind its margin. Main
statement: a line goes on with the open block, closes it, leaves it, or opens one, and does nothing
else to fenced blocks.
-/

namespace DocCheck.Markdown

/-! ## Margins -/

/-- What is left of a line behind a margin in which no line ends. -/
def Behind (line rest : Text) : Prop :=
  ∃ margin, line = margin ++ rest ∧ IsLine margin

namespace Behind

private theorem refl (line : Text) : Behind line line :=
  ⟨[], rfl, isLine_nil⟩

private theorem trans {line middle rest : Text} (first : Behind line middle)
    (second : Behind middle rest) :
    Behind line rest := by
  obtain ⟨margin, rfl, isLine⟩ := first
  obtain ⟨more, rfl, moreLine⟩ := second
  exact ⟨margin ++ more, by rw [List.append_assoc], isLine_append isLine moreLine⟩

private theorem cons {c : Char} {line rest : Text} (noBreak : c ≠ '\n' ∧ c ≠ '\r')
    (behind : Behind line rest) : Behind (c :: line) rest := by
  obtain ⟨margin, rfl, isLine⟩ := behind
  exact ⟨c :: margin, rfl, isLine.cons noBreak⟩

private theorem dropWhile {inClass : Char → Bool}
    (noBreak : inClass '\n' = false ∧ inClass '\r' = false)
    (line : Text) : Behind line (line.dropWhile inClass) := by
  refine ⟨line.takeWhile inClass, List.takeWhile_append_dropWhile.symm, fun c member => ?_⟩
  have passed := List.all_eq_true.mp List.all_takeWhile c member
  constructor
  · rintro rfl
    rw [noBreak.1] at passed
    cases passed
  · rintro rfl
    rw [noBreak.2] at passed
    cases passed

end Behind

namespace Cursor

private theorem behind_passSpaces (wanted column : Nat) (text : Text) :
    Behind text (passSpaces wanted column text).2.rest := by
  induction text generalizing wanted column with
  | nil => exact .refl []
  | cons c text inductionHypothesis =>
      rw [passSpaces]
      split
      · exact .refl _
      · split
        · next isSpace => exact (inductionHypothesis _ _).cons (by rw [isSpace]; decide)
        · split
          · next isTab =>
              have noBreak : c ≠ '\n' ∧ c ≠ '\r' := by
                rw [isTab]
                decide
              dsimp only
              split
              · exact (Behind.refl text).cons noBreak
              · exact (inductionHypothesis _ _).cons noBreak
          · exact .refl _

private theorem behind_indentUpTo (limit : Nat) (cursor : Cursor) :
    Behind cursor.rest (cursor.indentUpTo limit).2.rest := by
  rw [indentUpTo]
  split
  · exact .refl _
  · exact behind_passSpaces _ _ _

private theorem behind_quoteMark? {cursor inside : Cursor}
    (passed : cursor.quoteMark? = some inside) :
    Behind cursor.rest inside.rest := by
  rw [quoteMark?, Option.map_eq_some_iff] at passed
  obtain ⟨marked, isMark, rfl⟩ := passed
  rw [passChar?] at isMark
  split at isMark
  · next c rest isRest =>
      split at isMark
      · next same =>
          cases isMark
          have noBreak : c ≠ '\n' ∧ c ≠ '\r' := by
            rw [same]
            decide
          rw [isRest]
          exact (behind_indentUpTo 1 { cursor with rest := rest, column := cursor.column + 1 }).cons
            noBreak
      · cases isMark
  · cases isMark

private theorem behind_afterMarker? {kind : Char} {indent : Nat} {cursor inside : Cursor}
    {marker : ListMarker} (passed : cursor.afterMarker? kind indent = some (marker, inside)) :
    Behind cursor.rest inside.rest := by
  rw [afterMarker?] at passed
  dsimp only at passed
  split at passed
  · split at passed
    · cases passed
      exact behind_indentUpTo 1 cursor
    · cases passed
      exact (behind_indentUpTo 1 cursor).trans (behind_indentUpTo 4 _)
  · cases passed

private theorem behind_listMarker? {indent : Nat} {cursor inside : Cursor} {marker : ListMarker}
    (passed : cursor.listMarker? indent = some (marker, inside)) :
    Behind cursor.rest inside.rest := by
  rw [listMarker?] at passed
  split at passed
  · cases passed
  · next c rest isRest =>
      split at passed
      · next bullet =>
          split at passed
          · cases passed
          · have noBreak : c ≠ '\n' ∧ c ≠ '\r' := by
              constructor
              · rintro rfl
                cases bullet
              · rintro rfl
                cases bullet
            rw [isRest]
            exact (behind_afterMarker? passed).cons noBreak
      · dsimp only at passed
        split at passed
        · next kind more isMore =>
            split at passed
            · next isNumber =>
                have digits : Behind cursor.rest (cursor.rest.dropWhile Text.isAsciiDigit) :=
                  .dropWhile (by decide) _
                have ends : isNumberEnd kind = true := by
                  simp only [Bool.and_eq_true] at isNumber
                  exact isNumber.2
                have noBreak : kind ≠ '\n' ∧ kind ≠ '\r' := by
                  constructor
                  · rintro rfl
                    cases ends
                  · rintro rfl
                    cases ends
                rw [← Text.drop_length_takeWhile, isMore] at digits
                exact digits.trans ((behind_afterMarker? passed).cons noBreak)
            · cases passed
        · cases passed

end Cursor

private theorem Container.behind_continue? {container : Container} {cursor inside : Cursor}
    (passed : container.continue? cursor = some inside) : Behind cursor.rest inside.rest := by
  cases container with
  | quote => exact (cursor.behind_indentUpTo 3).trans (Cursor.behind_quoteMark? passed)
  | list marker tight =>
      cases passed
      exact .refl _
  | item indent =>
      rw [continue?] at passed
      split at passed
      · cases passed
        exact cursor.behind_indentUpTo indent
      · cases passed

private theorem behind_follow (line : Text) (containers : List Container) :
    Behind line (follow line containers).cursor.rest := by
  induction containers with
  | nil => exact .refl line
  | cons container outer inductionHypothesis =>
      rw [follow]
      split
      · split
        · next passed =>
            exact inductionHypothesis.trans (Container.behind_continue? passed)
        · exact inductionHypothesis
      · exact inductionHypothesis

private theorem behind_openContainers (fuel : Nat) (nesting : Nesting) (cursor : Cursor) :
    Behind cursor.rest (openContainers fuel nesting cursor).2.1.rest := by
  induction fuel generalizing nesting cursor with
  | zero => exact .refl _
  | succ fuel inductionHypothesis =>
      have indented := cursor.behind_indentUpTo 4
      rw [openContainers]
      dsimp only
      split
      · exact .refl _
      · split
        · next passed =>
            have marked := indented.trans (Cursor.behind_listMarker? passed)
            split
            · exact marked
            · exact marked.trans (inductionHypothesis _ _)
        · split
          · next passed =>
              exact (indented.trans (Cursor.behind_quoteMark? passed)).trans
                (inductionHypothesis _ _)
          · exact .refl _

/-! ## What stands behind a margin -/

private theorem Behind.exists_of_append {line ending rest : Text} {c : Char}
    (isBreak : c = '\n' ∨ c = '\r') (behind : Behind (line ++ c :: ending) rest) :
    ∃ margin after, line = margin ++ after ∧ rest = after ++ c :: ending := by
  obtain ⟨margin, whole, isLine⟩ := behind
  rcases List.append_eq_append_iff.mp whole with ⟨behind, isMargin, parts⟩ | ⟨after, parts, isRest⟩
  · -- The margin would reach the line end.
    cases behind with
    | nil => exact ⟨line, [], (List.append_nil line).symm, parts.symm⟩
    | cons d behind =>
        have inMargin : c ∈ margin := by
          rw [isMargin, (List.cons.inj parts).1]
          simp
        have noBreak := isLine c inMargin
        rcases isBreak with isNewline | isReturn
        · exact absurd isNewline noBreak.1
        · exact absurd isReturn noBreak.2
  · exact ⟨margin, after, parts, isRest⟩

private theorem IsLine.of_append_right {margin rest : Text} (isLine : IsLine (margin ++ rest)) :
    IsLine rest :=
  fun c member => isLine c (List.mem_append_right margin member)

/-- What stands behind a margin has the same line end as the line, and ends like the line before
it. -/
theorem IsEnded.behind {line rest : Text} (isEnded : IsEnded line) (behind : Behind line rest) :
    IsEnded rest ∧ withoutEnd rest <:+ withoutEnd line := by
  cases isEnded with
  | newline isLine =>
      obtain ⟨margin, after, rfl, rfl⟩ := Behind.exists_of_append (Or.inl rfl) behind
      have afterLine := isLine.of_append_right
      rw [withoutEnd_newline isLine, withoutEnd_newline afterLine]
      exact ⟨.newline afterLine, List.suffix_append margin after⟩
  | paired isLine =>
      obtain ⟨margin, after, rfl, rfl⟩ := Behind.exists_of_append (Or.inr rfl) behind
      have afterLine := isLine.of_append_right
      rw [withoutEnd_paired isLine, withoutEnd_paired afterLine]
      exact ⟨.paired afterLine, List.suffix_append margin after⟩

theorem IsLine.behind {line rest : Text} (isLine : IsLine line) (behind : Behind line rest) :
    IsLine rest ∧ withoutEnd rest <:+ withoutEnd line := by
  obtain ⟨margin, rfl, _⟩ := behind
  have restLine := isLine.of_append_right
  rw [withoutEnd_of_isLine isLine, withoutEnd_of_isLine restLine]
  exact ⟨restLine, List.suffix_append margin rest⟩

/-- Code is taken line by line where a newline ends each of them. -/
private theorem codeTail_eq {line rest : Text} {following : List Text}
    (toEnd : IsEnded line ∨ IsLine line ∧ following = []) (behind : Behind line rest) :
    codeTail rest following = ([], 0) := by
  rw [codeTail]
  rcases toEnd with isEnded | ⟨_, rfl⟩
  · rw [(isEnded.behind behind).1.endsWithNewline, if_pos rfl]
  · rw [untilNewline, ite_self]

/-! ## Lines that open a block -/

/-- The text begins with the fence, and the line that opens the block ends in the text. -/
structure Fence.Begins (fence : Fence) (line text : Text) : Prop where
  behind : Behind line text
  mark : fence.mark = backtick ∨ fence.mark = '~'
  wide : 3 ≤ fence.width
  run : ∃ after, text = List.replicate fence.width fence.mark ++ after ∧
    after.head? ≠ some fence.mark

/-- The block that a line opens. -/
structure OpenBlock.Begins (number : Nat) (line : Text) (block : OpenBlock) : Prop where
  line_eq : block.line = number
  source : ∃ text, block.source = [text] ∧ block.fence.Begins line text
  content : block.content = []

/-- The block that is being read. -/
def Leaf.block? : Leaf → Option OpenBlock
  | .fenced block => some block
  | _ => Option.none

theorem noBreak_of_isMark {mark : Char} (isMark : mark = backtick ∨ mark = '~') :
    mark ≠ '\n' ∧ mark ≠ '\r' := by
  rcases isMark with rfl | rfl <;> decide

private theorem head?_leadingRun (mark : Char) (text : Text) :
    (leadingRun mark text).2.head? ≠ some mark := by
  intro same
  have stops := List.head?_dropWhile_not (· == mark) text
  rw [leadingRun] at same
  rw [same] at stops
  simp at stops

private theorem begins_of_openingFence? {indent : Nat} {line text more after : Text} {fence : Fence}
    (behind : Behind line text) (opened : openingFence? indent text more = some (fence, after)) :
    fence.Begins line text := by
  cases text with
  | nil => cases opened
  | cons mark rest =>
      rw [openingFence?] at opened
      split at opened
      · next isFence =>
          cases opened
          simp only [Bool.and_eq_true, Bool.or_eq_true, decide_eq_true_eq] at isFence
          exact ⟨behind, isFence.1.1, isFence.1.2, _,
            eq_replicate_append_leadingRun mark (mark :: rest), head?_leadingRun mark _⟩
      · cases opened

theorem block?_htmlLeaf (stop : HtmlEnd) (text : Text) : (htmlLeaf stop text).block? = none := by
  cases stop with
  | lineWith closing =>
      rw [htmlLeaf]
      split <;> rfl
  | beforeBlank => rfl

section Line

variable {line : Text} {following : List Text}
  (toEnd : IsEnded line ∨ IsLine line ∧ following = [])

include toEnd

private theorem begins_of_openLeaf {nesting : Nesting} {number indent : Nat} {text : Text}
    {block : OpenBlock} (behind : Behind line text)
    (opened : (openLeaf nesting number indent text following).1.block? = some block) :
    block.Begins number line ∧ (openLeaf nesting number indent text following).2 = 0 := by
  have tail := codeTail_eq toEnd behind
  rw [openLeaf, tail] at opened ⊢
  dsimp only at opened ⊢
  cases html : HtmlEnd.beginning? text with
  | some stop =>
      rw [html] at opened
      rw [block?_htmlLeaf] at opened
      cases opened
  | none =>
      rw [html] at opened
      dsimp only at opened ⊢
      by_cases other : (isThematicBreak text || isAtxHeading text) = true
      · rw [if_pos other] at opened
        cases opened
      · rw [if_neg other] at opened ⊢
        cases found : openingFence? indent text [] with
        | some pair =>
            rw [found] at opened
            cases opened
            refine ⟨⟨rfl, ⟨text, ?_, begins_of_openingFence? behind found⟩, rfl⟩, rfl⟩
            simp [OpenBlock.opened]
        | none =>
            rw [found] at opened
            dsimp only at opened
            split at opened <;> cases opened

theorem begins_of_openLine {nesting : Nesting} {number : Nat} {block : OpenBlock}
    (opened : (openLine nesting number line following).leaf.block? = some block) :
    block.Begins number line ∧ (openLine nesting number line following).skip = 0 := by
  have reached := behind_follow line nesting.containers
  have inner := reached.trans (behind_openContainers (line.length + 1)
    (nesting.closeTo (follow line nesting.containers).kept.length)
    (follow line nesting.containers).cursor)
  rw [openLine] at opened ⊢
  dsimp only at opened ⊢
  generalize openContainers (line.length + 1)
    (nesting.closeTo (follow line nesting.containers).kept.length)
    (follow line nesting.containers).cursor = result at opened inner ⊢
  split at opened
  · cases opened
  · next noItem =>
      rw [if_neg noItem]
      split at opened
      · cases opened
      · next filled =>
          rw [if_neg filled]
          split at opened
          · cases opened
          · next few =>
              rw [if_neg few]
              have indented := inner.trans (result.2.1.behind_indentUpTo 4)
              exact begins_of_openLeaf toEnd indented opened

/-! ## Lines that go on -/

/-- What a line does about fenced blocks: the block that is open before it, the one that is open
after it, and the one that is complete. -/
inductive Effect (number : Nat) (line : Text) :
    Option OpenBlock → Option OpenBlock → Option FencedBlock → Prop
  | idle : Effect number line none none none
  | opens {block : OpenBlock} : block.Begins number line → Effect number line none (some block) none
  | code {block : OpenBlock} (owed : Nat) {rest : Text} : Behind line rest →
      Effect number line (some block) (some (block.addLine line owed rest)) none
  | closes {block : OpenBlock} {closing after : Text} : line = closing ++ after → IsLine closing →
      atLineEnd after = true →
      Effect number line (some block) none (some (block.close closing))
  | leaves {block : OpenBlock} : Effect number line (some block) none (some (block.close []))
  | changes {block next : OpenBlock} : next.Begins number line →
      Effect number line (some block) (some next) (some (block.close []))

end Line

private theorem behind_closingFence? {fence : Fence}
    (noBreak : fence.mark ≠ '\n' ∧ fence.mark ≠ '\r')
    {text after : Text} (closed : closingFence? fence text = some after) :
    Behind text after ∧ atLineEnd after = true := by
  rw [closingFence?] at closed
  split at closed
  · next empty =>
      cases closed
      rw [List.isEmpty_iff.mp empty]
      exact ⟨.refl [], rfl⟩
  · dsimp only at closed
    split at closed
    · next isFence =>
        cases closed
        have marks : Behind text (leadingRun fence.mark text).2 := by
          refine .dropWhile ⟨?_, ?_⟩ text
          · simpa using Ne.symm noBreak.1
          · simpa using Ne.symm noBreak.2
        have spaced : Behind (leadingRun fence.mark text).2
            ((leadingRun fence.mark text).2.dropWhile (· == ' ')) := .dropWhile (by decide) _
        simp only [Bool.and_eq_true] at isFence
        exact ⟨marks.trans spaced, isFence.2⟩
    · cases closed

/-- What a reader that has taken all lines so far can do with the next one: what it leaves open, and
the block that is complete. -/
inductive Reader.Reads (reader : Reader) (line : Text) (following : List Text) :
    Opened × Option FencedBlock → Prop
  | fresh : reader.leaf.block? = none →
      reader.Reads line following (openLine reader.nesting reader.line line following, none)
  | goesOn {opened : Opened} : reader.leaf.block? = none → opened.leaf.block? = none →
      reader.Reads line following (opened, none)
  | code {block next : OpenBlock} {skip : Nat} : reader.leaf.block? = some block →
      fencedLine reader.nesting.containers block line following = .code next skip →
      reader.Reads line following (⟨reader.nesting, .fenced next, skip⟩, none)
  | closed {block : OpenBlock} {found : FencedBlock} : reader.leaf.block? = some block →
      fencedLine reader.nesting.containers block line following = .closed found →
      reader.Reads line following (⟨reader.nesting, .none, 0⟩, some found)
  | outside {block : OpenBlock} : reader.leaf.block? = some block →
      fencedLine reader.nesting.containers block line following = .outside →
      reader.Reads line following
        (openLine reader.nesting reader.line line following, some (block.close []))

theorem Reader.reads_readOpen (reader : Reader) (line : Text) (following : List Text) :
    reader.Reads line following (reader.readOpen line following) := by
  rw [readOpen]
  dsimp only
  cases isLeaf : reader.leaf with
  | none => exact .fresh (by rw [isLeaf]; rfl)
  | paragraph =>
      have noBlock : reader.leaf.block? = none := by rw [isLeaf]; rfl
      dsimp only
      split
      · exact .goesOn noBlock rfl
      · exact .goesOn noBlock rfl
      · exact .fresh noBlock
  | indentedCode =>
      have noBlock : reader.leaf.block? = none := by rw [isLeaf]; rfl
      dsimp only
      split
      · exact .goesOn noBlock rfl
      · exact .fresh noBlock
  | html stop =>
      have noBlock : reader.leaf.block? = none := by rw [isLeaf]; rfl
      dsimp only
      split
      · exact .fresh noBlock
      · exact .goesOn noBlock (block?_htmlLeaf stop _)
  | fenced block =>
      have isOpen : reader.leaf.block? = some block := by rw [isLeaf]; rfl
      dsimp only
      cases step : fencedLine reader.nesting.containers block line following with
      | code next skip => exact .code isOpen step
      | closed found => exact .closed isOpen step
      | outside => exact .outside isOpen step

section Effect

variable {line : Text} {following : List Text}
  (toEnd : IsEnded line ∨ IsLine line ∧ following = [])

include toEnd

/-- A line that goes on with no block opens one or does nothing. -/
theorem openLine_effect (nesting : Nesting) (number : Nat) :
    Effect number line none (openLine nesting number line following).leaf.block? none := by
  cases opened : (openLine nesting number line following).leaf.block? with
  | none => exact .idle
  | some block => exact .opens (begins_of_openLine toEnd opened).1

/-- A line outside the containers of a block leaves the block, and may open another one. -/
theorem leave_effect (nesting : Nesting) (number : Nat) (block : OpenBlock) :
    Effect number line (some block) (openLine nesting number line following).leaf.block?
      (some (block.close [])) := by
  cases opened : (openLine nesting number line following).leaf.block? with
  | none => exact .leaves
  | some next => exact .changes (begins_of_openLine toEnd opened).1

private theorem skip_openLine (nesting : Nesting) (number : Nat) :
    (openLine nesting number line following).leaf.block? = none ∨
      (openLine nesting number line following).skip = 0 := by
  cases opened : (openLine nesting number line following).leaf.block? with
  | none => exact Or.inl rfl
  | some block => exact Or.inr (begins_of_openLine toEnd opened).2

theorem codeOf_fencedLine {containers : List Container} {block next : OpenBlock} {skip : Nat}
    (code : fencedLine containers block line following = .code next skip) :
    skip = 0 ∧ ∃ owed rest, Behind line rest ∧ next = block.addLine line owed rest := by
  rw [fencedLine] at code
  dsimp only at code
  split at code
  · cases code
  · split at code
    · cases code
    · rw [codeTail_eq toEnd (.refl line), List.append_nil, List.append_nil] at code
      cases code
      exact ⟨rfl, _, _, (behind_follow line containers).trans (Cursor.behind_indentUpTo _ _), rfl⟩

omit toEnd in
theorem closing_fencedLine {containers : List Container} {block : OpenBlock} {closed : FencedBlock}
    (mark : block.fence.mark = backtick ∨ block.fence.mark = '~')
    (closes : fencedLine containers block line following = .closed closed) :
    ∃ closing after, line = closing ++ after ∧ IsLine closing ∧ atLineEnd after = true ∧
      closed = block.close closing := by
  rw [fencedLine] at closes
  dsimp only at closes
  split at closes
  · cases closes
  · split at closes
    · next after isClosing =>
        cases closes
        split at isClosing
        · obtain ⟨marked, ends⟩ := behind_closingFence? (noBreak_of_isMark mark) isClosing
          obtain ⟨margin, whole, isLine⟩ := (((behind_follow line containers).trans
            (Cursor.behind_indentUpTo _ _)).trans (Cursor.behind_indentUpTo _ _)).trans marked
          refine ⟨margin, after, whole, isLine, ends, ?_⟩
          have kept : line.take (line.length - after.length) = margin := by
            rw [whole, List.length_append, Nat.add_sub_cancel, List.take_left]
          rw [kept]
        · cases isClosing
    · cases closes

theorem readOpen_effect {reader : Reader}
    (marks : ∀ block, reader.leaf.block? = some block →
      block.fence.mark = backtick ∨ block.fence.mark = '~') :
    Effect reader.line line reader.leaf.block? (reader.readOpen line following).1.leaf.block?
        (reader.readOpen line following).2 ∧
      ((reader.readOpen line following).1.leaf.block? = none ∨
        (reader.readOpen line following).1.skip = 0) := by
  have fresh := openLine_effect toEnd reader.nesting reader.line
  have taken := skip_openLine toEnd reader.nesting reader.line
  have reads := reader.reads_readOpen line following
  generalize reader.readOpen line following = result at reads ⊢
  cases reads with
  | fresh noBlock =>
      rw [noBlock]
      exact ⟨fresh, taken⟩
  | goesOn noBlock still =>
      rw [noBlock]
      dsimp only
      rw [still]
      exact ⟨.idle, Or.inl rfl⟩
  | code isOpen step =>
      obtain ⟨none, owed, rest, behind, rfl⟩ := codeOf_fencedLine toEnd step
      rw [isOpen]
      exact ⟨.code owed behind, Or.inr none⟩
  | closed isOpen step =>
      obtain ⟨closing, after, whole, isLine, ends, rfl⟩ := closing_fencedLine
        (marks _ isOpen) step
      rw [isOpen]
      exact ⟨.closes whole isLine ends, Or.inl rfl⟩
  | outside isOpen _ =>
      rw [isOpen]
      exact ⟨leave_effect toEnd reader.nesting reader.line _, taken⟩

end Effect

/-- A line does to fenced blocks what `Effect` lists, and nothing else; where a block is open, the
lines after it are read. -/
theorem Reader.read_effect {reader : Reader}
    (skips : reader.leaf.block? = none ∨ reader.skip = 0)
    (marks : ∀ block, reader.leaf.block? = some block →
      block.fence.mark = backtick ∨ block.fence.mark = '~') {line : Text}
    {following : List Text} (toEnd : IsEnded line ∨ IsLine line ∧ following = []) :
    Effect reader.line line reader.leaf.block? (reader.read line following).1.leaf.block?
        (reader.read line following).2 ∧
      ((reader.read line following).1.leaf.block? = none ∨
        (reader.read line following).1.skip = 0) := by
  rw [read]
  dsimp only
  by_cases reads : reader.skip = 0
  · rw [if_pos reads]
    exact readOpen_effect toEnd marks
  · rw [if_neg reads]
    have idle := skips.resolve_right reads
    refine ⟨?_, Or.inl idle⟩
    change Effect reader.line line reader.leaf.block? reader.leaf.block? none
    rw [idle]
    exact .idle

theorem Reader.line_read (reader : Reader) {line : Text} (isEnded : IsEnded line)
    (following : List Text) : (reader.read line following).1.line = reader.line + 1 := by
  rw [read]
  dsimp only
  rw [if_pos isEnded.endsWithNewline]
  split <;> rfl

end DocCheck.Markdown
