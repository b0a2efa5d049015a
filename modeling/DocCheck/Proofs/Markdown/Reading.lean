import DocCheck.Proofs.Markdown.Passage
import DocCheck.Proofs.Markdown.Wrapper

/-!
What the reader makes of the lines of a passage behind the margin of the containers that it is in.
Between passages nothing but these containers and at most a paragraph is open; a blank line, a line
of prose and a whole code block lead from there to there again.
-/

namespace DocCheck.Markdown

/-! ## Beginnings of lines -/

/-- A character that begins nothing but a paragraph or a fence. -/
structure IsPlainStart (c : Char) : Prop where
  dark : c ≠ ' ' ∧ c ≠ '\t'
  noSpace : isInlineSpace c = false
  noBreak : c ≠ '\n' ∧ c ≠ '\r'
  noBullet : isBullet c = false
  noDigit : Text.isAsciiDigit c = false
  noMarkup : ∀ mark ∈ ['>', '#', '_', '=', '<', '['], c ≠ mark

private theorem isPlainStart_of_letter {c : Char} (letter : Text.isAsciiLetter c = true) :
    IsPlainStart c := by
  have other : ∀ d, HtmlEnd.isAlphanumeric d = false → c ≠ d := by
    intro d noLetter
    refine ne_of_isAlphanumeric ?_ noLetter
    rw [HtmlEnd.isAlphanumeric, letter, Bool.true_or]
  have noDigit : Text.isAsciiDigit c = false := by
    simp only [Text.isAsciiLetter, Bool.or_eq_true, Bool.and_eq_true, decide_eq_true_eq] at letter
    simp only [Text.isAsciiDigit, Bool.and_eq_false_iff, decide_eq_false_iff_not]
    omega
  refine ⟨⟨other _ (by decide), other _ (by decide)⟩, ?_, ⟨other _ (by decide),
    other _ (by decide)⟩, ?_, noDigit, ?_⟩
  · simp [isInlineSpace, other ' ' (by decide), other '\t' (by decide), other '\x0b' (by decide),
      other '\x0c' (by decide)]
  · simp [isBullet, other '-' (by decide), other '+' (by decide), other '*' (by decide)]
  · intro mark markup
    have noLetter : ∀ mark ∈ ['>', '#', '_', '=', '<', '['],
        HtmlEnd.isAlphanumeric mark = false :=
      Text.forall_mem_of_all (by decide)
    exact other mark (noLetter mark markup)

theorem WrittenBlock.isPlainStart_mark (block : WrittenBlock) : IsPlainStart block.mark := by
  rcases block.mark_eq with isMark | isMark
  · rw [isMark]
    exact ⟨by decide, by decide, by decide, by decide, by decide,
      Text.forall_mem_of_all (by decide)⟩
  · rw [isMark]
    exact ⟨by decide, by decide, by decide, by decide, by decide,
      Text.forall_mem_of_all (by decide)⟩

namespace IsPlainStart

variable {c : Char} (plain : IsPlainStart c) (rest : Text)

include plain

private theorem atLineEnd_eq_false : atLineEnd (c :: rest) = false := by
  simp [atLineEnd, plain.noBreak]

private theorem isBlank_spaces_append (count : Nat) :
    isBlank (spaces count ++ c :: rest) = false := by
  have passed : (spaces count ++ c :: rest).dropWhile isInlineSpace = c :: rest := by
    rw [List.dropWhile_append_of_pos (by simp [isInlineSpace]),
      List.dropWhile_cons_of_neg (by simp [plain.noSpace])]
  rw [isBlank, passed, plain.atLineEnd_eq_false]

private theorem isThematicBreak_eq_false : isThematicBreak (c :: rest) = false := by
  have noBullet := plain.noBullet
  simp only [isBullet, Bool.or_eq_false_iff, decide_eq_false_iff_not] at noBullet
  simp [isThematicBreak, noBullet, plain.noMarkup '_' (by decide)]

private theorem isAtxHeading_eq_false : isAtxHeading (c :: rest) = false := by
  simp [isAtxHeading, leadingRun, plain.noMarkup '#' (by decide)]

private theorem isSetextUnderline_eq_false : isSetextUnderline (c :: rest) = false := by
  have noBullet := plain.noBullet
  simp only [isBullet, Bool.or_eq_false_iff, decide_eq_false_iff_not] at noBullet
  simp [isSetextUnderline, noBullet, plain.noMarkup '=' (by decide)]

private theorem interrupting?_eq_none : HtmlEnd.interrupting? (c :: rest) = none := by
  have noTag := plain.noMarkup '<' (by decide)
  rw [HtmlEnd.interrupting?]
  exact fun tail equality => absurd (List.cons.inj equality).1 noTag

private theorem beginning?_eq_none : HtmlEnd.beginning? (c :: rest) = none := by
  have noTag := plain.noMarkup '<' (by decide)
  rw [HtmlEnd.beginning?, plain.interrupting?_eq_none]
  exact fun tail equality => absurd (List.cons.inj equality).1 noTag

private theorem itemStart?_eq_none : itemStart? (c :: rest) = none := by
  simp [itemStart?, plain.noBullet, plain.noDigit]

private theorem linesAfter?_eq_none (containers : List Container) (following : List Text) :
    LinkDefinition.linesAfter? containers (c :: rest) following = none := by
  have noBracket := plain.noMarkup '[' (by decide)
  rw [LinkDefinition.linesAfter?]
  exact fun tail equality => absurd (List.cons.inj equality).1 noBracket

/-- Only a fence makes such a line interrupt a paragraph. -/
private theorem interrupts_eq (following : List Text) :
    interrupts true (c :: rest) following =
      (openingFence? 0 (c :: rest) (codeTail (c :: rest) following).1).isSome := by
  have noQuote : ((c :: rest).head? == some '>') = false := by
    simpa using plain.noMarkup '>' (by decide)
  rw [interrupts, plain.atLineEnd_eq_false, plain.isThematicBreak_eq_false,
    plain.isAtxHeading_eq_false, plain.itemStart?_eq_none, plain.interrupting?_eq_none, noQuote]
  simp

/-- Such a line, indented by three columns at most, opens no container. -/
theorem openContainers_eq {indent : Nat} (small : indent ≤ 3) (fuel column : Nat)
    (nesting : Nesting) :
    openContainers (fuel + 1) nesting ⟨spaces indent ++ c :: rest, column, 0⟩ =
      (nesting, ⟨spaces indent ++ c :: rest, column, 0⟩, false) := by
  have few : indent ≠ 4 := by omega
  simp only [openContainers, Cursor.indentUpTo_four plain.dark small, few, if_false,
    listMarker?_eq_none plain.noBullet plain.noDigit,
    quoteMark?_eq_none (plain.noMarkup '>' (by decide))]

/-- Behind the containers that it opens or goes on with, such a line opens a leaf. -/
theorem openLine_of_openContainers {nesting inner : Nesting} {indent column : Nat}
    (small : indent ≤ 3) {line : Text} (number : Nat) (following : List Text)
    (reached : openContainers (line.length + 1)
        (nesting.closeTo (follow line nesting.containers).kept.length)
        (follow line nesting.containers).cursor =
      (inner, ⟨spaces indent ++ c :: rest, column, 0⟩, false)) :
    openLine nesting number line following =
      ⟨inner.closeList, (openLeaf inner.closeList number indent (c :: rest) following).1,
        (openLeaf inner.closeList number indent (c :: rest) following).2⟩ := by
  have few : indent ≠ 4 := by omega
  simp only [openLine, reached, plain.isBlank_spaces_append, Cursor.indentUpTo_four plain.dark small,
    few, Bool.false_eq_true, if_false]

private theorem openLine_eq {nesting : Nesting} {wrappers : List Wrapper}
    (within : nesting.IsWithin wrappers) {indent : Nat} (small : indent ≤ 3) (number : Nat)
    (following : List Text) :
    openLine nesting number (margin wrappers ++ (spaces indent ++ c :: rest)) following =
      ⟨nesting.closeList, (openLeaf nesting.closeList number indent (c :: rest) following).1,
        (openLeaf nesting.closeList number indent (c :: rest) following).2⟩ := by
  have kept := within.holds.follow (spaces indent ++ c :: rest)
  have reached := plain.openContainers_eq rest small
    (margin wrappers ++ (spaces indent ++ c :: rest)).length (2 * wrappers.length) nesting
  refine plain.openLine_of_openContainers rest small number following (Eq.trans ?_ reached)
  rw [kept, Nesting.closeTo_length]

end IsPlainStart

/-! ## Blank lines and prose -/

/-- Between passages: in the containers nothing is open but perhaps a paragraph. -/
def Reader.between (nesting : Nesting) (leaf : Leaf) (line : Nat) : Reader :=
  ⟨nesting, leaf, 0, line⟩

/-- What may be open between passages. -/
def Leaf.IsLoose (leaf : Leaf) : Prop :=
  leaf = .none ∨ leaf = .paragraph

/-- A line that ends what paragraph may be open is read afresh. -/
private theorem read_between_of_ended {leaf : Leaf} (loose : leaf.IsLoose) (nesting : Nesting)
    (line : Nat) {text : Text} (following : List Text) (newline : endsWithNewline text = true)
    (ended : paragraphLine nesting.containers text following = .ended) :
    (Reader.between nesting leaf line).read text following =
      (⟨(openLine nesting line text following).nesting,
        (openLine nesting line text following).leaf,
        (openLine nesting line text following).skip, line + 1⟩, none) := by
  rcases loose with rfl | rfl
  · simp only [Reader.read, Reader.between, Reader.readOpen, newline, if_true]
  · simp only [Reader.read, Reader.between, Reader.readOpen, newline, if_true, ended]

section Within

variable {nesting : Nesting} {wrappers : List Wrapper}

private theorem indentUpTo_blank (indent column : Nat) :
    (⟨terminated (spaces indent), column, 0⟩ : Cursor).indentUpTo 4 =
      (min indent 4, ⟨spaces (indent - 4) ++ ['\n'], column + min indent 4, 0⟩) :=
  Cursor.indentUpTo_spaces (by decide) 4 column indent []

private theorem openLine_blank (within : nesting.IsWithin wrappers) (number indent : Nat)
    (following : List Text) :
    openLine nesting number (margin wrappers ++ terminated (spaces indent)) following =
      ⟨nesting.afterBlank, .none, 0⟩ := by
  have reached (fuel column : Nat) :
      openContainers (fuel + 1) nesting ⟨terminated (spaces indent), column, 0⟩ =
        (nesting, ⟨terminated (spaces indent), column, 0⟩, false) := by
    by_cases deep : min indent 4 = 4
    · simp only [openContainers, indentUpTo_blank, deep, if_true]
    · have none : indent - 4 = 0 := by omega
      simp only [openContainers, indentUpTo_blank, deep, if_false, none, List.replicate_zero,
        List.nil_append, listMarker?_eq_none (c := '\n') (by decide) (by decide),
        quoteMark?_eq_none (c := '\n') (by decide)]
  have blank : isBlank (terminated (spaces indent)) = true := by
    have passedOver : (terminated (spaces indent)).dropWhile isInlineSpace = ['\n'] := by
      rw [terminated, List.dropWhile_append_of_pos (by simp [isInlineSpace])]
      rfl
    rw [isBlank, passedOver]
    rfl
  simp only [openLine, within.holds.follow, Nesting.closeTo_length, reached, blank,
    Bool.false_eq_true, if_false, if_true]

private theorem paragraphLine_blank (within : nesting.IsWithin wrappers) (indent : Nat)
    (following : List Text) :
    paragraphLine nesting.containers (margin wrappers ++ terminated (spaces indent)) following =
      .ended := by
  by_cases deep : min indent 4 = 4
  · have atEnd (column : Nat) :
        atLineEnd (⟨spaces (indent - 4) ++ ['\n'], column, 0⟩ : Cursor).skipBlanks = true := by
      rw [Cursor.skipBlanks, List.dropWhile_append_of_pos (by simp)]
      rfl
    simp [paragraphLine, within.holds.follow, indentUpTo_blank, deep, atEnd]
  · have none : indent - 4 = 0 := by omega
    have few : min indent 4 < 4 := by omega
    have underline : isSetextUnderline ['\n'] = false := by decide
    have ends : interrupts true ['\n'] following = true := by simp [interrupts, atLineEnd]
    simp [paragraphLine, within.holds.follow, indentUpTo_blank, none, few, underline, ends]

theorem read_blank (within : nesting.IsWithin wrappers) {leaf : Leaf} (loose : leaf.IsLoose)
    (line indent : Nat) (following : List Text) :
    (Reader.between nesting leaf line).read (terminated (margin wrappers ++ spaces indent))
        following =
      (Reader.between nesting.afterBlank .none (line + 1), none) := by
  have ended := paragraphLine_blank within indent following
  rw [← terminated_append] at ended
  rw [read_between_of_ended loose nesting line following (endsWithNewline_terminated _) ended,
    terminated_append, openLine_blank within]
  rfl

private theorem openingFence?_of_letter {c : Char} (letter : Text.isAsciiLetter c = true)
    (indent : Nat) (rest more : Text) : openingFence? indent (c :: rest) more = none := by
  have noBacktick : c ≠ backtick := by
    rintro rfl
    exact absurd letter (by decide)
  have noTilde : c ≠ '~' := by
    rintro rfl
    exact absurd letter (by decide)
  simp [openingFence?, noBacktick, noTilde]

theorem read_prose (within : nesting.IsWithin wrappers) {leaf : Leaf} (loose : leaf.IsLoose)
    (line : Nat) (prose : Prose) (following : List Text) :
    ∃ inner : Nesting, inner.IsWithin wrappers ∧
      (Reader.between nesting leaf line).read
          (terminated (margin wrappers ++ prose.first :: prose.rest)) following =
        (Reader.between inner .paragraph (line + 1), none) := by
  have plain := isPlainStart_of_letter prose.first_letter
  have noFence := openingFence?_of_letter prose.first_letter
  have newline := endsWithNewline_terminated (margin wrappers ++ prose.first :: prose.rest)
  have shape : terminated (margin wrappers ++ prose.first :: prose.rest) =
      margin wrappers ++ (prose.first :: (prose.rest ++ ['\n'])) := terminated_append _ _
  rcases loose with rfl | rfl
  · refine ⟨nesting.closeList, within.closeList, ?_⟩
    have opened := plain.openLine_eq (prose.rest ++ ['\n']) within (Nat.zero_le 3) line following
    rw [spaces, List.replicate_zero, List.nil_append, ← shape] at opened
    have leaf : openLeaf nesting.closeList line 0 (prose.first :: (prose.rest ++ ['\n']))
        following = (.paragraph, 0) := by
      simp [openLeaf, plain.beginning?_eq_none, plain.isThematicBreak_eq_false,
        plain.isAtxHeading_eq_false, noFence, plain.linesAfter?_eq_none]
    simp only [Reader.read, Reader.between, Reader.readOpen, newline, if_true, opened, leaf]
  · refine ⟨nesting, within, ?_⟩
    have stays : interrupts true (prose.first :: (prose.rest ++ ['\n'])) following = false := by
      rw [plain.interrupts_eq, noFence]
      rfl
    have filled (column : Nat) :
        atLineEnd (⟨prose.first :: (prose.rest ++ ['\n']), column, 0⟩ : Cursor).skipBlanks =
          false := by
      have dark : (prose.first = ' ' || prose.first = '\t') = false := by
        simp [plain.dark.1, plain.dark.2]
      rw [Cursor.skipBlanks, List.dropWhile_cons_of_neg (by simp [dark]),
        plain.atLineEnd_eq_false]
    have goesOn : paragraphLine nesting.containers
        (margin wrappers ++ (prose.first :: (prose.rest ++ ['\n']))) following = .goesOn := by
      simp [paragraphLine, within.holds.follow, Cursor.indentUpTo_of_dark plain.dark, filled,
        plain.isSetextUnderline_eq_false, stays]
    rw [← shape] at goesOn
    simp only [Reader.read, Reader.between, Reader.readOpen, newline, if_true, goesOn]

end Within

/-! ## Code blocks -/

namespace WrittenBlock

variable (block : WrittenBlock)

/-- The fence that opens the block. -/
def fence : Fence :=
  ⟨block.mark, block.width, block.openIndent⟩

/-- The block before its first line of code. -/
def opened (nested : Bool) (line : Nat) : OpenBlock :=
  .opened block.fence line nested (terminated block.opening) (terminated block.info)

theorem exists_opening_eq :
    ∃ rest, terminated block.opening = block.mark :: rest := by
  obtain ⟨width, isWidth⟩ := Nat.exists_eq_succ_of_ne_zero (show block.width ≠ 0 by
    have := block.three_le_width
    omega)
  rw [opening, isWidth, terminated, List.replicate_succ]
  exact ⟨_, rfl⟩

private theorem openingFence?_opening (indent : Nat) :
    openingFence? indent (terminated block.opening) [] =
      some (⟨block.mark, block.width, indent⟩, terminated block.info) := by
  obtain ⟨rest, isOpening⟩ := block.exists_opening_eq
  have stops : (terminated block.info).head? ≠ some block.mark := by
    obtain ⟨c, behind, isTag, _⟩ := block.exists_tag_cons
    obtain ⟨suffix, isInfo, _⟩ := block.exists_info_eq
    have different := block.head?_info_ne_mark
    rw [isInfo, isTag] at different
    rwa [terminated, isInfo, isTag]
  have run : leadingRun block.mark (terminated block.opening) =
      (block.width, terminated block.info) := by
    rw [terminated, opening, List.append_assoc]
    exact leadingRun_replicate stops block.width
  have isMark : (block.mark = backtick || block.mark = '~') = true := by
    simpa using block.mark_eq
  have untilEnd : (terminated block.info).takeWhile (· != '\n') = block.info := by
    rw [terminated, List.takeWhile_append_of_pos]
    · simp
    · intro c member
      simpa using (block.isLine_info c member).1
  have unmarked : (block.mark = backtick && block.info.contains backtick) = false := by
    by_cases isBacktick : block.mark = backtick
    · simpa [isBacktick] using block.backtick_notMem_info isBacktick
    · simp [isBacktick]
  rw [isOpening] at run ⊢
  simp only [openingFence?, run, isMark, block.three_le_width, List.append_nil, untilEnd, unmarked,
    decide_true, Bool.not_false, Bool.and_true, if_true]

theorem openLeaf_opening (nesting : Nesting) (line : Nat) (following : List Text) :
    openLeaf nesting line block.openIndent (terminated block.opening) following =
      (.fenced (block.opened nesting.hasMargin line), 0) := by
  obtain ⟨rest, isOpening⟩ := block.exists_opening_eq
  have plain := block.isPlainStart_mark
  have fences := block.openingFence?_opening block.openIndent
  have tail := codeTail_terminated block.opening following
  rw [opened, fence]
  rw [isOpening] at fences tail ⊢
  simp only [openLeaf, tail, plain.beginning?_eq_none, plain.isThematicBreak_eq_false,
    plain.isAtxHeading_eq_false, fences, Bool.or_false, Bool.false_eq_true, if_false,
    List.append_nil]

theorem read_opening {nesting : Nesting} {wrappers : List Wrapper}
    (within : nesting.IsWithin wrappers) {leaf : Leaf} (loose : leaf.IsLoose) (line : Nat)
    (following : List Text) :
    (Reader.between nesting leaf line).read
        (terminated (margin wrappers ++ (spaces block.openIndent ++ block.opening))) following =
      (Reader.between nesting.closeList (.fenced (block.opened (!wrappers.isEmpty) line))
        (line + 1), none) := by
  obtain ⟨rest, isOpening⟩ := block.exists_opening_eq
  have plain := block.isPlainStart_mark
  have shape : terminated (margin wrappers ++ (spaces block.openIndent ++ block.opening)) =
      margin wrappers ++ (spaces block.openIndent ++ block.mark :: rest) := by
    rw [← isOpening, terminated_append, terminated_append]
  have newline := endsWithNewline_terminated
    (margin wrappers ++ (spaces block.openIndent ++ block.opening))
  have ended : paragraphLine nesting.containers
      (margin wrappers ++ (spaces block.openIndent ++ block.mark :: rest)) following = .ended := by
    have few : block.openIndent < 4 := Nat.lt_succ_of_le block.openIndent_le
    have interrupted : interrupts true (block.mark :: rest) following = true := by
      rw [plain.interrupts_eq, ← isOpening, codeTail_terminated, block.openingFence?_opening]
      rfl
    simp [paragraphLine, within.holds.follow, Cursor.indentUpTo_four plain.dark block.openIndent_le,
      few, interrupted, plain.isSetextUnderline_eq_false]
  have margins : nesting.closeList.hasMargin = !wrappers.isEmpty :=
    within.closeList.holds.any_hasMargin
  rw [← shape] at ended
  rw [read_between_of_ended loose nesting line following newline ended, shape,
    plain.openLine_eq rest within block.openIndent_le, ← isOpening, block.openLeaf_opening, margins]
  rfl

end WrittenBlock

/-- A line of marks and spaces is nothing else if it ends behind them. -/
private theorem eq_append_spaces_of_atLineEnd {mark : Char} (noBreak : mark ≠ '\n')
    {width count : Nat} {rest after : Text} (isLine : IsLine rest)
    (whole : terminated rest = List.replicate width mark ++ spaces count ++ after)
    (ends : atLineEnd after = true) : rest = List.replicate width mark ++ spaces count := by
  have unbroken : '\n' ∉ List.replicate width mark ++ spaces count := by
    intro member
    rcases List.mem_append.mp member with inMarks | inSpaces
    · exact noBreak (List.eq_of_mem_replicate inMarks).symm
    · exact absurd (List.eq_of_mem_replicate inSpaces) (by decide)
  cases after with
  | nil =>
      rw [List.append_nil] at whole
      rw [← whole] at unbroken
      exact absurd (List.mem_append_right rest (List.mem_singleton_self '\n')) unbroken
  | cons c after =>
      rw [atLineEnd, Bool.or_eq_true, decide_eq_true_eq, decide_eq_true_eq] at ends
      -- Before its newline a line holds no carriage return that could be the end.
      have isNewline : c = '\n' := by
        have member : c ∈ terminated rest := by
          rw [whole]
          exact List.mem_append_right _ List.mem_cons_self
        rcases List.mem_append.mp member with inRest | isLast
        · exact absurd ends (by simpa using isLine c inRest)
        · exact List.mem_singleton.mp isLast
      subst isNewline
      obtain ⟨same, -, -⟩ := Text.append_cons_unique (fun c => c = '\n')
        (by decide) (by decide) (fun d member => by simpa using (isLine d member).1)
        (fun d member => by
          rw [decide_eq_false_iff_not]
          rintro rfl
          exact unbroken member) whole
      exact same

/-- What cannot close a fence as a line does not close it either behind its indentation. -/
private theorem closingFence?_eq_none {fence : Fence} (noBreak : fence.mark ≠ '\n') {indent : Nat}
    {rest : Text} (isLine : IsLine rest) (small : indent ≤ 3)
    (isOpen : ¬ ClosesFence fence.mark fence.width (spaces indent ++ rest)) :
    closingFence? fence (terminated rest) = none := by
  have filled : (terminated rest).isEmpty = false := by simp [terminated]
  rw [closingFence?, filled, if_neg (by decide)]
  dsimp only
  split
  · next closes =>
      obtain ⟨wide, ends⟩ := Bool.and_eq_true_iff.mp closes
      have marks := eq_replicate_append_leadingRun fence.mark (terminated rest)
      obtain ⟨count, after, isRest, stops⟩ :=
        exists_spaces (leadingRun fence.mark (terminated rest)).2
      rw [isRest, dropWhile_spaces stops] at ends
      rw [isRest, ← List.append_assoc] at marks
      have whole := eq_append_spaces_of_atLineEnd noBreak isLine marks ends
      exact absurd ⟨indent, _, count, small, of_decide_eq_true wide,
        congrArg (spaces indent ++ ·) whole⟩ isOpen
  · rfl

/-- A line that cannot close the fence is a line of code. Only in a fence without indentation it is
sure to be code as it stands; tabs matter where lines have a margin. -/
private theorem fencedLine_code {wrappers : List Wrapper} {containers : List Container}
    (holds : Holds wrappers containers) {block : OpenBlock} (noBreak : block.fence.mark ≠ '\n')
    (small : block.fence.indent ≤ 3) {line : Text} (isLine : IsLine line)
    (tabless : wrappers = [] ∨ '\t' ∉ line)
    (isOpen : ¬ ClosesFence block.fence.mark block.fence.width line) (following : List Text) :
    ∃ content, (block.fence.indent = 0 → content = terminated line) ∧
      fencedLine containers block (terminated (margin wrappers ++ line)) following =
        .code { block with
          source := terminated (margin wrappers ++ line) :: block.source
          content := content :: block.content } 0 := by
  obtain ⟨count, rest, rfl, stops⟩ := exists_spaces line
  have restLine : IsLine rest := fun c member => isLine c (List.mem_append_right _ member)
  obtain ⟨c, tail, isTail, noSpace⟩ : ∃ c tail, terminated rest = c :: tail ∧ c ≠ ' ' := by
    cases rest with
    | nil => exact ⟨'\n', [], rfl, by decide⟩
    | cons c tail => exact ⟨c, terminated tail, rfl, by simpa using stops⟩
  have shape : terminated (margin wrappers ++ (spaces count ++ rest)) =
      margin wrappers ++ (spaces count ++ c :: tail) := by
    rw [← isTail, terminated_append, terminated_append]
  have aligned : 2 * wrappers.length % 4 = 0 ∨ c ≠ '\t' := by
    rcases tabless with rfl | absent
    · exact Or.inl rfl
    · right
      rintro rfl
      have member : '\t' ∈ terminated rest := isTail ▸ List.mem_cons_self
      rcases List.mem_append.mp member with inRest | isNewline
      · exact absent (List.mem_append_right _ inRest)
      · exact absurd (List.mem_singleton.mp isNewline) (by decide)
  generalize behind :
    ((⟨spaces count ++ c :: tail, 2 * wrappers.length, 0⟩ : Cursor).indentUpTo
      block.fence.indent).2 = inner
  have margin := Cursor.indentUpTo_behind_margin small noSpace aligned behind.symm
  have unclosed : (if (inner.indentUpTo (4 - block.fence.indent)).1 < 4 - block.fence.indent then
      closingFence? block.fence (inner.indentUpTo (4 - block.fence.indent)).2.rest else none) =
        none := by
    split
    · next close =>
        obtain ⟨few, noTab⟩ := margin.1.mp close
        rw [margin.2 ⟨few, noTab⟩, ← isTail]
        exact closingFence?_eq_none noBreak restLine few isOpen
    · rfl
  have tailless := codeTail_terminated (Markdown.margin wrappers ++ (spaces count ++ rest)) following
  refine ⟨List.replicate inner.owed ' ' ++ OpenBlock.withoutReturn inner.rest, ?_, ?_⟩
  · intro unindented
    have unreturned : '\r' ∉ terminated (spaces count ++ rest) := by
      intro member
      rcases List.mem_append.mp member with inLine | isNewline
      · exact (isLine '\r' inLine).2 rfl
      · exact absurd (List.mem_singleton.mp isNewline) (by decide)
    rw [unindented, Cursor.indentUpTo_of_owed_eq_zero, Cursor.passSpaces_zero] at behind
    rw [← behind, ← isTail, ← terminated_append, OpenBlock.withoutReturn_of_notMem unreturned]
    rfl
  · rw [shape] at tailless ⊢
    simp only [fencedLine, holds.follow, behind, unclosed, tailless, OpenBlock.addLine,
      List.append_nil, Bool.not_true, Bool.false_eq_true, if_false]

namespace WrittenBlock

variable (written : WrittenBlock)

private theorem closingFence?_closing :
    closingFence? written.fence (List.replicate written.closeWidth written.mark ++
      terminated (spaces written.closeSpaces)) = some ['\n'] := by
  have plain := written.isPlainStart_mark
  have filled : (List.replicate written.closeWidth written.mark ++
      terminated (spaces written.closeSpaces)).isEmpty = false := by
    simp [terminated]
  have stops : (terminated (spaces written.closeSpaces)).head? ≠ some written.mark := by
    cases written.closeSpaces with
    | zero => exact fun same => plain.noBreak.1 (Option.some.inj same).symm
    | succ count => exact fun same => plain.dark.1 (Option.some.inj same).symm
  have spaced : (terminated (spaces written.closeSpaces)).dropWhile (· == ' ') = ['\n'] :=
    dropWhile_spaces (by decide) written.closeSpaces
  rw [closingFence?, filled, fence]
  simp only [leadingRun_replicate stops, spaced, written.width_le, Bool.false_eq_true, if_false,
    decide_true, Bool.true_and]
  rfl

private theorem fencedLine_closing {wrappers : List Wrapper} {containers : List Container}
    (holds : Holds wrappers containers) {block : OpenBlock} (sameFence : block.fence = written.fence)
    (following : List Text) :
    fencedLine containers block (terminated (margin wrappers ++ written.closing)) following =
      .closed (block.close (margin wrappers ++ written.closing)) := by
  have plain := written.isPlainStart_mark
  have closes := written.closingFence?_closing
  have shape : terminated (margin wrappers ++ written.closing) = margin wrappers ++
      (spaces written.closeIndent ++ (List.replicate written.closeWidth written.mark ++
        terminated (spaces written.closeSpaces))) := by
    rw [closing, terminated_append, terminated_append, terminated_append]
  obtain ⟨tail, isTail⟩ : ∃ tail, List.replicate written.closeWidth written.mark ++
      terminated (spaces written.closeSpaces) = written.mark :: tail := by
    obtain ⟨width, isWidth⟩ := Nat.exists_eq_succ_of_ne_zero (show written.closeWidth ≠ 0 by
      have := written.three_le_width
      have := written.width_le
      omega)
    rw [isWidth]
    exact ⟨_, rfl⟩
  rw [isTail] at shape closes
  generalize behind :
    ((⟨spaces written.closeIndent ++ written.mark :: tail, 2 * wrappers.length, 0⟩ :
      Cursor).indentUpTo written.openIndent).2 = inner
  have margin := Cursor.indentUpTo_behind_margin written.openIndent_le plain.dark.1
    (Or.inr plain.dark.2) behind.symm
  have close : (inner.indentUpTo (4 - written.openIndent)).1 < 4 - written.openIndent :=
    margin.1.mpr ⟨written.closeIndent_le, plain.dark.2⟩
  have reached := margin.2 ⟨written.closeIndent_le, plain.dark.2⟩
  have sameMargin : written.fence.indent = written.openIndent := rfl
  have kept := take_terminated (Markdown.margin wrappers ++ written.closing)
  rw [shape] at kept ⊢
  simp only [fencedLine, holds.follow, sameMargin, sameFence, behind, close, reached, closes, kept,
    List.length_singleton, Bool.not_true, Bool.false_eq_true, if_false, if_true]

end WrittenBlock

/-! ## Runs of the reader -/

namespace Reader

theorem blocks_cons (reader : Reader) (line : Text) (following : List Text) :
    reader.blocks (line :: following) =
      (reader.read line following).2.toList ++ (reader.read line following).1.blocks following :=
  rfl

variable {nesting : Nesting} {wrappers : List Wrapper}

theorem read_closing (within : nesting.IsWithin wrappers) (written : WrittenBlock)
    {block : OpenBlock} (sameFence : block.fence = written.fence) (number : Nat)
    (following : List Text) :
    (between nesting (.fenced block) number).read
        (terminated (margin wrappers ++ written.closing)) following =
      (between nesting .none (number + 1),
        some (block.close (margin wrappers ++ written.closing))) := by
  have closes := written.fencedLine_closing within.holds sameFence following
  simp only [Reader.read, between, readOpen, closes, endsWithNewline_terminated, if_true]

/-- The lines of code of a block; in a fence without indentation they are its content. -/
theorem blocks_code (within : nesting.IsWithin wrappers) {block : OpenBlock}
    (noBreak : block.fence.mark ≠ '\n') (small : block.fence.indent ≤ 3) {body : List Text}
    (lines : ∀ line ∈ body, IsLine line) (tabless : wrappers = [] ∨ ∀ line ∈ body, '\t' ∉ line)
    (isOpen : ∀ line ∈ body, ¬ ClosesFence block.fence.mark block.fence.width line) (number : Nat)
    (following : List Text) :
    ∃ content, (block.fence.indent = 0 →
        content = (body.map terminated).reverse ++ block.content) ∧
      (between nesting (.fenced block) number).blocks
          ((body.map fun line => terminated (margin wrappers ++ line)) ++ following) =
        (between nesting (.fenced { block with
          source := (body.map fun line => terminated (margin wrappers ++ line)).reverse ++
            block.source
          content := content }) (number + body.length)).blocks following := by
  induction body generalizing block number with
  | nil => exact ⟨block.content, fun _ => rfl, rfl⟩
  | cons line body inductionHypothesis =>
      have first := List.mem_cons_self (a := line) (l := body)
      obtain ⟨content, asWritten, code⟩ := fencedLine_code within.holds noBreak small
        (lines line first) (tabless.imp_right fun none => none line first) (isOpen line first)
        ((body.map fun line => terminated (margin wrappers ++ line)) ++ following)
      have read : (between nesting (.fenced block) number).read
          (terminated (margin wrappers ++ line))
          ((body.map fun line => terminated (margin wrappers ++ line)) ++ following) =
            (between nesting (.fenced { block with
              source := terminated (margin wrappers ++ line) :: block.source
              content := content :: block.content }) (number + 1), none) := by
        simp only [Reader.read, between, readOpen, code, endsWithNewline_terminated, if_true]
      obtain ⟨contents, areWritten, rest⟩ := @inductionHypothesis { block with
        source := terminated (margin wrappers ++ line) :: block.source
        content := content :: block.content } noBreak small
        (fun other member => lines other (List.mem_cons_of_mem line member))
        (tabless.imp_right fun none other member => none other (List.mem_cons_of_mem line member))
        (fun other member => isOpen other (List.mem_cons_of_mem line member)) (number + 1)
      refine ⟨contents, fun unindented => ?_, ?_⟩
      · rw [areWritten unindented, asWritten unindented, List.map_cons, List.reverse_cons,
          List.append_assoc]
        rfl
      · rw [List.map_cons, List.cons_append, blocks_cons, read]
        simp only [Option.toList_none, List.nil_append, rest]
        rw [List.reverse_cons, List.append_assoc, List.length_cons, Nat.add_assoc, Nat.add_comm 1]
        rfl

end Reader

end DocCheck.Markdown
