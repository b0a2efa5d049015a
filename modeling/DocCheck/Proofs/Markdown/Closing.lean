import DocCheck.Proofs.Markdown.Standing

/-!
Where fences are closed outside quotes and list items. Main statement: a block there takes the lines
behind the one that opens it up to the first line that closes it, and if none does, all of them.
-/

namespace DocCheck.Markdown

/-! ## Lines that close a fence -/

/-- The line closes the fence where no container has a margin: behind at most three spaces it holds
the marks of the fence at least as many times, and then nothing but spaces. -/
def Fence.isClosedBy (fence : Fence) (line : Text) : Bool :=
  let indent := leadingRun ' ' line
  let run := leadingRun fence.mark indent.2
  indent.1 ≤ 3 && fence.width ≤ run.1 && atLineEnd (run.2.dropWhile (· == ' '))

/-- What a reader knows of the fence of an open block. -/
structure Fence.IsNarrow (fence : Fence) : Prop where
  mark : fence.mark = backtick ∨ fence.mark = '~'
  wide : 3 ≤ fence.width
  indent_le : fence.indent ≤ 3

namespace Fence

variable {fence : Fence}

theorem isClosedBy_spaces_append {rest : Text} (stops : rest.head? ≠ some ' ') (count : Nat) :
    fence.isClosedBy (spaces count ++ rest) =
      (decide (count ≤ 3) && decide (fence.width ≤ (leadingRun fence.mark rest).1) &&
        atLineEnd ((leadingRun fence.mark rest).2.dropWhile (· == ' '))) := by
  rw [isClosedBy, leadingRun_replicate stops]

private theorem closingFence?_cons (c : Char) (rest : Text) :
    (closingFence? fence (c :: rest)).isSome =
      (decide (fence.width ≤ (leadingRun fence.mark (c :: rest)).1) &&
        atLineEnd ((leadingRun fence.mark (c :: rest)).2.dropWhile (· == ' '))) := by
  rw [closingFence?]
  simp only [List.isEmpty_cons, Bool.false_eq_true, if_false]
  split
  · next closes =>
      rw [closes]
      rfl
  · next stays =>
      rw [Bool.eq_false_iff.mpr stays]
      rfl

private theorem isClosedBy_spaces (narrow : fence.IsNarrow) (count : Nat) :
    fence.isClosedBy (spaces count) = false := by
  have stops : ([] : Text).head? ≠ some ' ' := nofun
  have none := fence.isClosedBy_spaces_append stops count
  have wanting : ¬ fence.width ≤ 0 := by
    have := narrow.wide
    omega
  rw [List.append_nil] at none
  rw [none, leadingRun, List.takeWhile_nil, List.length_nil, decide_eq_false wanting,
    Bool.and_false, Bool.false_and]

/-- Whatever the margin of the fence, what the reader asks of a line is that it closes the fence;
where the document ends, spaces are enough. -/
theorem isSome_closing_iff (narrow : fence.IsNarrow) (line : Text) {inner : Cursor}
    (behind : inner = ((Cursor.ofLine line).indentUpTo fence.indent).2) :
    (if (inner.indentUpTo (4 - fence.indent)).1 < 4 - fence.indent then
        closingFence? fence (inner.indentUpTo (4 - fence.indent)).2.rest
      else none).isSome = true ↔
      fence.isClosedBy line = true ∨ ∃ count ≤ 3, line = spaces count := by
  obtain ⟨count, rest, rfl, stops⟩ := exists_spaces line
  cases rest with
  | nil =>
      rw [List.append_nil] at behind ⊢
      obtain ⟨near, isRest⟩ := Cursor.indentUpTo_behind_margin_end narrow.indent_le count 0 behind
      rw [isClosedBy_spaces narrow]
      by_cases few : count ≤ 3
      · rw [if_pos (near.mpr few), isRest few]
        exact iff_of_true rfl (Or.inr ⟨count, few, rfl⟩)
      · rw [if_neg (mt near.mp few)]
        refine iff_of_false Bool.false_ne_true ?_
        rintro (closed | ⟨other, fewer, same⟩)
        · cases closed
        · have counted := congrArg List.length same
          rw [List.length_replicate, List.length_replicate] at counted
          omega
  | cons c rest =>
      have noSpace : c ≠ ' ' := by simpa using stops
      obtain ⟨near, isRest⟩ := Cursor.indentUpTo_behind_margin narrow.indent_le noSpace
        (Or.inl rfl) behind
      have filled : ¬ ∃ other ≤ 3, spaces count ++ c :: rest = spaces other := by
        rintro ⟨other, -, same⟩
        have member : c ∈ spaces other := by
          rw [← same]
          simp
        exact noSpace (List.eq_of_mem_replicate member)
      rw [isClosedBy_spaces_append stops, or_iff_left filled]
      by_cases close : count ≤ 3 ∧ c ≠ '\t'
      · rw [if_pos (near.mpr close), isRest close, closingFence?_cons, decide_eq_true close.1,
          Bool.true_and]
      · rw [if_neg (mt near.mp close)]
        refine iff_of_false Bool.false_ne_true fun closed => ?_
        simp only [Bool.and_eq_true, decide_eq_true_eq] at closed
        have isTab : c = '\t' := Classical.not_not.mp fun other => close ⟨closed.1.1, other⟩
        have dark : (c == fence.mark) = false := by
          rw [isTab]
          rcases narrow.mark with isMark | isMark <;> rw [isMark] <;> rfl
        have := narrow.wide
        have run := closed.1.2
        rw [leadingRun, List.takeWhile_cons_of_neg (by simp [dark]), List.length_nil] at run
        omega

end Fence

/-! ## Reading outside containers -/

private theorem follow_of_level {containers : List Container}
    (level : containers.any Container.hasMargin = false) (line : Text) :
    (follow line containers).complete = true ∧
      (follow line containers).cursor = .ofLine line := by
  induction containers with
  | nil => exact ⟨rfl, rfl⟩
  | cons container outer inductionHypothesis =>
      rw [List.any_cons, Bool.or_eq_false_iff] at level
      obtain ⟨complete, cursor⟩ := inductionHypothesis level.2
      cases container with
      | quote => cases level.1
      | item indent => cases level.1
      | list marker tight =>
          rw [follow, if_pos complete]
          exact ⟨rfl, cursor⟩

/-- What the reader makes of a line of an open block outside containers: it is code unless it closes
the fence, and there is nothing that it could leave. -/
def FencedLine.Heeds (fence : Fence) (line : Text) : FencedLine → Prop
  | .code _ _ => fence.isClosedBy line = false
  | .closed _ => fence.isClosedBy line = true ∨ ∃ count ≤ 3, line = spaces count
  | .outside => False

private theorem heeds_fencedLine {containers : List Container}
    (level : containers.any Container.hasMargin = false) {block : OpenBlock}
    (narrow : block.fence.IsNarrow) (line : Text) (following : List Text) :
    (fencedLine containers block line following).Heeds block.fence line := by
  obtain ⟨complete, cursor⟩ := follow_of_level level line
  have decides := Fence.isSome_closing_iff narrow line rfl
  rw [fencedLine]
  dsimp only
  rw [complete, cursor]
  generalize (if (_ : Nat) < _ then closingFence? _ _ else none) = closing at decides ⊢
  cases closing with
  | some after => exact decides.mp rfl
  | none =>
      refine Bool.eq_false_iff.mpr fun closed => ?_
      cases decides.mpr (Or.inl closed)

private theorem indentUpTo_le (limit : Nat) (cursor : Cursor) :
    (cursor.indentUpTo limit).1 ≤ limit := by
  rw [Cursor.indentUpTo]
  split
  · exact Nat.le_refl limit
  · exact Nat.sub_le _ _

private theorem openLeaf_block {nesting : Nesting} {number indent : Nat} {text : Text}
    {following : List Text} {block : OpenBlock}
    (opened : (openLeaf nesting number indent text following).1.block? = some block) :
    block.nested = nesting.hasMargin ∧ block.fence.indent = indent := by
  rw [openLeaf] at opened
  split at opened
  · rw [block?_htmlLeaf] at opened
    cases opened
  · split at opened
    · cases opened
    · split at opened
      · next isFence =>
          cases opened
          refine ⟨rfl, ?_⟩
          rw [openingFence?.eq_def] at isFence
          split at isFence
          · cases isFence
          · dsimp only at isFence
            split at isFence
            · cases isFence
              rfl
            · cases isFence
      · split at opened <;> cases opened

private theorem openLine_block {nesting : Nesting} {number : Nat} {line : Text}
    {following : List Text} {block : OpenBlock}
    (opened : (openLine nesting number line following).leaf.block? = some block) :
    block.nested = (openLine nesting number line following).nesting.hasMargin ∧
      block.fence.indent ≤ 3 := by
  rw [openLine] at opened ⊢
  dsimp only at opened ⊢
  generalize openContainers (line.length + 1)
    (nesting.closeTo (follow line nesting.containers).kept.length)
    (follow line nesting.containers).cursor = result at opened ⊢
  split at opened
  · cases opened
  · next noItem =>
      rw [if_neg noItem]
      split at opened
      · cases opened
      · next filled =>
          rw [if_neg filled]
          split at opened
          · cases opened
          · next few =>
              rw [if_neg few]
              obtain ⟨nested, indent⟩ := openLeaf_block opened
              have := indentUpTo_le 4 result.2.1
              exact ⟨nested, by omega⟩

/-! ## Open blocks -/

/-- What is known of a block while it is open, besides the lines that it has taken: outside
containers none of them closes it. -/
structure OpenBlock.Unclosed (block : OpenBlock) (nesting : Nesting) (done : List Text) : Prop where
  nested_eq : block.nested = nesting.hasMargin
  narrow : block.fence.IsNarrow
  unclosed : block.nested = false →
    ∀ line ∈ done.drop block.line, block.fence.isClosedBy line = false

private theorem OpenBlock.Begins.unclosed {block : OpenBlock} {nesting : Nesting} {line : Text}
    {done : List Text} (begins : block.Begins (done.length + 1) line)
    (nested : block.nested = nesting.hasMargin) (indent : block.fence.indent ≤ 3) :
    block.Unclosed nesting (done ++ [line]) := by
  obtain ⟨text, -, fence⟩ := begins.source
  refine ⟨nested, ⟨fence.mark, fence.wide, indent⟩, fun _ other member => ?_⟩
  rw [begins.line_eq, List.drop_of_length_le (by simp)] at member
  cases member

private theorem OpenBlock.Unclosed.heeds {block : OpenBlock} {nesting : Nesting} {done : List Text}
    (unclosed : block.Unclosed nesting done) (outside : block.nested = false) (line : Text)
    (following : List Text) :
    (fencedLine nesting.containers block line following).Heeds block.fence line :=
  heeds_fencedLine (unclosed.nested_eq.symm.trans outside) unclosed.narrow line following

namespace Reader

/-- What is known of the block that is open. -/
def Attends (reader : Reader) (done : List Text) : Prop :=
  ∀ block, reader.leaf.block? = some block → block.Unclosed reader.nesting done

/-- A line that an earlier one has taken does nothing. -/
theorem reads_read {reader : Reader} (skips : reader.leaf.block? = none ∨ reader.skip = 0)
    (line : Text) (following : List Text) :
    (∃ result, reader.Reads line following result ∧
        (reader.read line following).1.nesting = result.1.nesting ∧
        (reader.read line following).1.leaf = result.1.leaf ∧
        (reader.read line following).2 = result.2) ∨
      (reader.read line following).1.leaf.block? = none ∧
        (reader.read line following).2 = none := by
  rw [read]
  dsimp only
  by_cases taken : reader.skip = 0
  · rw [if_pos taken]
    exact Or.inl ⟨_, reader.reads_readOpen line following, rfl, rfl, rfl⟩
  · rw [if_neg taken]
    exact Or.inr ⟨skips.resolve_right taken, rfl⟩

theorem attends_read {reader : Reader} {done following : List Text} {line : Text}
    (place : reader.At done (line :: following)) (areLines : IsLines (line :: following))
    (attends : reader.Attends done) :
    (reader.read line following).1.Attends (done ++ [line]) := by
  intro next isOpen
  have begun : (openLine reader.nesting reader.line line following).leaf.block? = some next →
      next.Unclosed (openLine reader.nesting reader.line line following).nesting
        (done ++ [line]) := by
    intro opened
    obtain ⟨nested, indent⟩ := openLine_block opened
    have begins := (begins_of_openLine areLines.1 opened).1
    rw [place.line_eq (List.cons_ne_nil line following)] at begins
    exact begins.unclosed nested indent
  rcases reads_read place.skips line following with ⟨_, reads, nesting, leaf, -⟩ | ⟨none, -⟩
  · rw [leaf] at isOpen
    rw [nesting]
    cases reads with
    | fresh _ => exact begun isOpen
    | goesOn _ still =>
        rw [still] at isOpen
        cases isOpen
    | @code block after _ wasOpen step =>
        cases isOpen
        have before := attends block wasOpen
        obtain ⟨-, owed, rest, -, rfl⟩ := codeOf_fencedLine areLines.1 step
        refine ⟨before.nested_eq, before.narrow, fun outside other member => ?_⟩
        have dropped : (done ++ [line]).drop block.line = done.drop block.line ++ [line] :=
          List.drop_append_of_le_length (place.endsIn block wasOpen).line_le
        change other ∈ (done ++ [line]).drop block.line at member
        rw [dropped] at member
        rcases List.mem_append.mp member with earlier | now
        · exact before.unclosed outside other earlier
        · rw [List.mem_singleton.mp now]
          have heeds := before.heeds outside line following
          rwa [step] at heeds
    | closed _ _ => cases isOpen
    | outside _ _ => exact begun isOpen
  · rw [none] at isOpen
    cases isOpen

end Reader

/-! ## Complete blocks -/

/-- Behind its first line, a block takes the lines up to the first that closes its fence, or all of
them if none does. -/
inductive FencedBlock.Takes (block : FencedBlock) (fence : Fence) (first : Text) :
    List Text → Prop
  | closed {code after : List Text} {line : Text} :
      (∀ other ∈ code, fence.isClosedBy other = false) → fence.isClosedBy line = true →
      block.source = first ++ code.flatten ++ withoutEnd line →
      block.Takes fence first (code ++ line :: after)
  | runsOn {code : List Text} :
      (∀ line ∈ code, fence.isClosedBy line = false) → block.source = first ++ code.flatten →
      block.Takes fence first code

/-- The block begins in one of the lines and takes the ones behind it that belong to it. -/
def FencedBlock.TakenFrom (block : FencedBlock) (lines : List Text) (fence : Fence)
    (rest : List Text) : Prop :=
  ∃ before opening first, lines = before ++ opening :: rest ∧ block.line = before.length + 1 ∧
    fence.Begins opening first ∧ block.Takes fence first rest

namespace OpenBlock.EndsIn

variable {block : OpenBlock} {done : List Text} (endsIn : block.EndsIn done)
  (unclosed : ∀ line ∈ done.drop block.line, block.fence.isClosedBy line = false)

include endsIn unclosed

private theorem exists_source : ∃ before opening first code, done = before ++ opening :: code ∧
    block.line = before.length + 1 ∧ block.fence.Begins opening first ∧
    (∀ line ∈ code, block.fence.isClosedBy line = false) ∧
    ∀ closing, (block.close closing).source = first ++ code.flatten ++ closing := by
  obtain ⟨before, opening, code, rfl, number, took⟩ := endsIn
  obtain ⟨first, begins, isSource⟩ := took.source
  refine ⟨before, opening, first, code, rfl, number, begins, fun line member => ?_,
    fun closing => ?_⟩
  · have dropped : (before ++ opening :: code).drop block.line = code := by
      rw [number, List.drop_append]
      simp
    exact unclosed line (dropped.symm ▸ member)
  · rw [OpenBlock.close, isSource]
    simp

private theorem takenFrom_closed {line : Text} (closes : block.fence.isClosedBy line = true)
    (after : List Text) :
    ∃ rest, (block.close (withoutEnd line)).TakenFrom (done ++ line :: after) block.fence rest := by
  obtain ⟨before, opening, first, code, rfl, number, begins, isCode, isSource⟩ :=
    endsIn.exists_source unclosed
  exact ⟨code ++ line :: after, before, opening, first, by simp, number, begins,
    .closed isCode closes (isSource _)⟩

/-- The lines that are left may be code as well. -/
private theorem takenFrom_runsOn {after : List Text}
    (isCode : ∀ line ∈ after, block.fence.isClosedBy line = false) :
    ∃ rest, (block.close after.flatten).TakenFrom (done ++ after) block.fence rest := by
  obtain ⟨before, opening, first, code, rfl, number, begins, earlier, isSource⟩ :=
    endsIn.exists_source unclosed
  refine ⟨code ++ after, before, opening, first, by simp, number, begins, .runsOn ?_ ?_⟩
  · intro line member
    exact (List.mem_append.mp member).elim (earlier line) (isCode line)
  · rw [isSource, List.flatten_append, List.append_assoc]

end OpenBlock.EndsIn

namespace Reader

private theorem takenFrom_of_read {reader : Reader} {done following : List Text} {line : Text}
    (place : reader.At done (line :: following)) (areLines : IsLines (line :: following))
    (attends : reader.Attends done) {found : FencedBlock}
    (complete : (reader.read line following).2 = some found) (outside : found.nested = false) :
    ∃ fence rest, found.TakenFrom (done ++ line :: following) fence rest := by
  rcases reads_read place.skips line following with ⟨_, reads, -, -, isFound⟩ | ⟨-, none⟩
  · rw [isFound] at complete
    cases reads with
    | fresh _ => cases complete
    | goesOn _ _ => cases complete
    | code _ _ => cases complete
    | @closed block _ isOpen closes =>
        cases complete
        have endsIn := place.endsIn block isOpen
        obtain ⟨closing, after, whole, isLine, ends, rfl⟩ :=
          closing_fencedLine endsIn.mark closes
        have before := attends block isOpen
        have isClosing : closing = withoutEnd line :=
          eq_withoutEnd (areLines.1.imp_right And.left) whole isLine ends
        have heeds := before.heeds outside line following
        rw [closes] at heeds
        refine ⟨block.fence, ?_⟩
        rcases heeds with isClosed | ⟨count, -, isSpaces⟩
        · rw [isClosing]
          exact endsIn.takenFrom_closed (before.unclosed outside) isClosed following
        · -- The document ends in spaces, where the reader asks for no marks.
          have lineLine : IsLine line := isSpaces ▸ isLine_spaces count
          obtain rfl : following = [] := (areLines.1.resolve_left lineLine.not_isEnded).2
          rw [isClosing, withoutEnd_of_isLine lineLine]
          have spaced : ∀ other ∈ [line], block.fence.isClosedBy other = false := by
            intro other member
            rw [List.mem_singleton.mp member, isSpaces]
            exact Fence.isClosedBy_spaces before.narrow count
          have runs := endsIn.takenFrom_runsOn (before.unclosed outside) spaced
          rwa [List.flatten_singleton] at runs
    | @outside block isOpen leaves =>
        cases complete
        have heeds := (attends block isOpen).heeds outside line following
        rw [leaves] at heeds
        exact heeds.elim
  · rw [none] at complete
    cases complete

/-- The blocks that the reader finds outside containers take all lines up to one that closes them. -/
theorem takenFrom_blocks {following : List Text} (areLines : IsLines following) {reader : Reader}
    {done : List Text} (place : reader.At done following) (attends : reader.Attends done) :
    ∀ block ∈ reader.blocks following, block.nested = false →
      ∃ fence rest, block.TakenFrom (done ++ following) fence rest := by
  -- By induction on the lines that are still to be read, as for `standsIn_blocks`; the reader
  -- attends to its open block through each of them.
  induction following generalizing reader done with
  | nil =>
      intro block member outside
      obtain ⟨isOpen, isLeaf, rfl⟩ := mem_finish member
      exact ⟨isOpen.fence, (place.endsIn isOpen isLeaf).takenFrom_runsOn
        ((attends isOpen isLeaf).unclosed outside) (by simp)⟩
  | cons line following inductionHypothesis =>
      intro block member outside
      rw [blocks] at member
      rcases List.mem_append.mp member with now | later
      · exact takenFrom_of_read place areLines attends (by simpa using now) outside
      · have inRest := inductionHypothesis areLines.2 (place.read areLines)
          (attends_read place areLines attends) block later outside
        rwa [List.append_assoc, List.singleton_append] at inRest

end Reader

theorem takenFrom_of_mem_fencedBlocks {document : Text} (paired : PairedReturns document) :
    ∀ block ∈ fencedBlocks document, block.nested = false →
      ∃ fence rest, block.TakenFrom (splitLines document) fence rest :=
  Reader.takenFrom_blocks (isLines_splitLines paired).1 (Reader.at_start _) nofun

end DocCheck.Markdown
