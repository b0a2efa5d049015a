import DocCheck.Check.Task
import DocCheck.Proofs.Check.Workspace

/-!
Compilers whose verdict on a source does not depend on where it is written. Their diagnostics may
quote the path of the block. Main statement: what a block comes to does not depend on the number
that it takes, so that its outcome is settled before it takes one.
-/

namespace DocCheck

/-! ## Diagnostics that quote a path -/

/-- A part of a text in a diagnostic: a text of its own, or the path of the block. -/
inductive Fragment where
  | fixed (text : Text)
  | path
  deriving Repr, DecidableEq

namespace Fragment

/-- The text of fragments where the path is known. -/
def fill (path : Text) : List Fragment → Text
  | [] => []
  | .fixed text :: fragments => text ++ fill path fragments
  | .path :: fragments => path ++ fill path fragments

/-- No word goes on behind a path. -/
def Separate (path : Text) : List Fragment → Prop
  | [] => True
  | .fixed _ :: fragments => Separate path fragments
  | .path :: fragments =>
      Text.endsWord (fill path fragments).head? = true ∧ Separate path fragments

private theorem blockPath_append {scratch : ScratchDir} (proper : scratch.Proper) :
    ∃ lead, ∀ (id : Nat) (rest : Text), scratch.blockPath id ++ rest =
      lead ++ BlockPath.quoted scratch.name (Text.decimal id) rest := by
  obtain ⟨lead, placed⟩ := proper.placed
  refine ⟨lead, fun id rest => ?_⟩
  rw [proper.normal.blockPath_eq, placed]
  simp [BlockPath.fileName, BlockPath.quoted]

/-- The number of a block is all that changes in a text. -/
private theorem alike_fill {scratch : ScratchDir} (proper : scratch.Proper) {id : Nat}
    {fragments : List Fragment} (separate : Separate (scratch.blockPath id) fragments)
    (other : Nat) :
    BlockPath.Alike scratch.name (fill (scratch.blockPath id) fragments)
      (fill (scratch.blockPath other) fragments) := by
  induction fragments with
  | nil => exact .nil
  | cons fragment fragments inductionHypothesis =>
      cases fragment with
      | fixed text => exact (inductionHypothesis separate).append_left text
      | path =>
          obtain ⟨lead, paths⟩ := blockPath_append proper
          rw [fill, fill, paths, paths]
          exact .append_left lead (.path (BlockPath.isNumber_decimal id)
            (BlockPath.isNumber_decimal other) separate.1 (inductionHypothesis separate.2))

end Fragment

/-- A diagnostic whose texts may quote the path of the block. -/
structure Complaint where
  kind : DiagnosticKind
  message : List Fragment
  detail : List Fragment
  /-- The file, the line and the column of every position. -/
  positions : List (List Fragment × Nat × Nat)
  codes : List (List Fragment)
  extra : List (Text × List Fragment)
  deriving Repr, DecidableEq

namespace Complaint

/-- The diagnostic where the path of the block is known. -/
def diagnostic (complaint : Complaint) (path : Text) : Diagnostic where
  kind := complaint.kind
  message := Fragment.fill path complaint.message
  detail := Fragment.fill path complaint.detail
  positions := complaint.positions.map fun position =>
    ⟨Fragment.fill path position.1, position.2.1, position.2.2⟩
  codes := complaint.codes.map (Fragment.fill path)
  extra := complaint.extra.map fun field => (field.1, Fragment.fill path field.2)

/-- The texts of a diagnostic. -/
def texts (complaint : Complaint) : List (List Fragment) :=
  complaint.message :: complaint.detail ::
    (complaint.positions.map Prod.fst ++ complaint.codes ++ complaint.extra.map Prod.snd)

private theorem mem_texts_iff {complaint : Complaint} {text : List Fragment} :
    text ∈ complaint.texts ↔ text = complaint.message ∨ text = complaint.detail ∨
      (∃ position ∈ complaint.positions, position.1 = text) ∨ text ∈ complaint.codes ∨
        ∃ field ∈ complaint.extra, field.2 = text := by
  simp only [texts, List.mem_cons, List.mem_append, List.mem_map, or_assoc]

/-- Two paths make no difference where they make none in any text. -/
theorem mapTexts_diagnostic_eq {complaint : Complaint} {change : Text → Text} {path other : Text}
    (same : ∀ text ∈ complaint.texts,
      change (Fragment.fill path text) = change (Fragment.fill other text)) :
    (complaint.diagnostic path).mapTexts change = (complaint.diagnostic other).mapTexts change := by
  simp only [mem_texts_iff] at same
  simp only [Diagnostic.mapTexts, diagnostic, List.map_map, Diagnostic.mk.injEq, true_and]
  refine ⟨same _ (Or.inl rfl), same _ (Or.inr (Or.inl rfl)), ?_, ?_, ?_⟩
  · apply List.map_congr_left
    intro position member
    simp [same position.1 (Or.inr (Or.inr (Or.inl ⟨position, member, rfl⟩)))]
  · apply List.map_congr_left
    intro code member
    exact same code (Or.inr (Or.inr (Or.inr (Or.inl member))))
  · apply List.map_congr_left
    intro field member
    simp [same field.2 (Or.inr (Or.inr (Or.inr (Or.inr ⟨field, member, rfl⟩))))]

end Complaint

/-! ## Verdicts -/

/-- What a compiler has to say about a source, wherever it is written. -/
abbrev Verdict := Text → Option Complaint

/-- The compiler gives these verdicts, in which words end where a quoted path ends, and what it does
to the files leaves the scratch directory to the blocks. -/
structure Verdict.Given (verdict : Verdict) (compiler : Compiler) (scratch : ScratchDir) :
    Prop where
  check : ∀ source path machine, (compiler.check source path machine).1 =
    (verdict source).map fun complaint => complaint.diagnostic path
  separate : ∀ source complaint, verdict source = some complaint →
    ∀ text ∈ complaint.texts, ∀ id, Fragment.Separate (scratch.blockPath id) text
  keeps : ∀ source path machine, Workspace scratch machine →
    Workspace scratch (compiler.check source path machine).2

/-- The result for a block whose file has a number of its own. -/
def Block.outcome (scratch : ScratchDir) (verdict : Verdict) (id : Nat) (block : Block) : Result :=
  block.result ((verdict block.source).map fun complaint =>
    (complaint.diagnostic (scratch.blockPath id)).scrub scratch.blockPattern block.label)

/-! ## Outcomes -/

/-- Whatever number a block takes, it comes to its outcome, and what the compiler does to the files
leaves the scratch directory to the blocks. -/
structure Compiler.Settles (compiler : Compiler) (scratch : ScratchDir) (outcome : Block → Result) :
    Prop where
  concludes : ∀ (block : Block) (id : Nat) (machine : Machine),
    Task.conclude scratch block (compiler.check block.source (scratch.blockPath id) machine).1 =
      .finished (outcome block)
  keeps : ∀ source path machine, Workspace scratch machine →
    Workspace scratch (compiler.check source path machine).2

/-- The compiler is asked about the source, and its diagnostic forgets the path. -/
theorem Verdict.conclude_check {verdict : Verdict} {compiler : Compiler}
    (check : ∀ source path machine, (compiler.check source path machine).1 =
      (verdict source).map fun complaint => complaint.diagnostic path)
    (scratch : ScratchDir) (block : Block) (id : Nat) (machine : Machine) :
    Task.conclude scratch block (compiler.check block.source (scratch.blockPath id) machine).1 =
      .finished (block.outcome scratch verdict id) := by
  rw [check, Task.conclude, Block.outcome, Option.map_map]
  rfl

/-- Whatever number a block takes, its result is the same. -/
theorem Block.outcome_eq {scratch : ScratchDir} (proper : scratch.Proper) {verdict : Verdict}
    {compiler : Compiler} (given : verdict.Given compiler scratch) (id other : Nat)
    (block : Block) : block.outcome scratch verdict id = block.outcome scratch verdict other := by
  rw [outcome, outcome]
  cases judged : verdict block.source with
  | none => rfl
  | some complaint =>
      have same : ∀ text ∈ complaint.texts,
          Text.replaceAll scratch.blockPattern (fun _ _ => block.label)
              (Fragment.fill (scratch.blockPath id) text) =
            Text.replaceAll scratch.blockPattern (fun _ _ => block.label)
              (Fragment.fill (scratch.blockPath other) text) := by
        intro text member
        have separate := given.separate block.source complaint judged text member id
        exact BlockPath.replaceAll_eq_of_alike (BlockPath.isPlain_of_isNameChar proper.plain)
          block.label (Fragment.alike_fill proper separate other)
      rw [Option.map_some, Option.map_some, Diagnostic.scrub, Diagnostic.scrub,
        Complaint.mapTexts_diagnostic_eq same]

theorem Verdict.Given.settles {scratch : ScratchDir} {verdict : Verdict} {compiler : Compiler}
    (given : verdict.Given compiler scratch) (proper : scratch.Proper) (number : Nat) :
    compiler.Settles scratch (Block.outcome scratch verdict number) where
  concludes := by
    intro block id machine
    rw [Block.outcome_eq proper given number id]
    exact conclude_check given.check scratch block id machine
  keeps := given.keeps

end DocCheck
