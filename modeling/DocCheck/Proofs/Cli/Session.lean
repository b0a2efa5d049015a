import DocCheck.Cli.Session
import DocCheck.Proofs.Check.Diagnosis
import DocCheck.Proofs.Check.Refinement
import DocCheck.Proofs.Report.Data

/-!
What a session tells a program that reads its report. Main statement: from the JSON report the results
of the run are read back as they are, and the status says whether one of them has an error.
-/

namespace DocCheck

namespace Cli.Session

/-- A session follows its command line and checks the documents once: one block after the other, or
side by side, their tasks taking turns in an order. -/
structure Checks (order : Option (List Nat)) (texts : List Text) (machine : Machine)
    (arguments : Arguments) (ended : RunEnd × Workshop) : Prop where
  reads : Arguments.read texts = .ok arguments
  once : arguments.watch = false
  ran : runBy order arguments.config TypeScript.toolchain arguments.chosenDocuments
    ⟨machine, 1, []⟩ = some ended

variable {order : Option (List Nat)} {texts : List Text} {machine : Machine} {arguments : Arguments}
  {ended : RunEnd × Workshop}

theorem Checks.ofArguments_eq (checks : Checks none texts machine arguments ended) :
    ofArguments TypeScript.toolchain texts machine = ofRun arguments.chosenFormat ended := by
  have ran : firstRun arguments.config TypeScript.toolchain arguments.chosenDocuments machine =
      ended :=
    Option.some.inj checks.ran
  simp only [ofArguments, checks.reads, checks.once, Bool.false_eq_true, if_false, check, ran]

private theorem status_ofRun (format other : Format) (ended : RunEnd × Workshop) :
    (ofRun format ended).status = (ofRun other ended).status := by
  obtain ⟨results | failure | _, after⟩ := ended <;> rfl

/-- The status can be told from a report for programs. -/
theorem statusOf_eq {report : Text} {elements : List Json} {results : List Result}
    (tells : Report.Tells report elements results) :
    statusOf results = if elements.any (Json.hasMember "error".toList) then 1 else 0 := by
  have marked : elements.any (Json.hasMember "error".toList) = !results.all Result.succeeded :=
    calc elements.any (Json.hasMember "error".toList)
      _ = (elements.map (Json.hasMember "error".toList)).any id := by rw [List.any_map]; rfl
      _ = results.any fun result => !result.succeeded := by rw [tells.marked, List.any_map]; rfl
      _ = !results.all Result.succeeded := List.not_all_eq_any_not.symm
  rw [statusOf, marked]
  cases results.all Result.succeeded <;> rfl

/-- In a session that checks documents once, the JSON report tells the results of the run, and the
status is 1 if some element has an error and 0 otherwise. A run that fails as a whole reports nothing
and has the status 2. A session that runs in the same way has the same status in any format. -/
theorem Checks.json_report_tells (checks : Checks order texts machine arguments ended)
    (isJson : arguments.chosenFormat = .json) :
    let session := ofRun arguments.chosenFormat ended
    (order = none → ofArguments TypeScript.toolchain texts machine = session) ∧
      (∀ results, ended.1 = .finished results → ∃ elements,
        (∀ elapsed, Report.Tells (session.output elapsed) elements results) ∧
          session.status = if elements.any (Json.hasMember "error".toList) then 1 else 0) ∧
      (∀ failure, ended.1 = .failed failure →
        session.status = 2 ∧ ∀ elapsed, session.output elapsed = []) ∧
      ∀ otherTexts other otherEnded, Checks order otherTexts machine other otherEnded →
        other.config = arguments.config → other.chosenDocuments = arguments.chosenDocuments →
          (ofRun other.chosenFormat otherEnded).status = session.status := by
  intro session
  refine ⟨?_, ?_, ?_, ?_⟩
  · rintro rfl
    exact checks.ofArguments_eq
  · intro results finished
    obtain ⟨ending, after⟩ := ended
    obtain rfl : ending = .finished results := finished
    have tells := Report.tells_data (TypeScript.hasAscendingFields_of_runBy checks.ran)
    refine ⟨results.map Result.json, fun elapsed => ?_, statusOf_eq tells⟩
    have isData : session.output elapsed = Report.data results := by
      simp only [session, isJson]
      rfl
    rw [isData]
    exact tells
  · intro failure failed
    obtain ⟨ending, after⟩ := ended
    obtain rfl : ending = .failed failure := failed
    exact ⟨rfl, fun _ => rfl⟩
  · intro otherTexts other otherEnded checksOther sameConfig sameDocuments
    have ranOther := checksOther.ran
    rw [sameConfig, sameDocuments, checks.ran] at ranOther
    obtain rfl := Option.some.inj ranOther
    exact status_ofRun _ _ _

end Cli.Session

namespace SmallProject

/-- The project with a compiler that rejects its block. -/
def strict : Machine :=
  machine [(["demo".toList, "node_modules".toList], .directory),
    (["demo".toList, "node_modules".toList, ".bin".toList], .directory),
    (["demo".toList, "node_modules".toList, ".bin".toList, "tsc".toList],
      .file (Text.Utf8.encode ("#!/bin/sh\n".toList ++
        "echo 'compiled-docs/block-1.ts(1,9): error TS2304: no \"b\"'\nexit 2\n".toList)) true)]

/-- What comes of the block. -/
def rejected : Result :=
  let label := "README.md → Code Block 1".toList
  let detail := label ++ "(1,9): error TS2304: no \"b\"".toList
  ⟨"README.md".toList, ⟨1, 1, "let a = b\n".toList⟩,
    some ⟨.typeCheck, "Unable to compile TypeScript:\n".toList ++ detail, detail, [⟨label, 1, 9⟩],
      ["TS2304".toList],
      [("exitCode".toList, "2".toList), ("name".toList, "TSError".toList)]⟩⟩

end SmallProject

/-- The one block of a project is rejected: its result is told, quotes and all, and the status is 1,
also for people. -/
theorem Cli.Session.json_report_tells_of_rejected_block :
    let session := ofArguments TypeScript.toolchain ["--format".toList, "json".toList]
      SmallProject.strict
    (∃ elements, ∀ elapsed,
        Report.Tells (session.output elapsed) elements [SmallProject.rejected]) ∧
      session.status = 1 ∧
      (ofArguments TypeScript.toolchain [] SmallProject.strict).status = 1 := by
  intro session
  have checks : Checks none ["--format".toList, "json".toList] SmallProject.strict
      { Arguments.none with format := some .json }
      (firstRun Arguments.none.config TypeScript.toolchain Arguments.none.chosenDocuments
        SmallProject.strict) :=
    ⟨by rfl, rfl, rfl⟩
  have finished : (firstRun Arguments.none.config TypeScript.toolchain
      Arguments.none.chosenDocuments SmallProject.strict).1 = .finished [SmallProject.rejected] := by
    decide +kernel
  obtain ⟨isSession, tells, _, sameStatus⟩ := checks.json_report_tells rfl
  have same : session = _ := isSession rfl
  obtain ⟨elements, told, _⟩ := tells _ finished
  have status : session.status = 1 := by
    decide +kernel
  have checksHuman : Checks none [] SmallProject.strict Arguments.none
      (firstRun Arguments.none.config TypeScript.toolchain Arguments.none.chosenDocuments
        SmallProject.strict) :=
    ⟨rfl, rfl, rfl⟩
  have statusHuman := sameStatus [] Arguments.none _ checksHuman rfl rfl
  rw [← checksHuman.ofArguments_eq, ← same] at statusHuman
  exact ⟨⟨elements, same ▸ told⟩, status, statusHuman.trans status⟩

end DocCheck
