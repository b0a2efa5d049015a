import DocCheck.Proofs.Diagnostic.Fields
import DocCheck.Proofs.Json.Reading
import DocCheck.Report.Data

/-!
The report for programs, read back. What a result says is found in its JSON value by the names of the
members. Main statement: the report on results is a JSON list, and from its elements the results are
read back as they are.
-/

namespace DocCheck

/-! ## Members of values -/

namespace Json

/-- The value of the member of a name, where an object has a single one. -/
def member? (name : Text) : Json → Option Json
  | .object members =>
      match members.filter fun member => member.1 = name with
      | [member] => some member.2
      | _ => none
  | _ => none

def hasMember (name : Text) (value : Json) : Bool :=
  (value.member? name).isSome

def text? : Json → Option Text
  | .string text => some text
  | _ => none

def number? : Json → Option Nat
  | .number value => some value
  | _ => none

/-- A list whose elements are read one by one. -/
def listOf? {α : Type} (read : Json → Option α) : Json → Option (List α)
  | .list elements => elements.mapM read
  | _ => none

/-- The members of an object whose values are texts. -/
def fields? : Json → Option (List (Text × Text))
  | .object members => members.mapM fun member => member.2.text?.map fun text => (member.1, text)
  | _ => none

/-- Reading what has been written, element by element. -/
private theorem mapM_map_eq_some_map {α β γ : Type} {write : α → β} {read : β → Option γ}
    {meant : α → γ} {xs : List α} (inverse : ∀ x ∈ xs, read (write x) = some (meant x)) :
    (xs.map write).mapM read = some (xs.map meant) := by
  induction xs with
  | nil => rfl
  | cons x xs inductionHypothesis =>
      rw [List.map_cons, List.mapM_cons, inverse x List.mem_cons_self,
        inductionHypothesis fun y member => inverse y (List.mem_cons_of_mem _ member)]
      rfl

private theorem mapM_map_eq_some {α β : Type} {write : α → β} {read : β → Option α} {xs : List α}
    (inverse : ∀ x ∈ xs, read (write x) = some x) : (xs.map write).mapM read = some xs := by
  rw [mapM_map_eq_some_map inverse, List.map_id']

end Json

/-! ## Reading back -/

def Position.ofJson? (value : Json) : Option Position := do
  let file ← (value.member? "file".toList).bind Json.text?
  let line ← (value.member? "line".toList).bind Json.number?
  let column ← (value.member? "column".toList).bind Json.number?
  pure ⟨file, line, column⟩

def DiagnosticKind.ofName? (name : Text) : Option DiagnosticKind :=
  if name = "typeCheck".toList then some .typeCheck
  else if name = "crash".toList then some .crash
  else none

/-- The further fields are a map: where a key is repeated, the last value counts. -/
def Diagnostic.ofJson? (value : Json) : Option Diagnostic := do
  let name ← (value.member? "kind".toList).bind Json.text?
  let kind ← DiagnosticKind.ofName? name
  let message ← (value.member? "message".toList).bind Json.text?
  let detail ← (value.member? "detail".toList).bind Json.text?
  let positions ← (value.member? "positions".toList).bind (Json.listOf? Position.ofJson?)
  let codes ← (value.member? "codes".toList).bind (Json.listOf? Json.text?)
  let extra ← (value.member? "extra".toList).bind Json.fields?
  pure ⟨kind, message, detail, positions, codes, ofFields extra⟩

/-- The diagnostic of a block that has failed, and none where there is no member for it. -/
def Result.errorOfJson? (value : Json) : Option (Option Diagnostic) :=
  if value.hasMember "error".toList then
    (value.member? "error".toList).bind fun error => (Diagnostic.ofJson? error).map some
  else some none

/-- A result and its lines with errors. -/
def Result.ofJson? (value : Json) : Option (Result × List Nat) := do
  let document ← (value.member? "file".toList).bind Json.text?
  let index ← (value.member? "index".toList).bind Json.number?
  let line ← (value.member? "line".toList).bind Json.number?
  let snippet ← (value.member? "snippet".toList).bind Json.text?
  let lines ← (value.member? "linesWithErrors".toList).bind (Json.listOf? Json.number?)
  let error ← errorOfJson? value
  pure (⟨document, ⟨index, line, snippet⟩, error⟩, lines)

/-! ## What is read back -/

private theorem Position.ofJson?_json (position : Position) :
    ofJson? position.json = some position :=
  rfl

private theorem DiagnosticKind.ofName?_name (kind : DiagnosticKind) :
    ofName? kind.name = some kind := by
  cases kind <;> rfl

theorem Diagnostic.ofJson?_json {diagnostic : Diagnostic}
    (ascending : diagnostic.HasAscendingFields) : ofJson? diagnostic.json = some diagnostic := by
  have positions : (diagnostic.json.member? "positions".toList).bind
      (Json.listOf? Position.ofJson?) = some diagnostic.positions :=
    Json.mapM_map_eq_some fun position _ => position.ofJson?_json
  have codes : (diagnostic.json.member? "codes".toList).bind (Json.listOf? Json.text?) =
      some diagnostic.codes :=
    Json.mapM_map_eq_some fun _ _ => rfl
  have extra : (diagnostic.json.member? "extra".toList).bind Json.fields? =
      some diagnostic.extra :=
    Json.mapM_map_eq_some fun _ _ => rfl
  have name : (diagnostic.json.member? "kind".toList).bind Json.text? =
      some diagnostic.kind.name :=
    rfl
  have message : (diagnostic.json.member? "message".toList).bind Json.text? =
      some diagnostic.message :=
    rfl
  have detail : (diagnostic.json.member? "detail".toList).bind Json.text? =
      some diagnostic.detail :=
    rfl
  simp only [ofJson?, name, DiagnosticKind.ofName?_name, message, detail, positions, codes, extra,
    ofFields_eq_self ascending, Option.bind_eq_bind, Option.bind_some, Option.pure_def]

theorem Result.hasMember_error_json (result : Result) :
    result.json.hasMember "error".toList = !result.succeeded := by
  obtain ⟨document, snippet, error | diagnostic⟩ := result <;> rfl

private theorem Result.errorOfJson?_json {result : Result}
    (ascending : ∀ diagnostic ∈ result.error, diagnostic.HasAscendingFields) :
    errorOfJson? result.json = some result.error := by
  obtain ⟨document, snippet, error⟩ := result
  cases error with
  | none => rfl
  | some diagnostic =>
      exact congrArg (Option.map some) (Diagnostic.ofJson?_json (ascending diagnostic rfl))

/-- A result is read back, together with its lines with errors. -/
theorem Result.ofJson?_json {result : Result}
    (ascending : ∀ diagnostic ∈ result.error, diagnostic.HasAscendingFields) :
    ofJson? result.json = some (result, result.linesWithErrors) := by
  have error := errorOfJson?_json ascending
  have lines : (result.linesWithErrors.map Json.number).mapM Json.number? =
      some result.linesWithErrors :=
    Json.mapM_map_eq_some fun _ _ => rfl
  -- All but the two parts above is read from the value as it stands.
  have whole : ofJson? result.json =
      ((result.linesWithErrors.map Json.number).mapM Json.number?).bind fun lines =>
        (errorOfJson? result.json).bind fun error =>
          some (⟨result.document, result.snippet, error⟩, lines) := by
    obtain ⟨document, snippet, error | diagnostic⟩ := result <;> rfl
  rw [whole, lines, error]
  rfl

/-! ## Reports -/

/-- A report is a JSON list that tells results: they are read back from its elements in order, and an
element has a member for the error of a block that has failed, and of no other. -/
structure Report.Tells (report : Text) (elements : List Json) (results : List Result) : Prop where
  read : Json.read? report = some (.list elements)
  conveys : ∀ value, Json.Conveys report value ↔ value = .list elements
  readBack : elements.mapM Result.ofJson? =
    some (results.map fun result => (result, result.linesWithErrors))
  marked : elements.map (Json.hasMember "error".toList) =
    results.map fun result => !result.succeeded

theorem Report.tells_data {results : List Result}
    (ascending : ∀ result ∈ results, ∀ diagnostic ∈ result.error, diagnostic.HasAscendingFields) :
    Tells (data results) (results.map Result.json) results := by
  have conveys : Json.Conveys (data results) (.list (results.map Result.json)) :=
    Json.conveys_text _ (List.forall_mem_singleton.mpr rfl)
  exact {
    read := Json.read?_of_conveys conveys
    conveys := fun value => ⟨fun other => other.unique conveys, fun same => same ▸ conveys⟩
    readBack := Json.mapM_map_eq_some_map fun result member =>
      Result.ofJson?_json (ascending result member)
    marked := by
      rw [List.map_map]
      exact List.map_congr_left fun result _ => Result.hasMember_error_json result }

end DocCheck
