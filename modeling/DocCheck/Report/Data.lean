import DocCheck.Check.Block
import DocCheck.Json.Value

/-!
The report for programs: the results as a JSON list. A result has a member for its diagnostic only
if there is one.
-/

namespace DocCheck

def DiagnosticKind.name : DiagnosticKind → Text
  | typeCheck => "typeCheck".toList
  | crash => "crash".toList

def Position.json (position : Position) : Json :=
  .object [("file".toList, .string position.file), ("line".toList, .number position.line),
    ("column".toList, .number position.column)]

def Diagnostic.json (diagnostic : Diagnostic) : Json :=
  .object [("kind".toList, .string diagnostic.kind.name),
    ("message".toList, .string diagnostic.message),
    ("detail".toList, .string diagnostic.detail),
    ("positions".toList, .list (diagnostic.positions.map Position.json)),
    ("codes".toList, .list (diagnostic.codes.map Json.string)),
    ("extra".toList, .object (diagnostic.extra.map fun field => (field.1, .string field.2)))]

def Result.json (result : Result) : Json :=
  let members : List (Text × Json) :=
    [("file".toList, .string result.document),
      ("index".toList, .number result.snippet.index),
      ("line".toList, .number result.snippet.line),
      ("snippet".toList, .string result.snippet.text),
      ("linesWithErrors".toList, .list (result.linesWithErrors.map Json.number))]
  let error := result.error.map fun diagnostic => ("error".toList, diagnostic.json)
  .object (members ++ error.toList)

/-- The report on a run. -/
def Report.data (results : List Result) : Text :=
  (Json.list (results.map Result.json)).text ++ ['\n']

end DocCheck
