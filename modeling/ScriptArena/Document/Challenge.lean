import ScriptArena.Document.Json
import ScriptArena.Judge.Verdict

namespace ScriptArena

namespace Datum

def texts (items : List String) : Datum := .list (items.map .str)

def orNone {α : Type} (write : α → Datum) : Option α → Datum
  | some a => write a
  | Option.none => .none

def optionalText : Option String → Datum := orNone .str

end Datum

-- The values of a vector are written as `value` says.
def TestCase.document (value : Datum → Datum) (c : TestCase) : Datum :=
  .object [("input", value c.input), ("expected", value c.expected),
    ("description", .optionalText c.description), ("explanation", .optionalText c.explanation)]

def Challenge.fields (value : Datum → Datum) (c : Challenge) : List (String × Datum) :=
  [("id", .str c.id), ("title", .str c.title), ("description", .str c.description),
   ("difficulty", .str c.difficulty.name), ("category", .str c.category.name),
   ("language", .str c.language), ("template", .str c.template),
   ("function_name", .str c.functionName),
   ("test_cases", .list (c.testCases.map (·.document value))), ("points", .int c.points),
   ("hints", .texts c.hints), ("learning_objectives", .texts c.learningObjectives),
   ("common_mistakes", .texts c.commonMistakes)]

-- The solution is only shown on demand.
def Challenge.document (value : Datum → Datum) (solution : Bool) (c : Challenge) : Datum :=
  .object (c.fields value ++ if solution then [("solution", .str c.solution)] else [])

def Verdict.document (v : Verdict) : Datum :=
  .object [("passed", .bool v.passed), ("message", .str v.message), ("type", .str v.type.name),
    ("details", .optionalText v.details), ("hint", .optionalText v.hint),
    ("suggestion", .optionalText v.suggestion),
    ("error_kind", .optionalText (v.shortcoming.map (·.name))),
    ("output", .texts v.output), ("output_truncated", .bool v.outputTruncated)]

end ScriptArena
