import Workflow.Failure
import Workflow.Json.Reader

/-!
# Sample responses

A schema can be learned from a sample of a response, which a user gives as a value or as
the text of one. Null and the empty text are no samples. A text that is nested too deeply is a
failure of its own.
-/

namespace Workflow

/-- **The value of a sample.** -/
def Sample.read : Json → Outcome Json
  | .null => .error .sampleMissing
  | .str "" => .error .sampleMissing
  | .str text =>
    match Json.read text with
    | .ok v => .ok v
    | .error .tooDeep => .error .nestedText
    | .error _ => .error .sampleMalformed
  | v => .ok v

end Workflow
