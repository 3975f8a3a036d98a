import Workflow.Double.Shortest
import Workflow.Failure
import Workflow.Text.Quoted

/-!
# Values inside texts

A value that is put into an address, a header or a message is displayed. A text stands for
itself; the other values have a written form in which texts are quoted, the truth values
are capitalised and null is called `None`. An integer of too many digits has no written form,
and neither has what it stands in.
-/

namespace Workflow

namespace Json

/-- The digits of an integer, behind its sign. -/
def digitsOf (n : Int) : Outcome String :=
  if (toString n.natAbs).length ≤ Numeral.maxDigits then .ok (toString n)
  else .error .tooManyDigits

mutual

/-- The written form of a value, texts quoted. -/
def literal : Json → Outcome String
  | .null => .ok "None"
  | .bool true => .ok "True"
  | .bool false => .ok "False"
  | .int n => digitsOf n
  | .float x => .ok x.text
  | .str s => .ok (Text.quoted s)
  | .arr items => do return "[" ++ ", ".intercalate (← literalItems items) ++ "]"
  | .obj members => do return "\x7b" ++ ", ".intercalate (← literalMembers members) ++ "\x7d"

/-- The written forms of the items of a list. -/
def literalItems : List Json → Outcome (List String)
  | [] => .ok []
  | x :: xs => do return (← literal x) :: (← literalItems xs)

/-- The written forms of the members of an object. -/
def literalMembers : List (String × Json) → Outcome (List String)
  | [] => .ok []
  | (k, x) :: xs => do return (Text.quoted k ++ ": " ++ (← literal x)) :: (← literalMembers xs)

end

/-- **A value as it is put into a text.** -/
def display : Json → Outcome String
  | .str s => .ok s
  | v => literal v

end Json

end Workflow
