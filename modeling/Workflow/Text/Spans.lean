/-!
# Sets of code points as spans

A Unicode property is a set of code points that falls into a few hundred unbroken
stretches. A table lists these stretches as pairs of a first and a last code point, both
included, in increasing order.
-/

namespace Workflow.Text

/-- Stretches of code points, each given by its first and last member. -/
abbrev Spans := List (Nat × Nat)

/-- Whether a code point lies in one of the stretches. -/
def Spans.has (spans : Spans) (n : Nat) : Bool :=
  spans.any fun span => span.1 ≤ n && n ≤ span.2

/-- A stretch of every `step`-th code point from `first` to `last`, all of which map to the
code point `shift` further on. -/
structure CaseRun where
  /-- The first code point of the run. -/
  first : Nat
  /-- The last code point of the run. -/
  last : Nat
  /-- The distance between neighbours: 1, or 2 where the two cases alternate. -/
  step : Nat
  /-- What is added to a code point to reach its counterpart. -/
  shift : Int

/-- The counterpart of a code point in a table of runs, the code point itself where no run
holds it. -/
def CaseRun.map (runs : List CaseRun) (n : Nat) : Nat :=
  match runs.find? fun r => r.first ≤ n && n ≤ r.last && (n - r.first) % r.step == 0 with
  | some r => ((n : Int) + r.shift).toNat
  | none => n

end Workflow.Text
