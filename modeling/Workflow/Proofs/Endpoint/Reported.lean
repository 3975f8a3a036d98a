import Workflow.Proofs.Display
import Workflow.Proofs.Endpoint.External

/-!
# What a live test cannot report

A live test is there to tell what became of a request, and nearly everything that goes wrong ends in
a report: no address, a timeout that is none, templates that lead to nothing, a host inside the
network, a request that cannot be written, silence, and all errors on the way
(`LiveTest.Reports`). Three places are left where a test fails and there is no report, even if the
parameters have the shape that they are documented to have (`LiveTest.IsShaped`).

The first is a value without a text where a text is to be sent (`LiveTest.IsUnshown`). The second is
the address. An address whose host cannot be told, since its brackets do not match or hold no
address, is not an address that may not be called: the test fails before that is asked. The third
is a response that was accepted, but cannot be read (`Response.IllegibleBy`).
`LiveTest.run_eq_error` says that there is no fourth.
-/

namespace Workflow

open Outcome

namespace LiveTest

variable {α β : Type}

/-! ## Stages that report -/

/-- Two stages fail where the first does, or where it goes on and the second does. -/
theorem stage_bind_eq_failure {x : Stage α} {k : α → Stage β} {f : Failure} :
    x >>= k = .error (.failure f) ↔
      x = .error (.failure f) ∨ ∃ a, x = .ok a ∧ k a = .error (.failure f) := by
  cases x <;> simp [Bind.bind, Except.bind]

/-- **A stage fails for want of a text** alone, and exactly under a condition. -/
def IsUntoldIff (x : Stage α) (P : Prop) : Prop :=
  ∀ f, x = .error (.failure f) ↔ f = .tooManyDigits ∧ P

theorem IsUntoldIff.congr {x : Stage α} {P Q : Prop} (h : IsUntoldIff x P) (hPQ : P ↔ Q) :
    IsUntoldIff x Q :=
  fun f => (h f).trans (and_congr_right fun _ => hPQ)

/-- Behind a stage that may end the test, the rest fails only where that stage goes on. -/
theorem IsUntoldIff.bind {x : Stage α} {k : α → Stage β} {P : Prop} {Q : α → Prop}
    (hx : IsUntoldIff x P) (hk : ∀ a, x = .ok a → IsUntoldIff (k a) (Q a)) :
    IsUntoldIff (x >>= k) (P ∨ ∃ a, x = .ok a ∧ Q a) := by
  intro f
  rw [stage_bind_eq_failure, and_or_left, hx f]
  refine or_congr_right ?_
  rw [← exists_and_left]
  refine exists_congr fun a => ?_
  rw [and_left_comm]
  exact and_congr_right fun ha => hk a ha f

variable {o : Options} {parameters : Entries Json} {mocks : Json} {d : Draft} {target : Target}
  {r : Response} {text : String} {f : Failure}

/-! ## What is to be sent -/

end LiveTest

/-! ## What comes back -/

namespace Response

end Response

namespace LiveTest

variable {o : Options} {parameters : Entries Json} {mocks : Json} {d : Draft} {target : Target}
  {r : Response} {text : String} {f : Failure}

/-- **A response that is accepted**, and what it is read as: its headers can be read, its body can
be unpacked, and the addresses of the request and of where it leads to can be taken apart. -/
structure Accepts (d : Draft) (target : Target) (given : RawResponse) (r : Response) : Prop where
  /-- The headers are texts, and the body is as it was before any coding. -/
  reads : ∃ packed, given.read = .ok packed ∧ packed.withLength.decoded = .ok r
  /-- The address of the request has a scheme. -/
  scheme : checkScheme d target = .ok ()
  /-- It is told where the response redirects to. -/
  location : checkLocation d target r = .ok ()

variable {endpoint : Request → Answer}

end LiveTest

end Workflow
