import Workflow.Endpoint.Target
import Workflow.Endpoint.Exchange

/-!
# Where a response redirects to

A response may name another address at which the request is to be sent again. It is named from
the address of the request, so that it may leave out what both have in common, and it is put
together and checked even if nobody goes there.
-/

namespace Workflow

open Workflow.Text

/-- Why the address that a response redirects to is refused. -/
inductive RedirectFault where
  /-- What the response says is no address. -/
  | location (fault : TargetFault)
  /-- The address cannot be taken apart. -/
  | address (fault : AddressFault)
  /-- What comes out is no address. -/
  | target (fault : TargetFault)
  /-- A host name is not legal. -/
  | name (fault : LabelFault)
  /-- A host cannot be sent. -/
  | notAscii (message : String)
  deriving DecidableEq, Inhabited

/-- What is wrong with the address that a response redirects to. -/
def RedirectFault.message : RedirectFault → String
  | .location fault => "Invalid URL in location header: " ++ fault.message ++ "."
  | .address fault => fault.message
  | .target fault => fault.message
  | .name fault => fault.message
  | .notAscii message => message

namespace Redirect

/-- The host of an address as it is shown. -/
def hostOf (t : Target) : Except RedirectFault (List Char) :=
  t.shownHost.mapError .name

/-- An address put together from pieces. -/
def rebuild (p : Pieces) : Except RedirectFault Target :=
  (Target.rebuild p).mapError .target

/-- A host as it stands in an address. -/
def inBrackets (host : List Char) : List Char :=
  if host.contains ':' then ['['] ++ host ++ [']'] else host

/-- An address with a scheme but without a host, at the host of another one. -/
def atHost (home t : Target) : Except RedirectFault Target := do
  if t.scheme.isEmpty then return t
  if !(← hostOf t).isEmpty then return t
  rebuild { t.pieces with host := inBrackets (← hostOf home) }

/-- An address that is not absolute, seen from another one. -/
def seenFrom (home t : Target) : Except RedirectFault Target := do
  if t.isAbsolute then return t
  let text ← (Url.resolve (String.ofList home.toText) (String.ofList t.toText)).mapError .address
  (Target.read text).mapError .target

/-- An address with the fragment of another one, if it has none of its own. -/
def withFragment (home t : Target) : Except RedirectFault Target := do
  let fragment := Percent.decode (home.fragment.getD [])
  if fragment.isEmpty || !(t.fragment.getD []).isEmpty then return t
  rebuild { t.pieces with fragment := some fragment }

/-- The number after the host of an address, written or not. -/
def portOf? (t : Target) : Option Int :=
  t.portNumber.or
    ((Target.usualPorts.find? fun entry => entry.1.toList == t.scheme).map Prod.snd)

/-- Whether two addresses belong to the same endpoint. -/
def isSameEndpoint (t home : Target) : Except RedirectFault Bool := do
  if t.scheme != home.scheme then
    let _ ← hostOf home
    let _ ← hostOf t
    return false
  let host ← hostOf t
  return host == (← hostOf home) && portOf? t == portOf? home

/-- The address that a response to a request redirects to. -/
def target (home : Target) (location : String) : Except RedirectFault Target := do
  let t ← (Target.read location).mapError .location
  withFragment home (← seenFrom home (← atHost home t))

/-- **The check of the address that a response redirects to.** A host that is not the one of
the request must be fit to be sent. -/
def check (home : Target) (location : String) : Except RedirectFault Unit := do
  let t ← target home location
  if !(← isSameEndpoint t home) then
    match notAscii? (String.ofList t.place) with
    | some message => throw (.notAscii message)
    | none => return ()

end Redirect

end Workflow
