import Workflow.Endpoint.IPv6
import Workflow.Text.Case

/-!
# Hosts that must not be called

A live test sends a request from inside a network to an address that a user has typed, so
it could be made to reach what is meant to be out of reach: the machine itself, its
neighbours, or the service that tells a machine about itself. `Host.isInternal` says which
hosts are refused: some names, and all spellings of addresses that are not public. A name is
not resolved.
-/

namespace Workflow

/-- An address of a host. -/
inductive Address where
  /-- An address of four bytes. -/
  | v4 (n : Nat)
  /-- An address of sixteen bytes. -/
  | v6 (n : Nat)
  deriving DecidableEq, Inhabited

/-- The address that a text writes in strict form. -/
def Address.ofText? (cs : List Char) : Option Address :=
  match IPv4.quad? cs with
  | some n => some (.v4 n)
  | none => (IPv6.ofText? cs).map .v6

/-- Whether a live test must not call an address. -/
def Address.isInternal : Address → Bool
  | .v4 n => IPv4.isInternal n
  | .v6 n => IPv6.isInternal n

namespace Host

open Workflow.Text

/-- The names that are refused. -/
def blockedNames : List String :=
  ["localhost", "metadata", "metadata.google.internal", "metadata.azure.com", "instance-data"]

/-- The ends of names that are refused. -/
def blockedSuffixes : List String :=
  [".localhost", ".internal"]

/-- A host without brackets around it and points after it, in lower case. -/
def normalized (host : List Char) : List Char :=
  let bare := lower (stripWhere (fun c => c == '[' || c == ']') host)
  (bare.reverse.dropWhile (· == '.')).reverse

/-- Whether a name is refused. -/
def isBlockedName (name : List Char) : Bool :=
  blockedNames.any (fun blocked => name == blocked.toList)
    || blockedSuffixes.any fun blocked => blocked.toList.isSuffixOf name

/-- The characters of addresses of four bytes in any spelling. -/
def isNumericChar (c : Char) : Bool :=
  isAsciiDigit c || ('a' ≤ c && c ≤ 'f') || c == 'x' || c == '.'

/-- Whether a name may be an address of four bytes in some spelling. One line feed at the
end does no harm. -/
def isNumeric (name : List Char) : Bool :=
  let body := if name.getLast? = some '\n' then name.dropLast else name
  !body.isEmpty && body.all isNumericChar

/-- The address that a name is, in any spelling that a resolver takes. -/
def address? (name : List Char) : Option Address :=
  match if isNumeric name then IPv4.loose? name else none with
  | some n => some (.v4 n)
  | none => Address.ofText? name

/-- **Whether a live test must not call a host.** -/
def isInternal (host : String) : Bool :=
  let name := normalized host.toList
  isBlockedName name || (address? name).any Address.isInternal

end Host

end Workflow
