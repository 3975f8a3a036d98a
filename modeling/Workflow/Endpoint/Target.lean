import Workflow.Endpoint.HostName
import Workflow.Endpoint.Percent
import Workflow.Endpoint.Url
import Workflow.Text.Numeral
import Workflow.Text.Quoted

/-!
# Addresses as a client takes them

Before a client sends a request it reads the address once more, and more strictly than
`Url.split`. Controls are refused wherever they stand, a host that is written as an address of
four or sixteen bytes has to be one, a host outside ASCII has to be a legal name, and what
follows the colon after the host has to be a number. What is read is put into the form in which
it is sent: the scheme and the host in lower case, steps up and down in the path carried out,
and characters escaped that must not stand in an address.

`Pieces.ofText` cuts an address at its delimiters, `Target.ofPieces` checks the pieces, and
`Target.read` is both. `TargetFault.message` says what is wrong with an address that is refused.

An address may be relative, as the one that a response redirects to.
-/

namespace Workflow

open Workflow.Text

/-- Why a client refuses an address. -/
inductive TargetFault where
  /-- More characters than any address has. -/
  | tooLong
  /-- A control character, and its place. -/
  | control (c : Char) (place : Nat)
  /-- More characters than any part of an address has. -/
  | longPart (part : String)
  /-- A control character in a part of an address, and its place there. -/
  | controlIn (part : String) (c : Char) (place : Nat)
  /-- A host that is written as an address of four bytes and is none. -/
  | notQuad (host : String)
  /-- A host in brackets that is no address of sixteen bytes. -/
  | notV6 (host : String)
  /-- A host outside ASCII that is no legal name. -/
  | notName (host : String)
  /-- What follows the colon after the host is no number. -/
  | notPort (number : String)
  /-- A path that runs into the host before it. -/
  | pathWithoutSlash
  /-- A relative address whose path would be taken for a host. -/
  | pathLikeAuthority
  /-- A relative address whose path would be taken for a scheme. -/
  | pathLikeScheme
  deriving DecidableEq, Inhabited

/-- What is wrong with an address. -/
def TargetFault.message : TargetFault → String
  | .tooLong => "URL too long"
  | .control c place =>
    "Invalid non-printable ASCII character in URL, " ++ quoted (String.singleton c)
      ++ " at position " ++ toString place ++ "."
  | .longPart part => "URL component '" ++ part ++ "' too long"
  | .controlIn part c place =>
    "Invalid non-printable ASCII character in URL " ++ part ++ " component, "
      ++ quoted (String.singleton c) ++ " at position " ++ toString place ++ "."
  | .notQuad host => "Invalid IPv4 address: " ++ quoted host
  | .notV6 host => "Invalid IPv6 address: " ++ quoted host
  | .notName host => "Invalid IDNA hostname: " ++ quoted host
  | .notPort number => "Invalid port: " ++ quoted number
  | .pathWithoutSlash => "For absolute URLs, path must be empty or begin with '/'"
  | .pathLikeAuthority => "Relative URLs cannot have a path starting with '//'"
  | .pathLikeScheme => "Relative URLs cannot have a path starting with ':'"

/-! ## Cutting an address -/

/-- **The pieces of an address** between its delimiters. -/
structure Pieces where
  /-- The scheme; empty if there is none. -/
  scheme : List Char := []
  /-- What stands before the at-sign. -/
  user : List Char := []
  /-- The host, with brackets if it has some. -/
  host : List Char := []
  /-- What stands after the host and the colon. -/
  portText : List Char := []
  /-- The path. -/
  path : List Char := []
  /-- What stands after the question mark, if there is one. -/
  query : Option (List Char) := none
  /-- What stands after the number sign, if there is one. -/
  fragment : Option (List Char) := none
  deriving DecidableEq, Inhabited

namespace Pieces

/-- The scheme of an address, which may be empty before a colon, and what follows. -/
def cutScheme (cs : List Char) : List Char × List Char :=
  match cs with
  | ':' :: rest => ([], rest)
  | _ => (Url.scheme? cs).getD ([], cs)

/-- The host at the beginning of a text, and what follows. A host that begins with a bracket
runs to the last closing one. -/
def cutHost (cs : List Char) : List Char × List Char :=
  match cs with
  | '[' :: _ =>
    if cs.contains ']' then
      let after := Url.afterLast ']' cs
      (cs.take (cs.length - after.length), after)
    else (cs.takeWhile (· != ':'), cs.dropWhile (· != ':'))
  | _ => (cs.takeWhile (· != ':'), cs.dropWhile (· != ':'))

/-- The authority of an address without its scheme, and what follows. -/
def cutAuthority (cs : List Char) : List Char × List Char :=
  match cs with
  | '/' :: '/' :: rest =>
    let authority := rest.takeWhile fun c => !Url.endsAuthority c
    (authority, rest.drop authority.length)
  | _ => ([], cs)

/-- What stands before a delimiter, and what stands after it if it is there. -/
def cutBefore (delimiter : Char) (cs : List Char) : List Char × Option (List Char) :=
  match cs.dropWhile (· != delimiter) with
  | [] => (cs, none)
  | _ :: rest => (cs.takeWhile (· != delimiter), some rest)

/-- **Cuts an address** at its delimiters. -/
def ofText (cs : List Char) : Pieces :=
  let (scheme, rest) := cutScheme cs
  let (authority, rest) := cutAuthority rest
  let (rest, fragment) := cutBefore '#' rest
  let (path, query) := cutBefore '?' rest
  let place := Url.afterLast '@' authority
  let (host, after) := cutHost place
  { scheme
    user := authority.take (authority.length - place.length - 1)
    host
    portText := if after.head? = some ':' then after.drop 1 else after
    path
    query
    fragment }

/-- The host and the number after it. -/
def place (p : Pieces) : List Char :=
  p.host ++ (if p.portText.isEmpty then [] else ':' :: p.portText)

/-- What stands between the scheme and the path. -/
def authority (p : Pieces) : List Char :=
  (if p.user.isEmpty then [] else p.user ++ ['@']) ++ p.place

/-- A piece behind its delimiter, nothing if there is none. -/
def behind (delimiter : Char) (piece : Option (List Char)) : List Char :=
  (piece.map (delimiter :: ·)).getD []

/-- The pieces as one address. -/
def toText (p : Pieces) : List Char :=
  (if p.scheme.isEmpty then [] else p.scheme ++ [':'])
    ++ (if p.authority.isEmpty then [] else '/' :: '/' :: p.authority)
    ++ p.path ++ behind '?' p.query ++ behind '#' p.fragment

end Pieces

/-! ## Checking the pieces -/

/-- **An address as a client takes it**, in the form in which it is sent. -/
structure Target where
  /-- The scheme, in lower case; empty if there is none. -/
  scheme : List Char
  /-- What stands before the at-sign. -/
  user : List Char
  /-- The host, without brackets. -/
  host : List Char
  /-- The number after the host, unless it is the usual one for the scheme. -/
  portNumber : Option Int
  /-- The path. -/
  path : List Char
  /-- What stands after the question mark. -/
  query : Option (List Char)
  /-- What stands after the number sign. -/
  fragment : Option (List Char)
  deriving DecidableEq, Inhabited

namespace Target

/-- The most characters that an address, or a part of one, may have. -/
def maxLength : Nat := 65536

/-- Whether a character is a control of ASCII. -/
def isControl (c : Char) : Bool :=
  c.toNat < 0x20 || c.toNat == 0x7F

/-! ### Characters that need no escape -/

/-- Whether a character is printable ASCII and none of some others. -/
def isPlainBut (others : String) (c : Char) : Bool :=
  0x20 < c.toNat && c.toNat < 0x7F && !others.toList.contains c

/-- The characters that need no escape in a fragment. -/
def isFragmentChar : Char → Bool := isPlainBut "\"<>\x60"

/-- The characters that need no escape in a query. -/
def isQueryChar : Char → Bool := isPlainBut "\"#<>"

/-- The characters that need no escape in a path. -/
def isPathChar : Char → Bool := isPlainBut "\"#<>?\x60\x7b\x7d"

/-- The characters that need no escape before the at-sign. -/
def isUserChar : Char → Bool := isPlainBut "\"#<>?\x60\x7b\x7d/;=@[\\]^|"

/-- The characters that need no escape in a host. -/
def isHostChar : Char → Bool := isPlainBut "#/:<>?@[]^"

/-! ### Hosts -/

/-- Whether a host is written as four numbers with points between them. -/
def looksLikeQuad (host : List Char) : Bool :=
  let parts := cutAt '.' host
  parts.length = 4 && parts.all fun part => !part.isEmpty && part.all isAsciiDigit

/-- **The form in which a host is sent.** -/
def encodeHost (host : List Char) : Except TargetFault (List Char) :=
  if host.isEmpty then .ok []
  else if looksLikeQuad host then
    if (IPv4.quad? host).isSome then .ok host else .error (.notQuad (String.ofList host))
  else if host.head? = some '[' ∧ host.getLast? = some ']' then
    let inside := (host.drop 1).dropLast
    if (IPv6.ofText? inside).isSome then .ok inside else .error (.notV6 (String.ofList host))
  else if host.all (·.toNat < 0x80) then .ok (Percent.encode isHostChar (lower host))
  else
    (HostName.encode (lower host)).mapError fun _ => .notName (String.ofList host)

/-! ### Numbers after the host -/

/-- The usual numbers after the host, by scheme. -/
def usualPorts : List (String × Int) :=
  [("ftp", 21), ("http", 80), ("https", 443), ("ws", 80), ("wss", 443)]

/-- The number after the host, unless it is the usual one for a scheme. -/
def readPort (scheme text : List Char) : Except TargetFault (Option Int) :=
  if text.isEmpty then .ok none
  else
    match Numeral.int? text with
    | none => .error (.notPort (String.ofList text))
    | some n =>
      if usualPorts.contains (String.ofList scheme, n) then .ok none else .ok (some n)

/-! ### Paths -/

/-- Whether there is an authority. -/
def hasAuthority (t : Target) : Bool :=
  !t.user.isEmpty || !t.host.isEmpty || t.portNumber.isSome

/-- The check of a path, which must not be taken for something else. -/
def checkPath (t : Target) : Except TargetFault Unit :=
  if t.hasAuthority then
    if t.path.isEmpty || t.path.head? == some '/' then .ok () else .error .pathWithoutSlash
  else if t.scheme.isEmpty then
    if t.path.take 2 == ['/', '/'] then .error .pathLikeAuthority
    else if t.path.head? == some ':' then .error .pathLikeScheme
    else .ok ()
  else .ok ()

/-- The segments of a path with the steps up and down carried out. The empty segment before
the first slash is kept. -/
def walk (done : List (List Char)) : List (List Char) → List (List Char)
  | [] => done.reverse
  | ['.'] :: rest => walk done rest
  | ['.', '.'] :: rest => walk (if done = [[]] then done else done.drop 1) rest
  | segment :: rest => walk (segment :: done) rest

/-- A path with the steps up and down carried out. -/
def normalPath (path : List Char) : List Char :=
  ['/'].intercalate (walk [] (cutAt '/' path))

/-! ### The whole address -/

/-- **Checks the pieces of an address** and puts them into the form in which they are sent. -/
def ofPieces (p : Pieces) : Except TargetFault Target := do
  let host ← encodeHost p.host
  let portNumber ← readPort p.scheme p.portText
  let target : Target := {
    scheme := lower p.scheme
    user := Percent.encode isUserChar p.user
    host
    portNumber
    path := p.path
    query := p.query.map (Percent.encode isQueryChar)
    fragment := p.fragment.map (Percent.encode isFragmentChar) }
  checkPath target
  let path :=
    if target.scheme.isEmpty && !target.hasAuthority then p.path else normalPath p.path
  return { target with path := Percent.encode isPathChar path }

/-- **Reads an address** as a client does. -/
def read (url : String) : Except TargetFault Target := do
  let cs := url.toList
  if maxLength < cs.length then throw .tooLong
  match cs.find? isControl with
  | some c => throw (.control c (cs.idxOf c))
  | none => ofPieces (Pieces.ofText cs)

/-- The pieces of an address in the form in which it is sent. -/
def pieces (t : Target) : Pieces where
  scheme := t.scheme
  user := t.user
  host := if t.host.contains ':' then ['['] ++ t.host ++ [']'] else t.host
  portText := (t.portNumber.map fun n => (toString n).toList).getD []
  path := t.path
  query := t.query
  fragment := t.fragment

/-- The check of a part of an address that is put together again. -/
def checkPart (name : String) (part : List Char) : Except TargetFault Unit := do
  if maxLength < part.length then throw (.longPart name)
  match part.find? isControl with
  | some c => throw (.controlIn name c (part.idxOf c))
  | none => return ()

/-- Puts pieces together again, some of which were replaced. -/
def rebuild (p : Pieces) : Except TargetFault Target := do
  checkPart "scheme" p.scheme
  checkPart "authority" p.authority
  checkPart "path" p.path
  checkPart "query" (p.query.getD [])
  checkPart "fragment" (p.fragment.getD [])
  ofPieces p

/-- Whether an address has both a scheme and a host. -/
def isAbsolute (t : Target) : Bool :=
  !t.scheme.isEmpty && !t.host.isEmpty

/-- **The host as it is shown**: in its own script if it is sent as an encoded label. -/
def shownHost (t : Target) : Except LabelFault (List Char) :=
  if HostName.sign.isPrefixOf t.host then HostName.decode t.host else .ok t.host

/-- The host and the number after it as they are sent. -/
def place (t : Target) : List Char := t.pieces.place

/-- The address as it is sent. -/
def toText (t : Target) : List Char := t.pieces.toText

/-- An address that is not absolute taken for a path from the root. -/
def rooted (t : Target) : Except TargetFault Target :=
  if t.isAbsolute then .ok t
  else rebuild { path := '/' :: t.path.dropWhile (· == '/'), query := t.query }

end Target

end Workflow
