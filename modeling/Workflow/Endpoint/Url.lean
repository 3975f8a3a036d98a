import Workflow.Endpoint.IPv6
import Workflow.Endpoint.Host
import Workflow.Failure
import Workflow.Text.Case

/-!
# Addresses of endpoints

An address is taken apart at its delimiters: the scheme before the first colon, the
authority after two slashes, and the path. In the authority, what stands before the last
at-sign is about the user; the rest is the host, in brackets if it holds colons, and perhaps
a number after a colon.

`Url.split` is the lenient reading, which decides whether an endpoint may be called at all.
Blanks and controls in front are dropped, and so are tabs and line ends anywhere.
-/

namespace Workflow

open Workflow.Text

/-- **An address taken apart.** -/
structure Url where
  /-- The scheme, in lower case; empty if there is none. -/
  scheme : String
  /-- The authority; empty if there is none. -/
  authority : List Char
  /-- What follows the authority. -/
  rest : List Char
  deriving DecidableEq, Inhabited

namespace Url

/-- Whether a character may stand in a scheme. -/
def isSchemeChar (c : Char) : Bool :=
  c.isAlphanum || c == '+' || c == '-' || c == '.'

/-- The scheme of an address and what follows the colon, if it begins with a scheme. -/
def scheme? (cs : List Char) : Option (List Char × List Char) :=
  match cs.takeWhile isSchemeChar, cs.dropWhile isSchemeChar with
  | c :: name, ':' :: rest => if c.isAlpha then some (c :: name, rest) else none
  | _, _ => none

/-- Whether a character ends the authority. -/
def endsAuthority (c : Char) : Bool :=
  c == '/' || c == '?' || c == '#'

/-- What stands after the last occurrence of a character, everything if there is none. -/
def afterLast (sep : Char) (cs : List Char) : List Char :=
  (cs.reverse.takeWhile (· != sep)).reverse

/-- What stands after the first occurrence of a character, nothing if there is none. -/
def afterFirst (sep : Char) (cs : List Char) : List Char :=
  (cs.dropWhile (· != sep)).drop 1

/-- The characters outside ASCII whose compatible form holds a delimiter. -/
def disguisedDelimiters : List Nat := [
  0x2047, 0x2048, 0x2049, 0x2100, 0x2101, 0x2105, 0x2106, 0x2A74, 0xFE13, 0xFE16, 0xFE55,
  0xFE56, 0xFE5F, 0xFE6B, 0xFF03, 0xFF0F, 0xFF1A, 0xFF1F, 0xFF20]

/-- The check of what stands in brackets: an address of sixteen bytes, or the letter v, a
hexadecimal number, a point and something else. -/
def checkBracketed (host : List Char) : Except AddressFault Unit :=
  match host with
  | 'v' :: cs =>
    let isHex (c : Char) : Bool := (hexValue? c).isSome
    match cs.takeWhile isHex, cs.dropWhile isHex with
    | _ :: _, '.' :: _ :: _ => .ok ()
    | _, _ => .error .malformedFuture
  | _ =>
    match Address.ofText? host with
    | some (.v6 _) => .ok ()
    | some (.v4 _) => .error .bracketedV4
    | none => .error (.noAddress (String.ofList host))

/-- The host of an authority in which both brackets occur: what the brackets hold, or what
stands before the first colon where no bracket follows the last at-sign. Nothing may stand
before the opening bracket, and only a colon after the closing one. -/
def bracketedHost (authority : List Char) : Except AddressFault (List Char) :=
  let place := afterLast '@' authority
  if place.contains '[' then
    let inside := afterFirst '[' place
    let after := afterFirst ']' inside
    if place.head? != some '[' then .error .unbalancedBrackets
    else if !after.isEmpty && after.head? != some ':' then .error .unbalancedBrackets
    else .ok (inside.takeWhile (· != ']'))
  else .ok (place.takeWhile (· != ':'))

/-- The check of an authority. -/
def checkAuthority (authority : List Char) : Except AddressFault Unit := do
  if authority.contains '[' != authority.contains ']' then throw .unbalancedBrackets
  if authority.contains '[' then checkBracketed (← bracketedHost authority)
  if authority.any fun c => disguisedDelimiters.contains c.toNat then
    throw (.compatibleDelimiter (String.ofList authority))

/-- The characters that are dropped wherever they stand. -/
def isLayout (c : Char) : Bool :=
  c == '\t' || c == '\r' || c == '\n'

/-- An address without what is dropped before it is read. -/
def cleaned (url : String) : List Char :=
  (url.toList.dropWhile fun c => c.toNat ≤ 0x20).filter fun c => !isLayout c

/-- **Takes an address apart.** -/
def split (url : String) : Except AddressFault Url := do
  let cs := cleaned url
  let (scheme, rest) := (scheme? cs).getD ([], cs)
  match rest with
  | '/' :: '/' :: rest =>
    let authority := rest.takeWhile fun c => !endsAuthority c
    checkAuthority authority
    return ⟨String.ofList (lower scheme), authority, rest.drop authority.length⟩
  | _ => return ⟨String.ofList (lower scheme), [], rest⟩

/-- The host of an address as it is written, without brackets and without
what follows its colon. -/
def rawHost (u : Url) : List Char :=
  let info := afterLast '@' u.authority
  if info.contains '[' then (afterFirst '[' info).takeWhile (· != ']')
  else info.takeWhile (· != ':')

/-- **The host of an address**, in lower case but for the zone of an address of sixteen bytes.
It may be missing. -/
def host? (u : Url) : Option String :=
  let raw := u.rawHost
  if raw.isEmpty then none
  else
    some (String.ofList
      (lower (raw.takeWhile (· != '%')) ++ raw.dropWhile (· != '%')))

/-! ## References

A reference is an address that leaves out what it has in common with the address at which it
stands.
-/

/-- The path of an address. -/
def path (u : Url) : List Char :=
  u.rest.takeWhile fun c => c != '?' && c != '#'

/-- The query of an address with its question mark, unless it is empty. -/
def queryPart (u : Url) : List Char :=
  let part := (u.rest.drop u.path.length).takeWhile (· != '#')
  if part = ['?'] then [] else part

/-- The fragment of an address with its number sign, unless it is empty. -/
def fragmentPart (u : Url) : List Char :=
  let part := u.rest.dropWhile (· != '#')
  if part = ['#'] then [] else part

/-- The segments of a path with the steps up and down carried out, those before them in
reverse. A step at the end leaves an empty segment behind. -/
def steps (done : List (List Char)) : List (List Char) → List (List Char)
  | [] => done.reverse
  | segment :: rest =>
    let done :=
      if segment = ['.', '.'] then done.drop 1
      else if segment = ['.'] then done
      else segment :: done
    let isStep := segment = ['.'] || segment = ['.', '.']
    steps (if rest.isEmpty && isStep then [] :: done else done) rest

/-- The segments of a path that begins at the segments of another one. Segments in between
that are empty are left out. -/
def segmentsFrom (base path : List Char) : List (List Char) :=
  if path.head? = some '/' then cutAt '/' path
  else
    let segments := cutAt '/' base
    let around :=
      (if segments.getLast? = some [] then segments else segments.dropLast) ++ cutAt '/' path
    around.take 1 ++ ((around.drop 1).dropLast.filter (!·.isEmpty))
      ++ (around.drop 1).getLast?.toList

/-- An address as a text. -/
def compose (scheme : String) (authority path query fragment : List Char) : String :=
  let path := if path.isEmpty || path.head? = some '/' then path else '/' :: path
  String.ofList (scheme.toList ++ [':', '/', '/'] ++ authority ++ path ++ query ++ fragment)

/-- **The address that a reference stands for** at an address with one of the usual
schemes. -/
def resolve (base reference : String) : Except AddressFault String := do
  if reference.isEmpty then return base
  let home ← split base
  let goal ← split reference
  if !goal.scheme.isEmpty && goal.scheme != home.scheme then return reference
  else if !goal.authority.isEmpty then
    return compose home.scheme goal.authority goal.path goal.queryPart goal.fragmentPart
  else if goal.path.isEmpty then
    let query := if goal.queryPart.isEmpty then home.queryPart else goal.queryPart
    return compose home.scheme home.authority home.path query goal.fragmentPart
  else
    let path := ['/'].intercalate (steps [] (segmentsFrom home.path goal.path))
    let path := if path.isEmpty then ['/'] else path
    return compose home.scheme home.authority path goal.queryPart goal.fragmentPart

/-- Whether an address has one of the schemes that live tests know. -/
def isWeb (u : Url) : Bool :=
  u.scheme == "http" || u.scheme == "https"

end Url

end Workflow
