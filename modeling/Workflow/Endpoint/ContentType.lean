import Workflow.Charset
import Workflow.Endpoint.Percent
import Workflow.Failure
import Workflow.Text.Blank
import Workflow.Text.Case

/-!
# Content types

A content type is a name and parameters, of which one tells the character set of the body. The
value of a parameter may be cut into numbered segments, and a segment may be encoded; then the whole
value begins with its own character set and its language, each with an apostrophe after it.

`ContentType.charsetName?` finds the name of the character set. The parameters whose values are not
cut come first, whatever their places.
-/

namespace Workflow

namespace ContentType

open Workflow.Text

/-! ## Pieces -/

/-- Whether the quotation marks in a text are balanced, those after a backslash not
counted. -/
def quotesClosed (cs : List Char) : Bool :=
  let rec go (escaped : Bool) (open_ : Bool) : List Char → Bool
    | [] => !open_
    | '"' :: rest => go false (if escaped then open_ else !open_) rest
    | c :: rest => go (c == '\\') open_ rest
  go false false cs

/-- A content type cut at semicolons outside quotation marks. -/
def pieces (cs : List Char) : List (List Char) :=
  ((cutAt ';' cs).foldl (fun (acc : List (List Char)) piece =>
    match acc with
    | last :: rest =>
      if quotesClosed last then piece :: last :: rest else (last ++ ';' :: piece) :: rest
    | [] => [piece]) []).reverse

/-- The name and the value of a piece. A piece without a sign for a value is a name, in whatever
case it is written. -/
def cutPiece (piece : List Char) : List Char × List Char :=
  if piece.contains '=' then
    (lower (trim (piece.takeWhile (· != '='))), trim ((piece.dropWhile (· != '=')).drop 1))
  else (trim piece, [])

/-- A text without the backslashes before a character. -/
def withoutBackslash (before : Char) : List Char → List Char
  | '\\' :: c :: rest =>
    if c = before then c :: withoutBackslash before rest
    else '\\' :: withoutBackslash before (c :: rest)
  | c :: rest => c :: withoutBackslash before rest
  | [] => []

/-- A value without the marks around it. -/
def unquoted (cs : List Char) : List Char :=
  match cs.head?, cs.getLast? with
  | some '"', some '"' =>
    if cs.length < 2 then cs
    else withoutBackslash '"' (withoutBackslash '\\' (cs.drop 1).dropLast)
  | some '<', some '>' => (cs.drop 1).dropLast
  | _, _ => cs

/-! ## Segments -/

/-- **A segment of a value.** -/
structure Segment where
  /-- The number, which all segments of a value have or none. -/
  number : Option Nat
  /-- What is written. -/
  text : String
  /-- Whether bytes are written with percent signs. -/
  isEncoded : Bool
  deriving DecidableEq, Inhabited

/-- Whether a segment may come before another one. -/
def Segment.precedes (a b : Segment) : Bool :=
  if a.number ≠ b.number then a.number.getD 0 < b.number.getD 0
  else if a.text ≠ b.text then a.text < b.text
  else !a.isEncoded || b.isEncoded

/-- What a segment stands for. -/
def Segment.chars (s : Segment) : List Char :=
  if s.isEncoded then Percent.charsFrom 0 s.text.toList else s.text.toList

/-- Whether a name of a parameter may have a character. -/
def isNameChar (c : Char) : Bool := c.isAlphanum || c == '_'

/-- The name of the parameter and the number that the name of a segment tells. -/
def segmentName? (name : List Char) : Option (List Char × Option Nat) :=
  let owner := name.takeWhile isNameChar
  match owner, name.drop owner.length with
  | _ :: _, '*' :: rest =>
    let digits := rest.takeWhile isAsciiDigit
    match digits, rest.drop digits.length with
    | [], [] => some (owner, none)
    | _ :: _, [] | _ :: _, ['*'] =>
      some (owner, some (digits.foldl (fun n c => 10 * n + (c.toNat - '0'.toNat)) 0))
    | _, _ => none
  | _, _ => none

/-! ## Values -/

/-- **The value of a parameter.** -/
inductive Value where
  /-- A value that is written as it is. -/
  | plain (cs : List Char)
  /-- An encoded value, with the name of its character set if it tells one. -/
  | encoded (charset : Option (List Char)) (cs : List Char)
  deriving DecidableEq, Inhabited

/-- The value that encoded characters tell, after a character set and a language. -/
def Value.ofEncoded (cs : List Char) : Value :=
  match cutAt '\x27' cs with
  | charset :: _ :: value :: rest =>
    .encoded (some charset) (['\x27'].intercalate (value :: rest))
  | _ => .encoded none cs

/-- The value of segments. Segments with a number cannot be put in order with those without. -/
def Value.join (segments : List Segment) : Outcome Value :=
  if segments.any (·.number.isSome) && segments.any (·.number.isNone) then .error .notNumber
  else
    let cs := (segments.mergeSort Segment.precedes).flatMap Segment.chars
    .ok (if segments.any Segment.isEncoded then .ofEncoded cs else .plain cs)

/-! ## Parameters -/

/-- The parameters whose values are not cut, and the segments by the names of their parameters. -/
structure Parts where
  /-- The parameters. -/
  whole : List (List Char × Value) := []
  /-- The segments. -/
  segments : List (List Char × List Segment) := []
  deriving Inhabited

/-- Adds a segment to those of its parameter. -/
def addSegment (owner : List Char) (s : Segment) :
    List (List Char × List Segment) → List (List Char × List Segment)
  | [] => [(owner, [s])]
  | (name, segments) :: rest =>
    if name = owner then (name, segments ++ [s]) :: rest
    else (name, segments) :: addSegment owner s rest

/-- Adds a piece. -/
def Parts.add (parts : Parts) (piece : List Char) : Parts :=
  let (name, written) := cutPiece piece
  let value := unquoted written
  match segmentName? name with
  | some (owner, number) =>
    let s : Segment := ⟨number, String.ofList value, name.getLast? == some '*'⟩
    { parts with segments := addSegment owner s parts.segments }
  | none => { parts with whole := parts.whole ++ [(name, .plain value)] }

/-- **The parameters of a content type**, and its own name as if it were one. -/
def parameters (contentType : String) : Outcome (List (List Char × Value)) :=
  match pieces contentType.toList with
  | [] => .ok []
  | first :: rest => do
    let (name, written) := cutPiece first
    let start : Parts := { whole := [(name, .plain (unquoted written))] }
    let parts := rest.foldl Parts.add start
    let joined ← parts.segments.mapM fun (owner, segments) =>
      return (owner, ← Value.join segments)
    return parts.whole ++ joined

/-- Whether all characters are of ASCII. -/
def isAscii (cs : List Char) : Bool := cs.all (·.toNat < 0x80)

/-- The character set in which an encoded value is read if it tells none. -/
def defaultName : String := "us-ascii"

/-- The bytes that a character of an encoded value is: one byte, or an escape with the number of
the character. -/
def bytesOfChar (c : Char) : List UInt8 :=
  let n := c.toNat
  if n < 0x100 then [UInt8.ofNat n]
  else
    let digits := if n < 0x10000 then 'u' :: hexPadded 4 n else 'U' :: hexPadded 8 n
    bytes (String.ofList ('\\' :: digits))

/-- The text of a value. An encoded one that cannot be read is left as it is. -/
def Value.text : Value → Outcome (List Char)
  | .plain cs => .ok cs
  | .encoded charset cs =>
    let name := match charset with
      | none | some [] => defaultName
      | some name => String.ofList name
    let read : Except Charset.Fault (List Char) := do
      match ← Charset.ofName? name with
      | some c => return (← c.exact (cs.flatMap bytesOfChar)).getD cs
      | none => return cs
    read.mapError .unreadableBytes

/-- **The name of the character set** that a content type tells, in lower case; none if it is
not of ASCII. -/
def charsetName? (contentType : String) : Outcome (Option String) := do
  match (← parameters contentType).find? fun entry => lower entry.1 == "charset".toList with
  | none => return none
  | some (_, value) =>
    let cs ← value.text
    return if isAscii cs then some (String.ofList (lower cs)) else none

end ContentType

end Workflow
