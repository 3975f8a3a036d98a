import Workflow.Charset.Unicode
import Workflow.Entries
import Workflow.Text.Digit

/-!
# Headers

Requests and responses carry rows of headers, each with a name and a value. The case of a name
does not matter, and a name may occur more than once. What is a text is sent in ASCII. An endpoint
may give other bytes; `Headers.ofParts` says which texts they are read as.
-/

namespace Workflow

open Workflow.Text

/-- A text with its ASCII letters in lower case. -/
def Text.lowered (s : String) : String :=
  String.ofList (s.toList.map Char.toLower)

/-! ## Texts that must be ASCII -/

/-- The characters outside ASCII that a message names by number. -/
def escapedCode (c : Char) : String :=
  let n := c.toNat
  let digits := if n < 0x100 then ('x', 2) else if n < 0x10000 then ('u', 4) else ('U', 8)
  String.ofList ('\\' :: digits.1 :: hexPadded digits.2 n)

/-- What is wrong with a text that is not ASCII: where the first run of other characters
stands. None if nothing is wrong. -/
def notAscii? (s : String) : Option String :=
  let isAscii (c : Char) : Bool := c.toNat < 0x80
  let first := (s.toList.takeWhile isAscii).length
  match (s.toList.dropWhile isAscii).takeWhile fun c => !isAscii c with
  | [] => none
  | [c] => some ("'ascii' codec can't encode character '" ++ escapedCode c ++ "' in position "
      ++ toString first ++ ": ordinal not in range(128)")
  | cs => some ("'ascii' codec can't encode characters in position " ++ toString first ++ "-"
      ++ toString (first + cs.length - 1) ++ ": ordinal not in range(128)")

/-! ## Rows of headers -/

/-- **A row of headers**: names and values, in order. -/
abbrev Headers := List (String × String)

namespace Headers

/-- Whether a header has a name. -/
def isNamed (name : String) (header : String × String) : Bool :=
  lowered header.1 == lowered name

/-- Whether there is a header of a name. -/
def has (headers : Headers) (name : String) : Bool :=
  headers.any (isNamed name)

/-- The headers with one put in, in the place of the first of its name. -/
def set (headers : Headers) (name value : String) : Headers :=
  match headers.findIdx? (isNamed name) with
  | none => headers ++ [(name, value)]
  | some i =>
    headers.take i ++ (name, value) :: (headers.drop (i + 1)).filter fun h => !isNamed name h

/-- The headers of a row that a second one does not tell, and then the second one. -/
def merge (headers own : Headers) : Headers :=
  (headers.filter fun h => !has own h.1) ++ own

/-- The headers as a map. Names are in lower case, and the values of a repeated name are
joined by commas at its first place. -/
def join (headers : Headers) : Entries String :=
  headers.foldl (fun es h =>
    let name := lowered h.1
    match Entries.get? es name with
    | some value => Entries.put es name (value ++ ", " ++ h.2)
    | none => Entries.put es name h.2) []

end Headers

/-! ## Bytes -/

/-- **A name or a value of a header** as an endpoint gives it. -/
inductive HeaderPart where
  /-- A text. -/
  | text (s : String)
  /-- Bytes, whatever they stand for. -/
  | bytes (bs : List UInt8)
  deriving DecidableEq, Inhabited

/-- The bytes of a name or a value. A text must be ASCII. -/
def HeaderPart.sent : HeaderPart → Except String (List UInt8)
  | .text s =>
    match notAscii? s with
    | some fault => .error fault
    | none => .ok (s.toList.map fun c => UInt8.ofNat c.toNat)
  | .bytes bs => .ok bs

namespace Headers

/-- The text that bytes are in UTF-8, none if there is something wrong with them. -/
def utf8? (bs : List UInt8) : Option String :=
  (Charset.readUtf8 bs).whole?.map String.ofList

/-- The text in which each byte is a character. -/
def latin (bs : List UInt8) : String :=
  String.ofList (bs.map fun b => Char.ofNat b.toNat)

/-- The headers that bytes stand for: all of them are read as UTF-8 if that can be done, and
otherwise each byte is a character. -/
def ofBytes (rows : List (List UInt8 × List UInt8)) : Headers :=
  let read := rows.mapM fun h => do return (← utf8? h.1, ← utf8? h.2)
  read.getD (rows.map fun h => (latin h.1, latin h.2))

/-- **The headers that an endpoint gives**, unless a text among them is not ASCII. -/
def ofParts (parts : List (HeaderPart × HeaderPart)) : Except String Headers := do
  return ofBytes (← parts.mapM fun h => do return (← h.1.sent, ← h.2.sent))

/-! ## What a client tells of itself -/

/-- The name of the header for the host. -/
def host : String := "Host"

/-- The name of the header for the length of the body. -/
def contentLength : String := "Content-Length"

/-- The name of the header for the credentials. -/
def authorization : String := "Authorization"

/-- What every client tells, and what this one tells about itself. -/
def usual (userAgent : String) : Headers := [
  ("Accept", "*/*"), ("Accept-Encoding", "gzip, deflate"), ("Connection", "keep-alive"),
  ("User-Agent", userAgent)]

/-- The methods of requests that tell the length of their body even if there is none. -/
def lengthMethods : List String := ["POST", "PUT", "PATCH"]

/-- What is told about a request without a body unless its own headers tell it: the host, and
the length of the body. -/
def automatic (method : String) (hostText : Option String) (own : Headers) : Headers :=
  let length :=
    if lengthMethods.contains method && !has own contentLength && !has own "Transfer-Encoding" then
      [(contentLength, "0")]
    else []
  (hostText.map fun text => (host, text)).toList ++ length

end Headers

end Workflow
