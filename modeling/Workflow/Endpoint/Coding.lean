import Workflow.Compression.Wrapper
import Workflow.Endpoint.Exchange

/-!
# Codings of bodies

The headers of a response name the codings that were applied to its body, in the order in which
they were applied. They are undone in reverse order. A name that is not known is skipped.
-/

namespace Workflow

open Workflow.Text

/-- **A coding of a body.** -/
inductive Coding where
  /-- The body as it is. -/
  | identity
  /-- Compressed, with the short header or without one. -/
  | deflate
  /-- Compressed, with the long header. -/
  | gzip
  deriving DecidableEq, Inhabited

namespace Coding

open Compression

/-- The coding of a name. -/
def ofName? (name : String) : Option Coding :=
  match name with
  | "identity" => some .identity
  | "deflate" => some .deflate
  | "gzip" => some .gzip
  | _ => none

/-- Undoes a coding. -/
def undo (bytes : List UInt8) : Coding → Except DataFault (List UInt8)
  | .identity => .ok bytes
  | .deflate =>
    match unwrap .short bytes with
    | .ok plain => .ok plain
    | .error _ => unwrap .bare bytes
  | .gzip => unwrap .long bytes

/-- The name of the header for the codings. -/
def headerName : String := "content-encoding"

/-- The names in the value of a header, in lower case. -/
def namesIn (value : String) : List String :=
  (cutAt ',' value.toList).map fun part => String.ofList (lower (trim part))

/-- The codings that headers name. -/
def ofHeaders (headers : Headers) : List Coding :=
  ((headers.filter (Headers.isNamed headerName)).flatMap fun h => namesIn h.2).filterMap ofName?

end Coding

/-- **The response with its body as it was** before any coding. -/
def Response.decoded (r : Response) : Except Compression.DataFault Response := do
  return { r with body := ← (Coding.ofHeaders r.headers).reverse.foldlM Coding.undo r.body }

end Workflow
