import Workflow.Failure
import Workflow.Json.Display
import Workflow.Text.Blank

/-!
# Templates

The address and the headers of an API call may refer to the outputs of other nodes: two
opening braces, a path, two closing braces. The path is a slug followed by property names,
separated by points, with blanks around it.

`Template.pieces` cuts a text into single characters and placeholders, from left to right. A
placeholder holds at least one character and no closing brace. `Template.resolve` puts
values into the placeholders whose path leads to one, if they can be displayed; the others are
left in place and reported. What is put in is not looked at again.
-/

namespace Workflow

namespace Template

open Workflow.Text

/-- A part of a template. -/
inductive Piece where
  /-- A character that stands for itself. -/
  | char (c : Char)
  /-- A placeholder, given by what stands between its braces. -/
  | hole (body : List Char)
  deriving DecidableEq

/-- The text of a part. -/
def Piece.text : Piece → List Char
  | .char c => [c]
  | .hole body => ['\x7b', '\x7b'] ++ body ++ ['\x7d', '\x7d']

/-- The body of the placeholder with which a text begins, and what follows it. -/
def hole? : List Char → Option (List Char × List Char)
  | '\x7b' :: '\x7b' :: cs =>
    let body := cs.takeWhile (· != '\x7d')
    match body, cs.dropWhile (· != '\x7d') with
    | _ :: _, '\x7d' :: '\x7d' :: rest => some (body, rest)
    | _, _ => none
  | _ => none

/-- The parts of a text, of which the first `skip` characters belong to a placeholder that
has already been cut out. -/
def piecesFrom : Nat → List Char → List Piece
  | _, [] => []
  | skip + 1, _ :: cs => piecesFrom skip cs
  | 0, c :: cs =>
    match hole? (c :: cs) with
    | some (body, _) => .hole body :: piecesFrom (body.length + 3) cs
    | none => .char c :: piecesFrom 0 cs

/-- **The parts of a template.** -/
def pieces (cs : List Char) : List Piece :=
  piecesFrom 0 cs

/-- The path in a placeholder, blanks around it dropped. -/
def pathText (body : List Char) : List Char :=
  trim body

/-- The value that property names lead to, null where there is none. -/
def descend (v : Json) : List (List Char) → Json
  | [] => v
  | name :: names =>
    match v with
    | .obj es =>
      match Entries.get? es (String.ofList name) with
      | some w => descend w names
      | none => .null
    | _ => .null

/-- The value that a path leads to in a map from slugs to outputs. Null is no value. -/
def lookup (values : Entries Json) (path : List Char) : Option Json :=
  match cutAt '.' path with
  | [] => none
  | root :: names =>
    match Entries.get? values (String.ofList root) with
    | none => none
    | some v =>
      match descend v names with
      | .null => none
      | w => some w

/-- What a part becomes, and the path to report if it stays as it is. -/
def fill (values : Entries Json) : Piece → Outcome (List Char × Option String)
  | .char c => .ok ([c], none)
  | .hole body =>
    match lookup values (pathText body) with
    | some v => do return ((← v.display).toList, none)
    | none => .ok ((Piece.hole body).text, some (String.ofList (pathText body)))

/-- A text with its placeholders filled, and the paths that led to no value. -/
structure Resolved where
  /-- The text. -/
  text : String
  /-- The paths of the placeholders that were left in place, in order. -/
  unresolved : List String
  deriving DecidableEq

/-- **Fills the placeholders of a text.** -/
def resolve (template : String) (values : Option (Entries Json)) : Outcome Resolved := do
  let filled ← (pieces template.toList).mapM (fill (values.getD []))
  return ⟨String.ofList (filled.flatMap Prod.fst), filled.filterMap Prod.snd⟩

/-! ## Values of any form -/

/-- Whether a text stands in another one. -/
def occurs (pattern : List Char) : List Char → Bool
  | [] => pattern.isEmpty
  | c :: cs => pattern.isPrefixOf (c :: cs) || occurs pattern cs

/-- Whether a slug is looked up in a value that is no map, which cannot be done. Values that have
no items cannot even be searched for it. -/
def isLookedUp (values : Json) (slug : List Char) : Bool :=
  match values with
  | .arr items => items.any (Json.same (.str (String.ofList slug)))
  | .str s => occurs slug s.toList
  | _ => true

/-- The slug with which the path in a placeholder begins. -/
def Piece.slug? : Piece → Option (List Char)
  | .char _ => none
  | .hole body => (cutAt '.' (pathText body)).head?

/-- **Fills the placeholders of a text** from a value of any form. What does not count as given
has no outputs, and a value that is no map can only be found to lack them. -/
def resolveFrom (template : String) (values : Json) : Outcome Resolved :=
  match values with
  | .obj es => resolve template (some es)
  | v =>
    if v.isTruthy && ((pieces template.toList).filterMap Piece.slug?).any (isLookedUp v) then
      .error .notMap
    else resolve template none

end Template

end Workflow
