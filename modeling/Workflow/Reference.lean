import Workflow.Text.Blank
import Workflow.Text.Identifier
import Workflow.Text.Numeral
import Workflow.Failure

/-!
# References to a slug

When a node is renamed its slug changes, and the templates of other nodes have to follow. A
reference is an opening pair of braces, blanks, the slug and a point; what comes after the
point is left as it is. `Reference.redirect` replaces the references in a text from left to
right, and what it writes is not looked at again.

`Reference.redirectEscaped` takes the new slug as a replacement text in which a backslash
begins an escape: for a character, for a character by its number, or for the reference that
is being replaced. The slugs that nodes get hold no backslash, so for them the two agree.
-/

namespace Workflow

namespace Reference

open Workflow.Text

/-- How many blanks stand before a pattern, if the text begins with blanks and then the
pattern. As many blanks as possible are taken. -/
def gapBefore? (pattern : List Char) : List Char → Option Nat
  | [] => if pattern.isEmpty then some 0 else none
  | c :: cs =>
    match if isBlank c then gapBefore? pattern cs else none with
    | some n => some (n + 1)
    | none => if pattern.isPrefixOf (c :: cs) then some 0 else none

/-- The length of the reference with which a text begins; `pattern` is the slug and the
point. -/
def length? (pattern : List Char) : List Char → Option Nat
  | '\x7b' :: '\x7b' :: cs => (gapBefore? pattern cs).map (· + 2 + pattern.length)
  | _ => none

/-- Replaces references in a text of which the first `skip` characters belong to one that
has been replaced already. -/
def replaceFrom (pattern : List Char) (expand : List Char → List Char) :
    Nat → List Char → List Char
  | _, [] => []
  | skip + 1, _ :: cs => replaceFrom pattern expand skip cs
  | 0, c :: cs =>
    match length? pattern (c :: cs) with
    | some n => expand ((c :: cs).take n) ++ replaceFrom pattern expand (n - 1) cs
    | none => c :: replaceFrom pattern expand 0 cs

/-- What follows the braces and the blanks in a reference to a slug. -/
def patternOf (slug : String) : List Char :=
  slug.toList ++ ['.']

/-- A reference to a slug as it is written anew. -/
def opening (slug : String) : List Char :=
  ['\x7b', '\x7b', ' '] ++ patternOf slug

/-- **Replaces the references to a slug** by references to another one. -/
def redirect (old new : String) (text : String) : String :=
  String.ofList (replaceFrom (patternOf old) (fun _ => opening new) 0 text.toList)

/-! ## Replacement texts with escapes -/

/-- A part of a replacement text. -/
inductive Part where
  /-- A character that stands for itself. -/
  | char (c : Char)
  /-- The reference that is replaced. -/
  | match
  deriving DecidableEq

/-- The parts for one replaced reference. -/
def expand (parts : List Part) (found : List Char) : List Char :=
  parts.flatMap fun part =>
    match part with
    | .char c => [c]
    | .match => found

/-- The value of an octal digit. -/
def octal? (c : Char) : Option Nat :=
  if '0' ≤ c ∧ c ≤ '7' then some (c.toNat - 0x30) else none

/-- The control character that a letter stands for after a backslash. -/
def control? (c : Char) : Option Char :=
  match c with
  | 'a' => some '\x07'
  | 'b' => some '\x08'
  | 'f' => some '\x0c'
  | 'n' => some '\n'
  | 'r' => some '\r'
  | 't' => some '\t'
  | 'v' => some '\x0b'
  | '\\' => some '\\'
  | _ => none

/-- The part for a group between angle brackets. The only group there is has number 0. -/
def group (name : List Char) : Outcome Part :=
  if isIdentifier name then .error .unknownGroup
  else
    match Numeral.int? name with
    | some 0 => .ok .match
    | _ => .error .badReplacement

/-- The octal number after a zero, of at most two more digits, and how many there are. -/
def afterZero : List Char → Nat × Nat
  | c :: cs =>
    match octal? c with
    | none => (0, 0)
    | some a =>
      match cs.head?.bind octal? with
      | none => (a, 1)
      | some b => (8 * a + b, 2)
  | [] => (0, 0)

/-- The part for a number that does not begin with zero: a character, if it has three octal
digits, and otherwise a group that does not exist. -/
def numbered (cs : List Char) : Outcome Part :=
  match cs.map octal? with
  | some a :: some b :: some c :: _ =>
    let n := 64 * a + 8 * b + c
    if n ≤ 255 then .ok (.char (Char.ofNat n)) else .error .badReplacement
  | _ => .error .badReplacement

/-- The parts of a replacement text, of which the first `skip` characters belong to an
escape that has been read already. -/
def partsFrom : Nat → List Char → Outcome (List Part)
  | _, [] => .ok []
  | skip + 1, _ :: cs => partsFrom skip cs
  | 0, c :: cs =>
    if c ≠ '\\' then do return .char c :: (← partsFrom 0 cs)
    else
      match cs with
      | [] => .error .badReplacement
      | 'g' :: '<' :: rest => do
        let name := rest.takeWhile (· != '>')
        if name.isEmpty || name.length = rest.length then throw .badReplacement
        let part ← group name
        return part :: (← partsFrom (name.length + 3) cs)
      | '0' :: rest => do
        let (n, extra) := afterZero rest
        return .char (Char.ofNat n) :: (← partsFrom (1 + extra) cs)
      | e :: rest =>
        match control? e with
        | some c => do return .char c :: (← partsFrom 1 cs)
        | none =>
          if '1' ≤ e ∧ e ≤ '9' then do
            let part ← numbered (e :: rest)
            return part :: (← partsFrom 3 cs)
          else if e.isAlpha then .error .badReplacement
          else do return .char '\\' :: .char e :: (← partsFrom 1 cs)

/-- **Replaces the references to a slug** by what a replacement text says. -/
def redirectEscaped (old new text : String) : Outcome String := do
  let parts ← partsFrom 0 (opening new)
  return String.ofList (replaceFrom (patternOf old) (expand parts) 0 text.toList)

end Reference

end Workflow
