import Workflow.Text.CaseTable

/-!
# Letter case

`lower` and `upper` are the full case mappings of Unicode: one letter may become several,
and a capital sigma becomes a final sigma where it ends a word. On ASCII text both act
character by character.
-/

namespace Workflow.Text

/-- The lower-case form of a single character, a capital sigma apart from its context. -/
def lowerChar (c : Char) : List Char :=
  if c.toNat < 0x80 then
    if 'A' ≤ c && c ≤ 'Z' then [Char.ofNat (c.toNat + 32)] else [c]
  else if c.toNat = 0x130 then ['i', Char.ofNat 0x307]
  else [Char.ofNat (CaseRun.map lowerRuns c.toNat)]

/-- The upper-case form of a single character. -/
def upperChar (c : Char) : List Char :=
  if c.toNat < 0x80 then
    if 'a' ≤ c && c ≤ 'z' then [Char.ofNat (c.toNat - 32)] else [c]
  else
    match upperExpansions.lookup c.toNat with
    | some ns => ns.map Char.ofNat
    | none => [Char.ofNat (CaseRun.map upperRuns c.toNat)]

/-- Whether the first character that is not a mark is a letter with case. -/
def meetsCased (cs : List Char) : Bool :=
  match cs.find? fun c => !(markSpans.has c.toNat) with
  | some c => casedSpans.has c.toNat
  | none => false

/-- The lower-case form of a text that follows `before`, which is written backwards. A
capital sigma ends a word when a letter stands before it and none after it. -/
def lowerAfter (before : List Char) : List Char → List Char
  | [] => []
  | c :: cs =>
    let here :=
      if c.toNat = 0x3A3 then
        [Char.ofNat (if meetsCased before && !meetsCased cs then 0x3C2 else 0x3C3)]
      else lowerChar c
    here ++ lowerAfter (c :: before) cs

/-- The lower-case form of a text. -/
def lower (cs : List Char) : List Char :=
  lowerAfter [] cs

/-- The upper-case form of a text. -/
def upper (cs : List Char) : List Char :=
  cs.flatMap upperChar

end Workflow.Text
