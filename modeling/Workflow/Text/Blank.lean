/-!
# Blank characters

Names, addresses and numbers typed by a user are trimmed and cut at blanks before they
are read. What counts as blank is Unicode white space together with the four separator
controls U+001C to U+001F, which many white-space classes leave out.

`trim` and `words` are the two operations on blanks: the first drops them at both ends,
the second cuts a text at every run of them and never returns an empty word.
-/

namespace Workflow.Text

/-- Unicode white space, the separator controls U+001C to U+001F included. -/
def isBlank (c : Char) : Bool :=
  let n := c.toNat
  (9 ≤ n && n ≤ 13) || (28 ≤ n && n ≤ 32) || n == 0x85 || n == 0xA0 || n == 0x1680 ||
    (0x2000 ≤ n && n ≤ 0x200A) || n == 0x2028 || n == 0x2029 || n == 0x202F || n == 0x205F ||
    n == 0x3000

/-- Drops, at both ends, the characters of a class. -/
def stripWhere (p : Char → Bool) (cs : List Char) : List Char :=
  ((cs.dropWhile p).reverse.dropWhile p).reverse

/-- Drops the blanks at both ends. -/
def trim (cs : List Char) : List Char :=
  stripWhere isBlank cs

/-- The words of a text whose first word has already begun with `current`, written
backwards. -/
def wordsFrom (current : List Char) : List Char → List (List Char)
  | [] => if current.isEmpty then [] else [current.reverse]
  | c :: cs =>
    if isBlank c then
      if current.isEmpty then wordsFrom [] cs else current.reverse :: wordsFrom [] cs
    else
      wordsFrom (c :: current) cs

/-- The maximal runs of characters that are not blank, in order. -/
def words (cs : List Char) : List (List Char) :=
  wordsFrom [] cs

/-- Cuts a text at every occurrence of a character: `n` occurrences give `n + 1` pieces,
which may be empty. -/
def cutAt (sep : Char) : List Char → List (List Char)
  | [] => [[]]
  | c :: cs =>
    if c = sep then [] :: cutAt sep cs
    else
      match cutAt sep cs with
      | [] => [[c]]
      | piece :: rest => (c :: piece) :: rest

end Workflow.Text
