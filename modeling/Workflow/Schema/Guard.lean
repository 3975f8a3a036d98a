import Workflow.Schema

/-!
# How deep schemas may be

Schemas stand inside one another, and those who read or write them only go so far. How far is said
by a `Guard`. It counts where a schema is entered, and what it counts may depend on the kinds of the
schemas around it: an object may count twice. Writing goes further than reading.

`Guard.height` is the most that is counted anywhere in a schema. A schema can be written when that
is within the limit for writing. `Guard.standard` is the guard that the program runs with.
-/

namespace Workflow

namespace Schema

/-- **A guard against schemas that are too deep.** -/
structure Guard where
  /-- What is counted inside schemas of these kinds, listed from the inside out. -/
  count : List Kind → Nat
  /-- How much may be counted in a reading. -/
  readingLimit : Nat
  /-- How much may be counted in writing. -/
  writingLimit : Nat
  /-- Outside nothing is counted. -/
  count_nil : count [] = 0
  /-- A schema counts once, and an object once or twice. -/
  count_cons (k : Kind) (ks : List Kind) :
    count (k :: ks) = count ks + 1 ∨ k = .object ∧ count (k :: ks) = count ks + 2
  /-- Writing goes further than reading. -/
  reading_lt_writing : readingLimit < writingLimit

namespace Guard

/-- Whether an object stands inside an outermost array. -/
def leavesArrays (ks : List Kind) : Bool :=
  ks.getLast? = some .array && ks.contains .object

/-- **The guard of the program.** Each schema counts once. Arrays are read and written on their own
until there is an object, which then counts once more; inside objects all is read and written by
one and the same, arrays too. -/
def standard : Guard where
  count ks := ks.length + if leavesArrays ks then 1 else 0
  readingLimit := 254
  writingLimit := 255
  count_nil := rfl
  count_cons k ks := by
    cases ks with
    | nil => cases k <;> decide
    | cons l ks =>
      have hlast : (k :: l :: ks).getLast? = (l :: ks).getLast? := List.getLast?_cons_cons
      simp only [leavesArrays, hlast, List.length_cons, List.contains_cons]
      cases k <;> split <;> split <;> simp_all
  reading_lt_writing := by decide

mutual

/-- The most that is counted in a schema that stands inside others. -/
def heightIn (g : Guard) (around : List Kind) : Schema → Nat
  | .object _ ps _ _ =>
    max (g.count (.object :: around)) (g.propertiesHeightIn (.object :: around) ps)
  | .array _ items => max (g.count (.array :: around)) (g.heightIn (.array :: around) items)
  | s => g.count (s.kind :: around)

/-- The most that is counted in properties. -/
def propertiesHeightIn (g : Guard) (around : List Kind) : List (String × Schema) → Nat
  | [] => 0
  | (_, s) :: rest => max (g.heightIn around s) (g.propertiesHeightIn around rest)

end

/-- **The most that is counted in a schema.** -/
def height (g : Guard) (s : Schema) : Nat :=
  g.heightIn [] s

/-- Whether a schema is flat enough to be written. -/
def canWrite (g : Guard) (s : Schema) : Bool :=
  g.height s ≤ g.writingLimit

end Guard

end Schema

end Workflow
