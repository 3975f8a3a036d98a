import Workflow.Proofs.Entries
import Workflow.Schema
import Workflow.Schema.Format

/-!
# Schemas and values

What a schema says about values depends on who says it. A producer promises what it gives
(`Schema.Produces`): an object with no keys but those that are declared, and with all that are
required. A consumer says what it can take (`Schema.Accepts`): it does not look at keys that it
has not declared, and where it expects a text a number or a truth value will do. A sample
conforms to a schema (`Schema.Conforms`) in the strictest sense: a format must be the one that
its texts are found to have.

Schemas and values are both trees, and the proofs about them follow the tree. `Schema.induct`
and `Json.induct` are the two inductions, with one hypothesis for each property or member that
stands in the list.
-/

namespace Workflow

/-! ## Induction -/

/-- **Induction on a value**: what holds of a list when it holds of its items, and of an object
when it holds of its members, holds of all values. -/
@[elab_as_elim]
theorem Json.induct {P : Json → Prop} (null : P .null) (bool : ∀ b, P (.bool b))
    (int : ∀ n, P (.int n)) (float : ∀ x, P (.float x)) (str : ∀ s, P (.str s))
    (arr : ∀ vs, (∀ v ∈ vs, P v) → P (.arr vs))
    (obj : ∀ es, (∀ k v, (k, v) ∈ es → P v) → P (.obj es)) (v : Json) : P v := by
  refine @Json.rec P (fun vs => ∀ v ∈ vs, P v) (fun es => ∀ k v, (k, v) ∈ es → P v)
    (fun e => P e.2) null bool int float str arr obj ?_ ?_ ?_ ?_ ?_ v
  · exact fun _ hv => absurd hv List.not_mem_nil
  · rintro w vs hw hvs v (_ | ⟨_, hv⟩)
    · exact hw
    · exact hvs v hv
  · exact fun _ _ hv => absurd hv List.not_mem_nil
  · rintro ⟨l, w⟩ es hw hes k v (_ | ⟨_, hv⟩)
    · exact hw
    · exact hes k v hv
  · exact fun _ _ hv => hv

namespace Schema

/-- **Induction on a schema**: what holds of an object when it holds of its properties, and of an
array when it holds of its items, holds of all schemas. -/
@[elab_as_elim]
theorem induct {P : Schema → Prop}
    (object : ∀ d ps required isOpen, (∀ k s, (k, s) ∈ ps → P s) →
      P (.object d ps required isOpen))
    (array : ∀ d items, P items → P (.array d items)) (string : ∀ d format, P (.string d format))
    (number : ∀ d, P (.number d)) (boolean : ∀ d, P (.boolean d)) (null : ∀ d, P (.null d))
    (unknown : ∀ d, P (.unknown d)) (s : Schema) : P s := by
  refine @Schema.rec P (fun ps => ∀ k s, (k, s) ∈ ps → P s) (fun e => P e.2)
    object array string number boolean null unknown ?_ ?_ ?_ s
  · exact fun _ _ hs => absurd hs List.not_mem_nil
  · rintro ⟨l, t⟩ ps ht hps k s (_ | ⟨_, hs⟩)
    · exact ht
    · exact hps k s hs
  · exact fun _ _ hs => hs

/-! ## What schemas say -/

/-- **A value is produced** by a schema. Of its objects only closed ones say what they give. -/
inductive Produces : Schema → Json → Prop
  /-- Anything. -/
  | unknown {d v} : Produces (.unknown d) v
  /-- Null. -/
  | null {d} : Produces (.null d) .null
  /-- A truth value. -/
  | boolean {d b} : Produces (.boolean d) (.bool b)
  /-- An integer. -/
  | int {d n} : Produces (.number d) (.int n)
  /-- A number of the other kind. -/
  | float {d x} : Produces (.number d) (.float x)
  /-- A text of whatever format. -/
  | string {d format s} : Produces (.string d format) (.str s)
  /-- A list whose items are all produced. -/
  | array {d items vs} (hitems : ∀ v ∈ vs, Produces items v) : Produces (.array d items) (.arr vs)
  /-- An object with all keys that are required and none that is not declared, at each of which
  there is what is produced there. -/
  | object {d ps required es} (hrequired : ∀ name ∈ required, name ∈ Entries.keys es)
      (hdeclared : ∀ k v, (k, v) ∈ es → Entries.has ps k = true)
      (hvalues : ∀ k v s, (k, v) ∈ es → Entries.get? ps k = some s → Produces s v) :
      Produces (.object d ps required false) (.obj es)

/-- **A value is accepted** by a schema. -/
inductive Accepts : Schema → Json → Prop
  /-- Anything. -/
  | unknown {d v} : Accepts (.unknown d) v
  /-- Null. -/
  | null {d} : Accepts (.null d) .null
  /-- A truth value. -/
  | boolean {d b} : Accepts (.boolean d) (.bool b)
  /-- An integer. -/
  | int {d n} : Accepts (.number d) (.int n)
  /-- A number of the other kind. -/
  | float {d x} : Accepts (.number d) (.float x)
  /-- A text of whatever format. -/
  | string {d format s} : Accepts (.string d format) (.str s)
  /-- An integer in the place of a text. -/
  | stringOfInt {d format n} : Accepts (.string d format) (.int n)
  /-- A number of the other kind in the place of a text. -/
  | stringOfFloat {d format x} : Accepts (.string d format) (.float x)
  /-- A truth value in the place of a text. -/
  | stringOfBool {d format b} : Accepts (.string d format) (.bool b)
  /-- A list whose items are all accepted. -/
  | array {d items vs} (hitems : ∀ v ∈ vs, Accepts items v) : Accepts (.array d items) (.arr vs)
  /-- An object with all keys that are required, at whose declared keys there is what is accepted
  there. -/
  | object {d ps required isOpen es} (hrequired : ∀ name ∈ required, name ∈ Entries.keys es)
      (hvalues : ∀ k v s, (k, v) ∈ es → (k, s) ∈ ps → Accepts s v) :
      Accepts (.object d ps required isOpen) (.obj es)

/-- **A value conforms** to a schema. -/
inductive Conforms : Schema → Json → Prop
  /-- Anything. -/
  | unknown {d v} : Conforms (.unknown d) v
  /-- Null. -/
  | null {d} : Conforms (.null d) .null
  /-- A truth value. -/
  | boolean {d b} : Conforms (.boolean d) (.bool b)
  /-- An integer. -/
  | int {d n} : Conforms (.number d) (.int n)
  /-- A number of the other kind. -/
  | float {d x} : Conforms (.number d) (.float x)
  /-- A text, of the format that is given if one is. -/
  | string {d format s} (hformat : ∀ name, format = some name → Format.detect s = some name) :
      Conforms (.string d format) (.str s)
  /-- A list whose items all conform. -/
  | array {d items vs} (hitems : ∀ v ∈ vs, Conforms items v) : Conforms (.array d items) (.arr vs)
  /-- An object with all keys that are required, at whose declared keys there is what conforms to
  the schema there; a closed one has no other keys. -/
  | object {d ps required isOpen es} (hrequired : ∀ name ∈ required, name ∈ Entries.keys es)
      (hdeclared : isOpen = false → ∀ k v, (k, v) ∈ es → Entries.has ps k = true)
      (hvalues : ∀ k v s, (k, v) ∈ es → Entries.get? ps k = some s → Conforms s v) :
      Conforms (.object d ps required isOpen) (.obj es)

end Schema

end Workflow
