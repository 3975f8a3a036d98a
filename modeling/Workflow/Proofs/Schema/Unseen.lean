import Mathlib.Logic.Relation
import Workflow.Proofs.Entries
import Workflow.Proofs.Schema.Values
import Workflow.Schema.Compatibility

/-!
# What the consumer does not see

A producer may give more than the consumer asks for, and what it gives beyond that has no part in
the comparison. `Schema.Unseen` lists the changes to a producer that a consumer does not see: a
property that it neither requires nor declares may come or go, a property that it does not declare
may have any shape, properties may stand in any order, and what the producer itself says about the
whole of an object – its description, its required names, whether it is open – is never looked at.
Such a change may be made anywhere inside the producer. The consumer comes along, down the shared
properties and the items of lists, for what is unseen in one place may be seen in another.

After any number of such changes the comparison finds the same: the same issues with the same
severities, paths and wordings, in the same order. That holds wherever the two sides are compared
and however strictly (`Schema.SeesAlike`), and in this form it is an induction.
-/

namespace Workflow

namespace Schema

/-! ## What a consumer looks at -/

/-- The properties that a consumer declares: none if it is no object. -/
def declares : Schema → Entries Schema
  | .object _ fields _ _ => fields
  | _ => []

/-- The names that a consumer requires: none if it is no object. -/
def requires : Schema → List String
  | .object _ _ required _ => required
  | _ => []

/-- The items that a consumer expects, if it expects a list. -/
def items? : Schema → Option Schema
  | .array _ items => some items
  | _ => none

/-- **One change to a producer that a consumer does not see**, the consumer first. -/
inductive Unseen : Schema → Schema → Schema → Prop
  /-- A property is added of which the consumer does not know. -/
  | add {c d ps name s ps' required o} (hdeclares : name ∉ Entries.keys c.declares)
      (hrequires : name ∉ c.requires) :
      Unseen c (.object d (ps ++ ps') required o) (.object d (ps ++ (name, s) :: ps') required o)
  /-- A property is removed of which the consumer does not know. -/
  | remove {c d ps name s ps' required o} (hdeclares : name ∉ Entries.keys c.declares)
      (hrequires : name ∉ c.requires) :
      Unseen c (.object d (ps ++ (name, s) :: ps') required o) (.object d (ps ++ ps') required o)
  /-- A property is changed, unseen by what the consumer declares under its name. Where it declares
  nothing the property may be replaced by any other. -/
  | property {c d ps name s s' ps' required o}
      (h : ∀ t, (name, t) ∈ c.declares → Unseen t s s') :
      Unseen c (.object d (ps ++ (name, s) :: ps') required o)
        (.object d (ps ++ (name, s') :: ps') required o)
  /-- The properties are put in another order. -/
  | reorder {c d ps ps' required o} (hdistinct : Entries.Distinct ps) (h : ps.Perm ps') :
      Unseen c (.object d ps required o) (.object d ps' required o)
  /-- The description, the required names and the openness of an object are changed. -/
  | relabel {c d d' ps required required' o o'} :
      Unseen c (.object d ps required o) (.object d' ps required' o')
  /-- The items of a list are changed, unseen by the items that the consumer expects. -/
  | items {c d s s'} (h : ∀ t, c.items? = some t → Unseen t s s') :
      Unseen c (.array d s) (.array d s')

variable {c p p' s s' t : Schema} {d d' : Option String} {ps ps' fields : Entries Schema}
  {required required' : List String} {o o' strict : Bool} {k name path : String}

/-- A property that the consumer does not declare may be replaced. -/
theorem Unseen.replace (h : name ∉ Entries.keys c.declares) :
    Unseen c (.object d (ps ++ (name, s) :: ps') required o)
      (.object d (ps ++ (name, s') :: ps') required o) :=
  .property fun _ ht => absurd (Entries.mem_keys_of_mem ht) h

/-! ## Comparisons that come out the same -/

/-- **A consumer sees two producers alike**: the comparison finds the same, wherever it takes place
and however strict it is. -/
def SeesAlike (c p p' : Schema) : Prop :=
  ∀ path strict, compare p c path strict = compare p' c path strict

theorem SeesAlike.refl (p : Schema) : SeesAlike c p p :=
  fun _ _ => rfl

theorem SeesAlike.symm (h : SeesAlike c p p') : SeesAlike c p' p :=
  fun path strict => (h path strict).symm

theorem SeesAlike.trans {q : Schema} (h : SeesAlike c p p') (h' : SeesAlike c p' q) :
    SeesAlike c p q :=
  fun path strict => (h path strict).trans (h' path strict)

theorem rel_seesAlike_refl : (s : Option Schema) → Option.Rel (SeesAlike c) s s
  | none => .none
  | some s => .some (.refl s)

theorem missingFields_congr
    (h : ∀ name ∈ required, Entries.has ps name = Entries.has ps' name) :
    missingFields required ps path strict = missingFields required ps' path strict := by
  have hfilter : (required.filter fun name => !Entries.has ps name) =
      required.filter fun name => !Entries.has ps' name :=
    List.filter_congr fun name hname => by rw [h name hname]
  rw [missingFields, missingFields, hfilter]

theorem compareFields_congr
    (h : ∀ k t, (k, t) ∈ fields →
      Option.Rel (SeesAlike t) (Entries.get? ps k) (Entries.get? ps' k)) :
    compareFields ps required path strict fields =
      compareFields ps' required path strict fields := by
  induction fields with
  | nil => rfl
  | cons e fields ih =>
    obtain ⟨k, t⟩ := e
    have hk := h k t List.mem_cons_self
    rw [compareFields, compareFields, ih fun k t ht => h k t (List.mem_cons_of_mem _ ht)]
    generalize Entries.get? ps k = s at hk ⊢
    generalize Entries.get? ps' k = s' at hk ⊢
    cases hk with
    | none => rfl
    | some halike => exact congrArg (· ++ _) (halike _ _)

/-- **What a comparison sees of an object**: which of the required names are there, and what is
found below the declared ones. -/
theorem SeesAlike.object
    (hrequires : ∀ name ∈ c.requires, Entries.has ps name = Entries.has ps' name)
    (hdeclares : ∀ k t, (k, t) ∈ c.declares →
      Option.Rel (SeesAlike t) (Entries.get? ps k) (Entries.get? ps' k)) :
    SeesAlike c (.object d ps required o) (.object d' ps' required' o') := by
  intro path strict
  cases c with
  | object _ fields expected _ =>
    show missingFields expected ps path strict ++ compareFields ps expected path strict fields =
      missingFields expected ps' path strict ++ compareFields ps' expected path strict fields
    exact congrArg₂ _ (missingFields_congr hrequires) (compareFields_congr hdeclares)
  | _ => rfl

/-- Objects that read the same at the names of which the consumer knows are seen alike. -/
theorem SeesAlike.object_of_get?
    (h : ∀ k, k ∈ c.requires ∨ k ∈ Entries.keys c.declares →
      Entries.get? ps k = Entries.get? ps' k) :
    SeesAlike c (.object d ps required o) (.object d' ps' required' o') := by
  refine .object (fun name hname => ?_) fun k t ht => ?_
  · rw [Entries.has, Entries.has, h name (.inl hname)]
  · rw [h k (.inr (Entries.mem_keys_of_mem ht))]
    exact rel_seesAlike_refl _

/-- What a comparison sees of a list. -/
theorem SeesAlike.array (h : ∀ t, c.items? = some t → SeesAlike t s s') :
    SeesAlike c (.array d s) (.array d' s') := by
  intro path strict
  cases c with
  | array _ items => exact h items rfl _ _
  | _ => rfl

/-! ## Changes that are not seen -/

/-- A property has no part in what is read at any other name. -/
theorem get?_insert_of_ne (h : k ≠ name) :
    Entries.get? (ps ++ (name, s) :: ps') k = Entries.get? (ps ++ ps') k := by
  rw [Entries.get?_append, Entries.get?_append, Entries.get?_cons, if_neg (Ne.symm h)]

/-- At its own name it is read unless there is one before it. -/
theorem get?_insert_self :
    Entries.get? (ps ++ (name, s) :: ps') name = some ((Entries.get? ps name).getD s) := by
  rw [Entries.get?_append, Entries.get?_cons, if_pos rfl]
  cases Entries.get? ps name <;> rfl

/-- A property of which the consumer does not know has no part in what it sees. -/
theorem SeesAlike.insert (hdeclares : name ∉ Entries.keys c.declares)
    (hrequires : name ∉ c.requires) :
    SeesAlike c (.object d (ps ++ ps') required o)
      (.object d (ps ++ (name, s) :: ps') required o) := by
  refine .object_of_get? fun k hk => (get?_insert_of_ne ?_).symm
  rintro rfl
  exact hk.elim hrequires hdeclares

/-- A property is seen as what is declared under its name. -/
theorem SeesAlike.property (h : ∀ t, (name, t) ∈ c.declares → SeesAlike t s s') :
    SeesAlike c (.object d (ps ++ (name, s) :: ps') required o)
      (.object d (ps ++ (name, s') :: ps') required o) := by
  refine .object (fun k _ => ?_) fun k t ht => ?_
  · by_cases hk : k = name
    · rw [hk, Entries.has, Entries.has, get?_insert_self, get?_insert_self]
      rfl
    · rw [Entries.has, Entries.has, get?_insert_of_ne hk, get?_insert_of_ne hk]
  · by_cases hk : k = name
    · subst hk
      rw [get?_insert_self, get?_insert_self]
      cases Entries.get? ps k with
      | none => exact .some (h t ht)
      | some u => exact .some (.refl u)
    · rw [get?_insert_of_ne hk, get?_insert_of_ne hk]
      exact rel_seesAlike_refl _

/-- **A change that the consumer does not see** has no part in the comparison. The induction is on
the change, down to the place where it is made. -/
theorem Unseen.seesAlike (h : Unseen c p p') : SeesAlike c p p' := by
  induction h with
  | add hdeclares hrequires => exact .insert hdeclares hrequires
  | remove hdeclares hrequires => exact (SeesAlike.insert hdeclares hrequires).symm
  | property _ ih => exact .property ih
  | reorder hdistinct h => exact .object_of_get? fun k _ => Entries.get?_perm hdistinct h
  | relabel => exact .object_of_get? fun _ _ => rfl
  | items _ ih => exact .array ih

/-- Nor has any number of them. -/
theorem seesAlike_of_reflTransGen (h : Relation.ReflTransGen (Unseen c) p p') :
    SeesAlike c p p' := by
  induction h with
  | refl => exact .refl p
  | tail _ hstep ih => exact ih.trans hstep.seesAlike

/-- **What the consumer does not see does not matter.** After any number of changes that it does not
see the status is the same, and so is the list of issues. -/
theorem check_of_unseen (p p' c : Schema) (h : Relation.ReflTransGen (Unseen c) p p') :
    (check (some p') (some c)).status = (check (some p) (some c)).status ∧
      (check (some p') (some c)).issues = (check (some p) (some c)).issues := by
  have hissues : compare p' c "" true = compare p c "" true :=
    (seesAlike_of_reflTransGen h "" true).symm
  exact ⟨congrArg Status.ofIssues hissues, hissues⟩

/-- A user of whom the mail address is expected. -/
def sampleUser : Schema := .object none [("mail", .string none (some "email"))] ["mail"] false

/-- A consumer of accounts, which relies on an identifier and on the user. -/
def sampleViewer : Schema := .object none
  [("user", sampleUser), ("tags", .array none (openObject none))] ["id", "user"] false

/-- The properties of an account whose user and tags have given ones. -/
def sampleAccount (user tag : Entries Schema) : Entries Schema := [
  ("user", .object none user ["mail"] false), ("tags", .array none (.object none tag [] false))]

/-- An account without an identifier, whose user has a web address in the place of the mail
address. A plan is left out, the properties of the user change their places and one of them its
shape, the tags get a colour, and the whole a description. None of this is seen: what was wrong is
wrong as before. -/
theorem check_of_unseen_sampleViewer :
    let mail : String × Schema := ("mail", .string none (some "uri"))
    let p := Schema.object none (("plan", .null none) ::
      sampleAccount [("age", .number none), mail] []) ["plan"] false
    let p' := Schema.object (some "An account")
      (sampleAccount [mail, ("age", .string none none)] [("color", .string none none)]) [] true
    Relation.ReflTransGen (Unseen sampleViewer) p p' ∧
      (check (some p) (some sampleViewer)).status = .error ∧
      (check (some p) (some sampleViewer)).issues =
        [Issue.missing true "id", Issue.formats "user.mail" "uri" "email"] ∧
      (check (some p') (some sampleViewer)).status =
        (check (some p) (some sampleViewer)).status ∧
      (check (some p') (some sampleViewer)).issues =
        (check (some p) (some sampleViewer)).issues := by
  intro mail p p'
  have huser {user user' : Entries Schema} (tag : Entries Schema)
      (h : Unseen sampleUser (.object none user ["mail"] false)
        (.object none user' ["mail"] false)) :
      Unseen sampleViewer (.object none (sampleAccount user tag) ["plan"] false)
        (.object none (sampleAccount user' tag) ["plan"] false) := by
    refine @Unseen.property _ _ [] "user" _ _ _ _ _ fun t ht => ?_
    obtain rfl : t = sampleUser := by simpa [sampleViewer, declares] using ht
    exact h
  have hplan : Unseen sampleViewer p
      (.object none (sampleAccount [("age", .number none), mail] []) ["plan"] false) :=
    @Unseen.remove _ _ [] "plan" _ _ _ _ (by decide +kernel) (by decide +kernel)
  have hage : Unseen sampleUser (.object none [("age", .number none), mail] ["mail"] false)
      (.object none [("age", .string none none), mail] ["mail"] false) :=
    @Unseen.replace _ _ _ _ [] _ _ _ "age" (by decide +kernel)
  have horder : Unseen sampleUser (.object none [("age", .string none none), mail] ["mail"] false)
      (.object none [mail, ("age", .string none none)] ["mail"] false) :=
    .reorder (by simp [Entries.Distinct, Entries.keys, mail]) (.swap _ _ _)
  have htag {user : Entries Schema} : Unseen sampleViewer
      (.object none (sampleAccount user []) ["plan"] false)
      (.object none (sampleAccount user [("color", .string none none)]) ["plan"] false) := by
    refine @Unseen.property _ _ [_] "tags" _ _ _ _ _ fun t ht => .items fun u hu => ?_
    obtain rfl : t = .array none (openObject none) := by simpa [sampleViewer, declares] using ht
    cases hu
    exact @Unseen.add _ _ [] "color" _ [] _ _ (by decide +kernel) (by decide +kernel)
  have hsteps : Relation.ReflTransGen (Unseen sampleViewer) p p' :=
    .head hplan (.head (huser _ hage) (.head (huser _ horder) (.head htag (.single .relabel))))
  exact ⟨hsteps, by decide +kernel, by decide +kernel, check_of_unseen p p' sampleViewer hsteps⟩

end Schema

end Workflow
