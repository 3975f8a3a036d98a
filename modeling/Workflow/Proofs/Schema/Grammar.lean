import Mathlib.Data.Set.List
import Workflow.Proofs.Checked
import Workflow.Proofs.Schema.Document

/-!
# The grammar of written schemas

Which documents are schemas can be said without reading them (`Schema.IsWritten`): an object that
names its kind, with a description that is a text or null, with the fields of its kind, each of
which may be left out, and with no others. What is written of a schema is always such a document
(`Schema.isWritten_toJson`).

Reading accepts just these, as far as its guard lets it. Each schema that it looks at stands inside
others, and inside too many nothing is looked at any more (`Schema.Guard.Admits`). To say so one has
to say where in a document schemas are expected, and where a list, a text or a truth value is
(`Schema.Place`). The path to such a place goes through keys and positions of the document, and
through the kinds of the schemas on the way (`Schema.Place.Leads`). This is also what paths in the
defects that are told are: each ends at a place where what stands there does not fit, and every such
place is told (`Schema.exists_read_iff`).
-/

namespace Workflow

theorem Kind.name_inj {k l : Kind} : k.name = l.name ↔ k = l := by
  rw [← Kind.ofName?_eq_some, Kind.ofName?_eq_some.2 rfl, Option.some.injEq]

namespace Schema

open Checked

/-! ## The grammar -/

/-- A text or null. -/
inductive IsNote : Json → Prop
  /-- Null. -/
  | null : IsNote .null
  /-- A text. -/
  | text (s : String) : IsNote (.str s)

/-- **What all written schemas of a kind have in common.** The kind is named, the description is a
text or null, and there are no fields but these and some more that are given. -/
structure IsRecord (k : Kind) (more : List String) (es : Entries Json) : Prop where
  /-- The kind is named. -/
  kind : Entries.get? es "kind" = some (.str k.name)
  /-- A description is a text or null. -/
  description : ∀ v, Entries.get? es "description" = some v → IsNote v
  /-- There are no other fields. -/
  closed : ∀ key ∈ Entries.keys es, key = "kind" ∨ key = "description" ∨ key ∈ more

/-- **The written schemas.** -/
inductive IsWritten : Json → Prop
  /-- A schema of a kind without fields of its own. -/
  | plain {k : Kind} {es : Entries Json} (hk : k ∈ [Kind.number, .boolean, .null, .unknown])
      (h : IsRecord k [] es) : IsWritten (.obj es)
  /-- A text, with a format that is a text or null. -/
  | string {es : Entries Json} (h : IsRecord .string ["format"] es)
      (hformat : ∀ v, Entries.get? es "format" = some v → IsNote v) : IsWritten (.obj es)
  /-- An array, with items that are a written schema. -/
  | array {es : Entries Json} (h : IsRecord .array ["items"] es)
      (hitems : ∀ v, Entries.get? es "items" = some v → IsWritten v) : IsWritten (.obj es)
  /-- An object, with properties that are written schemas, a list of texts and a truth value. -/
  | object {es : Entries Json} (h : IsRecord .object ["properties", "required", "open"] es)
      (hmap : ∀ v, Entries.get? es "properties" = some v → ∃ ps, v = .obj ps)
      (hproperties : ∀ ps, Entries.get? es "properties" = some (.obj ps) →
        ∀ name v, (name, v) ∈ ps → IsWritten v)
      (hrequired : ∀ v, Entries.get? es "required" = some v → ∃ texts, v = Json.ofTexts texts)
      (hopen : ∀ v, Entries.get? es "open" = some v → IsFlag v) : IsWritten (.obj es)

/-! ## Written forms -/

theorem isNote_ofText? (s : Option String) : IsNote (Json.ofText? s) := by
  cases s with
  | none => exact .null
  | some s => exact .text s

/-- **The written form of a schema** belongs to the grammar. -/
theorem isWritten_toJson (s : Schema) : IsWritten s.toJson := by
  have hnote {t : Option String} {v : Json} (h : some (Json.ofText? t) = some v) : IsNote v :=
    Option.some.inj h ▸ isNote_ofText? t
  induction s using induct with
  | object d ps required isOpen ih =>
    rw [toJson]
    refine .object ⟨rfl, fun v => hnote, by simp [Entries.keys]⟩ (fun v hv => ?_)
      (fun members hmembers name v hv => ?_) (fun v hv => ?_) fun v hv => ?_
    · cases hv
      exact ⟨_, rfl⟩
    · cases hmembers
      rw [propertiesToJson_eq_map] at hv
      obtain ⟨⟨_, s⟩, hs, he⟩ := List.mem_map.1 hv
      cases he
      exact ih _ s hs
    · cases hv
      exact ⟨required, rfl⟩
    · cases hv
      exact .bool isOpen
  | array d items ih =>
    rw [toJson]
    refine .array ⟨rfl, fun v => hnote, by simp [Entries.keys]⟩ fun v hv => ?_
    cases hv
    exact ih
  | string d format =>
    exact .string ⟨rfl, fun v => hnote, by simp [Entries.keys]⟩ fun v => hnote
  | number d | boolean d | null d | unknown d =>
    exact .plain (by decide) ⟨rfl, fun v => hnote, by simp [Entries.keys]⟩

/-! ## Places in a document -/

/-- **What is expected** at a place of a written schema. -/
inductive Place where
  /-- A schema, inside others of these kinds. -/
  | schema (around : List Kind)
  /-- The fields of a schema of this kind, inside others. -/
  | fields (around : List Kind) (k : Kind)
  /-- A map of schemas, each inside others of these kinds. -/
  | properties (around : List Kind)
  /-- A list of texts. -/
  | texts
  /-- A text. -/
  | text
  /-- A text or null. -/
  | note
  /-- A truth value. -/
  | flag
  /-- Nothing: there must not be a field here. -/
  | nothing

/-- **What is expected at a key** of a schema of a kind, inside others. -/
inductive FieldAt (around : List Kind) : Kind → String → Place → Prop
  /-- All kinds have a description. -/
  | description (k : Kind) : FieldAt around k "description" .note
  /-- The properties are inside an object more. -/
  | properties : FieldAt around .object "properties" (.properties (.object :: around))
  /-- The names of required properties. -/
  | required : FieldAt around .object "required" .texts
  /-- Whether an object is open. -/
  | isOpen : FieldAt around .object "open" .flag
  /-- The items are inside an array more. -/
  | items : FieldAt around .array "items" (.schema (.array :: around))
  /-- The format of a text. -/
  | format : FieldAt around .string "format" .note
  /-- There are no other fields. -/
  | extra {k : Kind} {key : String} (hkey : key ∉ k.fields) : FieldAt around k key .nothing

namespace Place

/-- **One step down in a document**, from a value at a place to one inside. -/
inductive Next (g : Guard) : Place → Json → Step → Place → Json → Prop
  /-- From a schema to the same object, as the fields of a schema of the kind that it names. -/
  | tag {around : List Kind} {k : Kind} {es : Entries Json}
      (hkind : Entries.get? es "kind" = some (.str k.name)) :
      Next g (.schema around) (.obj es) (.key k.name) (.fields around k) (.obj es)
  /-- To a field. Inside too many schemas no field is looked at. -/
  | field {around : List Kind} {k : Kind} {es : Entries Json} {key : String} {p : Place} {v : Json}
      (hcount : g.count (k :: around) ≤ g.readingLimit) (hfield : FieldAt around k key p)
      (hv : Entries.get? es key = some v) : Next g (.fields around k) (.obj es) (.key key) p v
  /-- To a property. -/
  | property {around : List Kind} {ps : Entries Json} {name : String} {v : Json}
      (h : (name, v) ∈ ps) : Next g (.properties around) (.obj ps) (.key name) (.schema around) v
  /-- To an item of a list. -/
  | item {vs : List Json} {i : Nat} {v : Json} (h : vs[i]? = some v) :
      Next g .texts (.arr vs) (.index i) .text v

/-- **A path leads** from a value at a place to one further inside, or to the value itself. -/
inductive Leads (g : Guard) : Place → Json → List Step → Place → Json → Prop
  /-- The empty path leads nowhere else. -/
  | here (p : Place) (v : Json) : Leads g p v [] p v
  /-- A step, and a path from there. -/
  | step {p q r : Place} {v x y : Json} {s : Step} {path : List Step} (h : p.Next g v s q x)
      (hpath : q.Leads g x path r y) : Leads g p v (s :: path) r y

/-- **What a value must be to stand at a place**, apart from what is inside. -/
def Fits (g : Guard) : Place → Json → Prop
  | schema _, v => ∃ es, ∃ k : Kind, v = .obj es ∧ Entries.get? es "kind" = some (.str k.name)
  | fields around k, _ => g.count (k :: around) ≤ g.readingLimit
  | properties _, v => ∃ ps, v = .obj ps
  | texts, v => ∃ vs, v = .arr vs
  | text, v => ∃ s, v = .str s
  | note, v => IsNote v
  | flag, v => IsFlag v
  | nothing, _ => False

/-- **What is told of a value that does not fit.** -/
def fault : Place → Json → Fault
  | schema _, .obj es => if Entries.has es "kind" then .unknownKind else .noKind
  | schema _, _ => .notFields
  | fields .., _ => .tooDeep
  | properties _, _ => .notMap
  | texts, _ => .notList
  | text, _ | note, _ => .notText
  | flag, v => flagFault v
  | nothing, _ => .unexpected

/-- **What is wrong with a value at a place or with anything inside**, with the path to it. -/
def Wrong (g : Guard) (p : Place) (v : Json) (d : Defect) : Prop :=
  ∃ q x, p.Leads g v d.path q x ∧ ¬ q.Fits g x ∧ d.fault = q.fault x

/-- Nothing is wrong with a value at a place. -/
def IsRight (g : Guard) (p : Place) (v : Json) : Prop :=
  ∀ d, ¬ p.Wrong g v d

/-- Readings that tell what is wrong with a value at a place. -/
def IsReadBy {α : Type} (g : Guard) (p : Place) (read : Json → Checked α) : Prop :=
  ∀ v, (read v).Tells (p.Wrong g v)

variable {g : Guard} {p q : Place} {v x : Json} {d : Defect} {step : Step} {path : List Step}
  {around : List Kind} {k : Kind} {es : Entries Json}

/-- What is wrong is wrong with the value itself or with what is one step further down. -/
theorem wrong_iff : p.Wrong g v d ↔ (¬ p.Fits g v ∧ d = ⟨[], p.fault v⟩) ∨
    ∃ step q x, p.Next g v step q x ∧ ∃ d', q.Wrong g x d' ∧ d = d'.under step := by
  obtain ⟨path, f⟩ := d
  constructor
  · rintro ⟨q, x, hpath, hfits, rfl⟩
    cases hpath with
    | here => exact .inl ⟨hfits, rfl⟩
    | step hnext hpath => exact .inr ⟨_, _, _, hnext, ⟨_, _⟩, ⟨q, x, hpath, hfits, rfl⟩, rfl⟩
  · rintro (⟨hfits, hd⟩ | ⟨step, q, x, hnext, ⟨path, _⟩, ⟨r, y, hpath, hfits, hf⟩, hd⟩)
    · cases hd
      exact ⟨p, v, .here p v, hfits, rfl⟩
    · cases hd
      exact ⟨r, y, .step hnext hpath, hfits, hf⟩

/-- Where one cannot go further down it is wrong with the value itself. -/
theorem wrong_iff_of_leaf (h : ∀ step q x, ¬ p.Next g v step q x) :
    p.Wrong g v d ↔ ¬ p.Fits g v ∧ d = ⟨[], p.fault v⟩ :=
  wrong_iff.trans (or_iff_left fun ⟨step, q, x, hnext, _⟩ => h step q x hnext)

/-- Where the value itself fits it is wrong with something one step further down. -/
theorem wrong_iff_of_fits (h : p.Fits g v) :
    p.Wrong g v d ↔ ∃ step q x, p.Next g v step q x ∧ ∃ d', q.Wrong g x d' ∧ d = d'.under step :=
  wrong_iff.trans (or_iff_right fun ⟨hnot, _⟩ => hnot h)

theorem tells_of_leaf {α : Type} {outcome : Checked α} (hleaf : ∀ step q x, ¬ p.Next g v step q x)
    (h : outcome.Tells fun d => ¬ p.Fits g v ∧ d = ⟨[], p.fault v⟩) : outcome.Tells (p.Wrong g v) :=
  h.of_iff fun _ => (wrong_iff_of_leaf hleaf).symm

/-! ## What is told of single values and lists -/

theorem isReadBy_text (g : Guard) : text.IsReadBy g Checked.text := fun v => by
  refine tells_of_leaf nofun ?_
  cases v with
  | str s => exact .ok s fun d hd => hd.1 ⟨s, rfl⟩
  | null | bool _ | int _ | float _ | arr _ | obj _ => exact tells_fail nofun

theorem isReadBy_nullable_text (g : Guard) : note.IsReadBy g (nullable Checked.text) := fun v => by
  refine tells_of_leaf nofun ?_
  cases v with
  | null => exact .ok none fun d hd => hd.1 .null
  | str s => exact .ok (some s) fun d hd => hd.1 (.text s)
  | bool _ | int _ | float _ | arr _ | obj _ => exact tells_fail nofun

theorem isReadBy_flag (g : Guard) : flag.IsReadBy g Checked.flag := fun v =>
  tells_of_leaf nofun (tells_flag v)

theorem isReadBy_list_text (g : Guard) : texts.IsReadBy g (list Checked.text) := fun v => by
  cases v with
  | arr vs =>
    have hfits : texts.Fits g (.arr vs) := ⟨vs, rfl⟩
    refine (Tells.itemsFrom (isReadBy_text g) 0 vs).of_iff fun d => ?_
    rw [wrong_iff_of_fits hfits]
    simp only [Nat.zero_add]
    constructor
    · rintro ⟨i, x, hx, hd⟩
      exact ⟨_, _, x, .item hx, hd⟩
    · rintro ⟨_, _, x, hnext, hd⟩
      cases hnext with
      | item hx => exact ⟨_, x, hx, hd⟩
  | null | bool _ | int _ | float _ | str _ | obj _ => exact tells_of_leaf nofun (tells_fail nofun)

/-- What is wrong with the value at a key, if there is one. -/
def WrongAt (g : Guard) (es : Entries Json) (key : String) (p : Place) (d : Defect) : Prop :=
  ∃ v, Entries.get? es key = some v ∧ ∃ d', p.Wrong g v d' ∧ d = d'.under (.key key)

theorem IsReadBy.field {α : Type} {read : Json → Checked α} (h : p.IsReadBy g read)
    (es : Entries Json) (key : String) (default : α) :
    (field es key default read).Tells (WrongAt g es key p) :=
  Tells.field (fun v _ => h v) default

/-- A map of schemas tells what each of them tells. -/
theorem IsReadBy.readProperties (h : (schema around).IsReadBy g (readInside g around)) :
    (properties around).IsReadBy g (readProperties g around) := fun v => by
  cases v with
  | obj ps =>
    have hmembers : (readMembers g around ps).Tells fun d => ∃ name x, (name, x) ∈ ps ∧
        ∃ d', (schema around).Wrong g x d' ∧ d = d'.under (.key name) := by
      induction ps with
      | nil => exact .ok [] fun d ⟨_, _, hx, _⟩ => (nomatch hx)
      | cons e ps ih =>
        obtain ⟨name, w⟩ := e
        refine ((((h w).under (.key name)).map fun s ps => (name, s) :: ps).seq ih).of_iff ?_
        intro d
        constructor
        · rintro (hd | ⟨name', x, hx, hd⟩)
          · exact ⟨name, w, List.mem_cons_self, hd⟩
          · exact ⟨name', x, List.mem_cons_of_mem _ hx, hd⟩
        · rintro ⟨name', x, hx, hd⟩
          obtain hx | hx := List.mem_cons.1 hx
          · cases hx
            exact .inl hd
          · exact .inr ⟨name', x, hx, hd⟩
    have hfits : (properties around).Fits g (.obj ps) := ⟨ps, rfl⟩
    refine hmembers.of_iff fun d => ?_
    rw [wrong_iff_of_fits hfits]
    constructor
    · rintro ⟨name, x, hx, hd⟩
      exact ⟨_, _, x, .property hx, hd⟩
    · rintro ⟨_, _, x, hnext, hd⟩
      cases hnext with
      | property hx => exact ⟨_, x, hx, hd⟩
  | null | bool _ | int _ | float _ | str _ | arr _ => exact tells_of_leaf nofun (tells_fail nofun)

theorem wrong_nothing : nothing.Wrong g v d ↔ d = ⟨[], .unexpected⟩ :=
  (wrong_iff_of_leaf (p := nothing) nofun).trans (and_iff_right not_false)

theorem wrongAt_nothing {key : String} :
    WrongAt g es key nothing d ↔ key ∈ Entries.keys es ∧ d = ⟨[.key key], .unexpected⟩ := by
  simp only [WrongAt, wrong_nothing, exists_eq_left, exists_and_right]
  rw [← Entries.has_iff, Entries.has_iff_mem_keys]
  rfl

/-- The fields that a kind does not have are told one by one. -/
theorem tells_checkFields (g : Guard) (k : Kind) (es : Entries Json) :
    (checkFields k es).Tells fun d => ∃ key, key ∉ k.fields ∧ WrongAt g es key nothing d := by
  have hextra (d : Defect) : (∃ key, key ∉ k.fields ∧ WrongAt g es key nothing d) ↔
      d ∈ (es.filter fun e => !k.fields.contains e.1).map fun e => ⟨[.key e.1], .unexpected⟩ := by
    simp only [wrongAt_nothing, List.mem_map, List.mem_filter, Bool.not_eq_true',
      ← Bool.not_eq_true, List.contains_iff_mem, Entries.keys]
    constructor
    · rintro ⟨_, hkey, ⟨e, he, rfl⟩, rfl⟩
      exact ⟨e, ⟨he, hkey⟩, rfl⟩
    · rintro ⟨e, ⟨he, hkey⟩, rfl⟩
      exact ⟨e.1, hkey, ⟨e, he, rfl⟩, rfl⟩
  refine Tells.of_iff ?_ fun d => (hextra d).symm
  unfold checkFields
  split
  · next h =>
    refine .ok () fun d hd => ?_
    rw [h] at hd
    cases hd
  · next h => exact .bad (mt List.map_eq_nil_iff.1 h) fun d => Iff.rfl

/-! ## What is told of a schema -/

theorem orDefault_map {α : Type} {key : String} {default : α} {read : Json → Checked α} :
    orDefault key default ((Entries.get? es key).map read) = Checked.field es key default read := by
  unfold Checked.field
  cases Entries.get? es key <;> rfl

/-- What is wrong with the fields of a schema is wrong at one of the keys. -/
theorem wrong_fields (hcount : g.count (k :: around) ≤ g.readingLimit) :
    (fields around k).Wrong g (.obj es) d ↔
      ∃ key q, FieldAt around k key q ∧ WrongAt g es key q d := by
  have hfits : (fields around k).Fits g (.obj es) := hcount
  rw [wrong_iff_of_fits hfits]
  constructor
  · rintro ⟨_, q, x, hnext, hd⟩
    cases hnext with
    | field _ hfield hx => exact ⟨_, q, hfield, x, hx, hd⟩
  · rintro ⟨key, q, hfield, x, hx, hd⟩
    exact ⟨_, q, x, .field hcount hfield hx, hd⟩

/-- **What is put together out of the fields of a kind** tells what is wrong with them. -/
theorem tells_assemble (hcount : g.count (k :: around) ≤ g.readingLimit)
    (hread : (schema (k :: around)).IsReadBy g (readInside g (k :: around))) (es : Entries Json) :
    (assemble k es ((Entries.get? es "properties").map (Schema.readProperties g (k :: around)))
      ((Entries.get? es "items").map (readInside g (k :: around)))).Tells fun d =>
        ∃ d', (fields around k).Wrong g (.obj es) d' ∧ d = d'.under (.key k.name) := by
  have hdescription := (isReadBy_nullable_text g).field es "description" none
  have hextra := tells_checkFields g k es
  simp only [wrong_fields hcount]
  unfold assemble
  simp only [orDefault_map]
  refine Tells.under ?_ (.key k.name)
  cases k with
  | number | boolean | null | unknown =>
    refine (((hdescription.map _).both hextra).map Prod.fst).of_iff fun d => ?_
    constructor
    · rintro (hd | ⟨key, hkey, hd⟩)
      · exact ⟨_, _, .description _, hd⟩
      · exact ⟨key, _, .extra hkey, hd⟩
    · rintro ⟨key, _, hfield, hd⟩
      cases hfield with
      | description => exact .inl hd
      | extra hkey => exact .inr ⟨key, hkey, hd⟩
  | string =>
    have hformat := (isReadBy_nullable_text g).field es "format" none
    refine ((((hdescription.map _).seq hformat).both hextra).map Prod.fst).of_iff fun d => ?_
    constructor
    · rintro ((hd | hd) | ⟨key, hkey, hd⟩)
      · exact ⟨_, _, .description _, hd⟩
      · exact ⟨_, _, .format, hd⟩
      · exact ⟨key, _, .extra hkey, hd⟩
    · rintro ⟨key, _, hfield, hd⟩
      cases hfield with
      | description => exact .inl (.inl hd)
      | format => exact .inl (.inr hd)
      | extra hkey => exact .inr ⟨key, hkey, hd⟩
  | array =>
    have hitems := hread.field es "items" (.unknown none)
    refine ((((hdescription.map _).seq hitems).both hextra).map Prod.fst).of_iff fun d => ?_
    constructor
    · rintro ((hd | hd) | ⟨key, hkey, hd⟩)
      · exact ⟨_, _, .description _, hd⟩
      · exact ⟨_, _, .items, hd⟩
      · exact ⟨key, _, .extra hkey, hd⟩
    · rintro ⟨key, _, hfield, hd⟩
      cases hfield with
      | description => exact .inl (.inl hd)
      | items => exact .inl (.inr hd)
      | extra hkey => exact .inr ⟨key, hkey, hd⟩
  | object =>
    have hproperties := hread.readProperties.field es "properties" []
    have hrequired := (isReadBy_list_text g).field es "required" []
    have hopen := (isReadBy_flag g).field es "open" false
    refine (((((hdescription.map _).seq hproperties).seq hrequired).seq hopen).both hextra).map
      Prod.fst |>.of_iff fun d => ?_
    constructor
    · rintro ((((hd | hd) | hd) | hd) | ⟨key, hkey, hd⟩)
      · exact ⟨_, _, .description _, hd⟩
      · exact ⟨_, _, .properties, hd⟩
      · exact ⟨_, _, .required, hd⟩
      · exact ⟨_, _, .isOpen, hd⟩
      · exact ⟨key, _, .extra hkey, hd⟩
    · rintro ⟨key, _, hfield, hd⟩
      cases hfield with
      | description => exact .inl (.inl (.inl (.inl hd)))
      | properties => exact .inl (.inl (.inl (.inr hd)))
      | required => exact .inl (.inl (.inr hd))
      | isOpen => exact .inl (.inr hd)
      | extra hkey => exact .inr ⟨key, hkey, hd⟩

/-- A schema that names its kind is right when its fields are. -/
theorem wrong_schema (hkind : Entries.get? es "kind" = some (.str k.name)) :
    (schema around).Wrong g (.obj es) d ↔
      ∃ d', (fields around k).Wrong g (.obj es) d' ∧ d = d'.under (.key k.name) := by
  have hfits : (schema around).Fits g (.obj es) := ⟨es, k, rfl, hkind⟩
  rw [wrong_iff_of_fits hfits]
  constructor
  · rintro ⟨_, q, x, hnext, hd⟩
    cases hnext with
    | tag hkind' =>
      rw [hkind, Option.some.injEq, Json.str.injEq] at hkind'
      cases Kind.name_inj.1 hkind'
      exact hd
  · intro hd
    exact ⟨_, _, _, .tag hkind, hd⟩

/-- What does not name a kind is wrong itself. -/
theorem tells_readInside_of_not_fits (h : ¬ (schema around).Fits g v) :
    (readInside g around v).Tells ((schema around).Wrong g v) := by
  refine tells_of_leaf (fun _ _ _ hnext => ?_) ?_
  · cases hnext with
    | tag hkind => exact h ⟨_, _, rfl, hkind⟩
  · unfold readInside
    split
    · next es =>
      split
      · next hnone => simpa [fault, Entries.has, hnone] using tells_fail h
      · next name hname =>
        split
        · next k hk => exact absurd ⟨es, k, rfl, Kind.ofName?_eq_some.1 hk ▸ hname⟩ h
        · simpa [fault, Entries.has, hname] using tells_fail h
      · next hx => simpa [fault, Entries.has, hx] using tells_fail h
    · next hnot =>
      cases v with
      | obj es => exact absurd rfl (hnot es)
      | null | bool _ | int _ | float _ | str _ | arr _ => exact tells_fail h

/-- A schema that the guard does not let through is told, and nothing in it. -/
theorem tells_tooDeep (hcount : ¬ g.count (k :: around) ≤ g.readingLimit) :
    (under (.key k.name) (fail .tooDeep) : Checked Schema).Tells fun d =>
      ∃ d', (fields around k).Wrong g (.obj es) d' ∧ d = d'.under (.key k.name) := by
  have hfits : ¬ (fields around k).Fits g (.obj es) := hcount
  refine Tells.under (tells_of_leaf (fun _ _ _ hnext => ?_) (tells_fail hfits)) (.key k.name)
  cases hnext with
  | field hle => exact hcount hle

/-- **A reading tells what is wrong with a schema.** -/
theorem isReadBy_readInside (g : Guard) (around : List Kind) :
    (schema around).IsReadBy g (readInside g around) := by
  induction around using g.reading_induct with
  | inside around ih =>
    intro v
    by_cases hv : (schema around).Fits g v
    · obtain ⟨es, k, rfl, hkind⟩ := hv
      refine Tells.of_iff ?_ fun d => (wrong_schema hkind).symm
      rw [readInside_named hkind]
      split
      · next hcount => exact tells_assemble hcount (ih k hcount) es
      · next hcount => exact tells_tooDeep hcount
    · exact tells_readInside_of_not_fits hv

/-! ## What is right -/

/-- A value is right when it fits and all that is one step further down is right. -/
theorem isRight_iff :
    p.IsRight g v ↔ p.Fits g v ∧ ∀ step q x, p.Next g v step q x → q.IsRight g x := by
  constructor
  · intro h
    refine ⟨Classical.byContradiction fun hfits => ?_, fun step q x hnext d hd => ?_⟩
    · exact h _ (wrong_iff.2 (.inl ⟨hfits, rfl⟩))
    · exact h _ (wrong_iff.2 (.inr ⟨step, q, x, hnext, d, hd, rfl⟩))
  · rintro ⟨hfits, hnext⟩ d hd
    obtain ⟨step, q, x, h, d', hd', -⟩ := (wrong_iff_of_fits hfits).1 hd
    exact hnext step q x h d' hd'

theorem isRight_iff_of_leaf (h : ∀ step q x, ¬ p.Next g v step q x) : p.IsRight g v ↔ p.Fits g v :=
  isRight_iff.trans (and_iff_left fun step q x hnext => absurd hnext (h step q x))

theorem IsRight.of_leads (h : p.IsRight g v) (hpath : p.Leads g v path q x) : q.IsRight g x := by
  induction hpath with
  | here => exact h
  | step hnext _ ih => exact ih ((isRight_iff.1 h).2 _ _ _ hnext)

theorem isRight_note : note.IsRight g v ↔ IsNote v :=
  isRight_iff_of_leaf nofun

theorem isRight_flag : flag.IsRight g v ↔ IsFlag v :=
  isRight_iff_of_leaf nofun

theorem isRight_texts : texts.IsRight g v ↔ ∃ names, v = Json.ofTexts names := by
  have htext {x : Json} : text.IsRight g x ↔ ∃ s, x = .str s := isRight_iff_of_leaf nofun
  rw [isRight_iff]
  constructor
  · rintro ⟨⟨vs, rfl⟩, hitems⟩
    have htexts : vs ∈ Set.range (List.map Json.str) := by
      rw [Set.range_list_map]
      intro x hx
      obtain ⟨i, hi⟩ := List.getElem?_of_mem hx
      obtain ⟨s, rfl⟩ := htext.1 (hitems _ _ x (.item hi))
      exact ⟨s, rfl⟩
    obtain ⟨names, rfl⟩ := htexts
    exact ⟨names, rfl⟩
  · rintro ⟨names, rfl⟩
    refine ⟨⟨_, rfl⟩, fun _ _ x hnext => ?_⟩
    cases hnext with
    | item hx =>
      obtain ⟨s, -, rfl⟩ := List.mem_map.1 (List.mem_of_getElem? hx)
      exact htext.2 ⟨s, rfl⟩

theorem isRight_properties : (properties around).IsRight g v ↔
    ∃ ps, v = .obj ps ∧ ∀ name x, (name, x) ∈ ps → (schema around).IsRight g x := by
  rw [isRight_iff]
  constructor
  · rintro ⟨⟨ps, rfl⟩, h⟩
    exact ⟨ps, rfl, fun name x hx => h _ _ x (.property hx)⟩
  · rintro ⟨ps, rfl, h⟩
    refine ⟨⟨ps, rfl⟩, fun _ _ x hnext => ?_⟩
    cases hnext with
    | property hx => exact h _ x hx

/-- **A schema is right** when it names its kind, is not inside too many others and all its fields
are right. -/
theorem isRight_schema : (schema around).IsRight g v ↔ ∃ es, ∃ k : Kind, v = .obj es ∧
    Entries.get? es "kind" = some (.str k.name) ∧ g.count (k :: around) ≤ g.readingLimit ∧
      ∀ key q x, FieldAt around k key q → Entries.get? es key = some x → q.IsRight g x := by
  constructor
  · intro h
    obtain ⟨⟨es, k, rfl, hkind⟩, hnext⟩ := isRight_iff.1 h
    obtain ⟨hcount, hfields⟩ := isRight_iff.1 (hnext _ _ _ (.tag hkind))
    refine ⟨es, k, rfl, hkind, hcount, fun key q x hfield hx => ?_⟩
    exact hfields _ _ _ (.field hcount hfield hx)
  · rintro ⟨es, k, rfl, hkind, hcount, h⟩ d hd
    obtain ⟨d', hd', -⟩ := (wrong_schema hkind).1 hd
    obtain ⟨key, q, hfield, x, hx, d', hd', -⟩ := (wrong_fields hcount).1 hd'
    exact h key q x hfield hx d' hd'

/-! ## Right and in the grammar -/

/-- What is right at its keys is a record. -/
theorem isRecord_of_isRight {more : List String} (hk : k.fields = "description" :: "kind" :: more)
    (hkind : Entries.get? es "kind" = some (.str k.name))
    (h : ∀ key q x, FieldAt around k key q → Entries.get? es key = some x → q.IsRight g x) :
    IsRecord k more es := by
  refine ⟨hkind, fun x hx => isRight_note.1 (h _ _ x (.description k) hx), fun key hkey => ?_⟩
  obtain ⟨x, hx⟩ := Entries.has_iff.1 (Entries.has_iff_mem_keys.2 hkey)
  have hfield : key ∈ k.fields := Classical.byContradiction fun hnot =>
    (isRight_iff.1 (h _ _ x (.extra hnot) hx)).1
  rw [hk, List.mem_cons, List.mem_cons, or_left_comm] at hfield
  exact hfield

/-- What is right belongs to the grammar. -/
theorem IsRight.isWritten (h : (schema around).IsRight g v) : IsWritten v := by
  -- what is right is no deeper than reading goes
  induction around using g.reading_induct generalizing v with
  | inside around ih =>
    obtain ⟨es, k, rfl, hkind, hcount, hfields⟩ := isRight_schema.1 h
    have hinside {x : Json} (hx : (schema (k :: around)).IsRight g x) : IsWritten x :=
      ih k hcount hx
    cases k with
    | number | boolean | null | unknown =>
      exact .plain (by decide) (isRecord_of_isRight rfl hkind hfields)
    | string =>
      exact .string (isRecord_of_isRight rfl hkind hfields)
        fun x hx => isRight_note.1 (hfields _ _ x .format hx)
    | array =>
      exact .array (isRecord_of_isRight rfl hkind hfields)
        fun x hx => hinside (hfields _ _ x .items hx)
    | object =>
      have hproperties {x : Json} (hx : Entries.get? es "properties" = some x) :=
        isRight_properties.1 (hfields _ _ x .properties hx)
      refine .object (isRecord_of_isRight rfl hkind hfields) (fun x hx => ?_)
        (fun ps hps name x hx => ?_) (fun x hx => isRight_texts.1 (hfields _ _ x .required hx))
        (fun x hx => isRight_flag.1 (hfields _ _ x .isOpen hx))
      · obtain ⟨ps, hps, -⟩ := hproperties hx
        exact ⟨ps, hps⟩
      · obtain ⟨_, hps, hall⟩ := hproperties hps
        cases hps
        exact hinside (hall name x hx)

end Place

open Place

variable {g : Guard} {v : Json} {around : List Kind} {k : Kind} {es : Entries Json}

/-- A record has no fields but those of its kind. -/
theorem IsRecord.mem_fields {more : List String} {key : String} {x : Json}
    (h : IsRecord k more es) (hk : k.fields = "description" :: "kind" :: more)
    (hx : Entries.get? es key = some x) : key ∈ k.fields := by
  rw [hk, List.mem_cons, List.mem_cons, or_left_comm]
  exact h.closed key (Entries.mem_keys_of_mem (Entries.mem_of_get? hx))

/-- The kinds without fields of their own. -/
theorem fields_of_plain : ∀ k ∈ [Kind.number, .boolean, .null, .unknown],
    k.fields = ["description", "kind"] := by
  decide

/-- **A document stays within a guard** when it has no schema in it that the guard does not let
through. -/
def Guard.Admits (g : Guard) (around : List Kind) (v : Json) : Prop :=
  ∀ path inside k w, (schema around).Leads g v path (fields inside k) w →
    g.count (k :: inside) ≤ g.readingLimit

theorem Guard.Admits.count_le (h : g.Admits around (.obj es))
    (hkind : Entries.get? es "kind" = some (.str k.name)) :
    g.count (k :: around) ≤ g.readingLimit :=
  h _ _ k _ (.step (.tag hkind) (.here _ _))

theorem Guard.Admits.items {x : Json} (h : g.Admits around (.obj es))
    (hkind : Entries.get? es "kind" = some (.str Kind.array.name))
    (hx : Entries.get? es "items" = some x) : g.Admits (.array :: around) x :=
  fun _ _ k w hpath =>
    h _ _ k w (.step (.tag hkind) (.step (.field (h.count_le hkind) .items hx) hpath))

theorem Guard.Admits.property {name : String} {x : Json} {ps : Entries Json}
    (h : g.Admits around (.obj es)) (hkind : Entries.get? es "kind" = some (.str Kind.object.name))
    (hps : Entries.get? es "properties" = some (.obj ps)) (hx : (name, x) ∈ ps) :
    g.Admits (.object :: around) x :=
  fun _ _ k w hpath => h _ _ k w (.step (.tag hkind)
    (.step (.field (h.count_le hkind) .properties hps) (.step (.property hx) hpath)))

/-- **What belongs to the grammar is right** if it stays within the guard. -/
theorem IsWritten.isRight (h : IsWritten v) (hadmits : g.Admits around v) :
    (schema around).IsRight g v := by
  induction h generalizing around with
  | @plain k es hk h =>
    refine isRight_schema.2 ⟨es, k, rfl, h.kind, hadmits.count_le h.kind, ?_⟩
    intro key q x hfield hx
    cases hfield with
    | description => exact isRight_note.2 (h.description x hx)
    | extra hkey => exact absurd (h.mem_fields (fields_of_plain k hk) hx) hkey
    | properties | required | isOpen | items | format => simp at hk
  | @string es h hformat =>
    refine isRight_schema.2 ⟨es, _, rfl, h.kind, hadmits.count_le h.kind, ?_⟩
    intro key q x hfield hx
    cases hfield with
    | description => exact isRight_note.2 (h.description x hx)
    | format => exact isRight_note.2 (hformat x hx)
    | extra hkey => exact absurd (h.mem_fields rfl hx) hkey
  | @array es h hitems ih =>
    refine isRight_schema.2 ⟨es, _, rfl, h.kind, hadmits.count_le h.kind, ?_⟩
    intro key q x hfield hx
    cases hfield with
    | description => exact isRight_note.2 (h.description x hx)
    | items => exact ih x hx (hadmits.items h.kind hx)
    | extra hkey => exact absurd (h.mem_fields rfl hx) hkey
  | @object es h hmap hproperties hrequired hopen ih =>
    refine isRight_schema.2 ⟨es, _, rfl, h.kind, hadmits.count_le h.kind, ?_⟩
    intro key q x hfield hx
    cases hfield with
    | description => exact isRight_note.2 (h.description x hx)
    | properties =>
      obtain ⟨ps, rfl⟩ := hmap x hx
      refine isRight_properties.2 ⟨ps, rfl, fun name y hy => ?_⟩
      exact ih ps hx name y hy (hadmits.property h.kind hx hy)
    | required => exact isRight_texts.2 (hrequired x hx)
    | isOpen => exact isRight_flag.2 (hopen x hx)
    | extra hkey => exact absurd (h.mem_fields rfl hx) hkey

/-- **Which documents are read, and what is told of the others.** Read are the documents that belong
to the grammar and stay within the guard. Of any other document something is told, and what is told
of it are just the places to which a path leads and where something is wrong, with that path. -/
theorem exists_read_iff (g : Guard) (v : Json) :
    ((∃ s, read g v = .ok s) ↔ IsWritten v ∧ g.Admits [] v) ∧
    ∀ ds, read g v = .bad ds → ds ≠ [] ∧ ∀ path fault, ⟨path, fault⟩ ∈ ds ↔
      ∃ p w, (schema []).Leads g v path p w ∧ ¬ p.Fits g w ∧ fault = p.fault w := by
  have htells : (read g v).Tells ((schema []).Wrong g v) := isReadBy_readInside g [] v
  constructor
  · rw [htells.exists_ok_iff]
    constructor
    · intro (h : (schema []).IsRight g v)
      refine ⟨h.isWritten, fun path inside k w hpath => ?_⟩
      exact (isRight_iff.1 (h.of_leads hpath)).1
    · rintro ⟨h, hadmits⟩
      exact h.isRight hadmits
  · intro ds hds
    rw [hds] at htells
    cases htells with
    | bad hne h => exact ⟨hne, fun path fault => h ⟨path, fault⟩⟩

/-- A number inside as many arrays as reading goes through belongs to the grammar, and it does not
stay within the guard. An array of which nothing is told but the kind does. -/
theorem exists_read_iff_inArrays :
    IsWritten (inArrays 254 (.number none)).toJson ∧
      ¬ Guard.standard.Admits [] (inArrays 254 (.number none)).toJson ∧
      Guard.standard.Admits [] (.obj [("kind", .str "array")]) := by
  have hwritten := isWritten_toJson (inArrays 254 (.number none))
  have hheight : Guard.standard.height (inArrays 254 (.number none)) = 255 := by decide +kernel
  refine ⟨hwritten, fun hadmits => ?_, ?_⟩
  · obtain ⟨s, hs⟩ := (exists_read_iff .standard _).1.2 ⟨hwritten, hadmits⟩
    have hle : Guard.standard.height (inArrays 254 (.number none)) ≤ 254 :=
      (readInside_toJson.1 hs).1
    omega
  · exact ((exists_read_iff .standard _).1.1 ⟨_, rfl⟩).2

/-- All defects are told, each with the kinds of the schemas on the way to it. -/
example :
    ofJson (.obj [("kind", .str "array"), ("items", .obj [
      ("kind", .str "object"), ("open", .int 2), ("size", .null)])]) =
    .bad [⟨[.key "array", .key "items", .key "object", .key "open"], .unknownFlag⟩,
      ⟨[.key "array", .key "items", .key "object", .key "size"], .unexpected⟩] := by
  rfl

end Schema

end Workflow
