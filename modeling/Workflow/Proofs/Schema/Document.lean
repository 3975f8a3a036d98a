import Workflow.Proofs.Document
import Workflow.Proofs.Schema.Guard
import Workflow.Registry.Rules

/-!
# Schemas read back

The schema that was learned for a node is kept among its parameters in its written form, and it is
read again whenever somebody asks what the node gives. A cached value that cannot be read is ignored
without a word, so a schema that does not survive this way is lost.

It survives unless it is too deep (`Schema.readInside_toJson`). Reading stops before writing does,
and the schemas in between are written and never read again (`Schema.read_toJson`). One comes to
such a schema by reading, too: an array that leaves its items out gets them by default, one level
further down than anything that was looked at. That is as deep as it gets
(`Schema.heightIn_le_of_readInside`). All this holds of any guard.
-/

namespace Workflow

/-! ## Checked readings -/

namespace Checked

variable {α β : Type}

theorem both_eq_ok {x : Checked α} {y : Checked β} {p : α × β} :
    both x y = .ok p ↔ x = .ok p.1 ∧ y = .ok p.2 := by
  show Prod.mk <$> x <*> y = .ok p ↔ _
  simp only [seq_eq_ok, map_eq_ok]
  constructor
  · rintro ⟨_, b, ⟨a, ha, rfl⟩, hb, rfl⟩
    exact ⟨ha, hb⟩
  · rintro ⟨ha, hb⟩
    exact ⟨_, _, ⟨_, ha, rfl⟩, hb, rfl⟩

theorem toOption_eq_some {x : Checked α} {a : α} : x.toOption = some a ↔ x = .ok a := by
  cases x <;> simp [toOption]

theorem nullable_text_ofText? {s t : Option String} :
    nullable text (Json.ofText? s) = .ok t ↔ t = s := by
  have h : (Json.ofText? s).written = Json.ofText? s := by cases s <;> rfl
  rw [← h, nullable_text_eq_ok, eq_comm]

/-- Texts are read back as they were written. -/
theorem list_text_ofTexts {texts texts' : List String} :
    list text (Json.ofTexts texts) = .ok texts' ↔ texts' = texts := by
  have h : itemsFrom text 0 (texts.map .str) = .ok texts' ↔
      (∀ t ∈ texts, True) ∧ texts' = texts.map fun t => t :=
    itemsFrom_eq_ok fun s t => text_eq_ok.trans (by rw [true_and, eq_comm])
  rw [List.map_id'] at h
  exact h.trans (and_iff_right fun _ _ => trivial)

end Checked

theorem Kind.ofName?_eq_some {name : String} {k : Kind} :
    ofName? name = some k ↔ name = k.name := by
  constructor
  · intro h
    unfold ofName? at h
    split at h <;> cases h <;> rfl
  · rintro rfl
    cases k <;> rfl

namespace Schema

open Checked

variable {g : Guard} {around : List Kind} {s t : Schema} {es : Entries Json} {ps : Entries Schema}
  {v : Json}

/-! ## The parts of a reading -/

theorem propertiesIn_eq (g : Guard) (around : List Kind) (es : Entries Json) :
    propertiesIn g around es =
      (Entries.get? es "properties").map (readProperties g around) := by
  induction es with
  | nil => rfl
  | cons e es ih =>
    rw [propertiesIn, Entries.get?_cons, ih]
    split <;> rfl

theorem itemsIn_eq (g : Guard) (around : List Kind) (es : Entries Json) :
    itemsIn g around es = (Entries.get? es "items").map (readInside g around) := by
  induction es with
  | nil => rfl
  | cons e es ih =>
    rw [itemsIn, Entries.get?_cons, ih]
    split <;> rfl

/-- What is read is an object that names its kind. -/
theorem exists_kind_of_readInside (h : readInside g around v = .ok s) :
    ∃ es, ∃ k : Kind, v = .obj es ∧ Entries.get? es "kind" = some (.str k.name) := by
  unfold readInside at h
  split at h
  · next es =>
    split at h
    · cases h
    · next name hname =>
      split at h
      · next k hk => exact ⟨es, k, rfl, Kind.ofName?_eq_some.1 hk ▸ hname⟩
      · cases h
    · cases h
  · cases h

theorem readInside_named {k : Kind} (hk : Entries.get? es "kind" = some (.str k.name)) :
    readInside g around (.obj es) =
      if g.count (k :: around) ≤ g.readingLimit then
        assemble k es ((Entries.get? es "properties").map (readProperties g (k :: around)))
          ((Entries.get? es "items").map (readInside g (k :: around)))
      else under (.key k.name) (fail .tooDeep) := by
  rw [readInside, hk]
  simp only [Kind.ofName?_eq_some.2 rfl, propertiesIn_eq, itemsIn_eq]

/-- **What is read of a kind** is put together out of fields that are read inside it, if the guard
lets it through. -/
theorem readInside_eq_ok {k : Kind} (hk : Entries.get? es "kind" = some (.str k.name)) :
    readInside g around (.obj es) = .ok s ↔ g.count (k :: around) ≤ g.readingLimit ∧
      assemble k es ((Entries.get? es "properties").map (readProperties g (k :: around)))
        ((Entries.get? es "items").map (readInside g (k :: around))) = .ok s := by
  rw [readInside_named hk]
  split
  · next h => exact (and_iff_right h).symm
  · next h => exact iff_of_false nofun fun hread => h hread.1

theorem readMembers_cons {name : String} :
    readMembers g around ((name, v) :: es) = .ok ps ↔
      ∃ s rest, readInside g around v = .ok s ∧ readMembers g around es = .ok rest ∧
        ps = (name, s) :: rest := by
  show (fun s ps => (name, s) :: ps) <$> under (.key name) (readInside g around v) <*> _ = _ ↔ _
  simp only [seq_eq_ok, map_eq_ok, under_eq_ok]
  constructor
  · rintro ⟨_, rest, ⟨s, hs, rfl⟩, hrest, rfl⟩
    exact ⟨s, rest, hs, hrest, rfl⟩
  · rintro ⟨s, rest, hs, hrest, rfl⟩
    exact ⟨_, rest, ⟨s, hs, rfl⟩, hrest, rfl⟩

theorem orDefault_eq_ok {α : Type} {key : String} {default a : α} {x : Option (Checked α)} :
    orDefault key default x = .ok a ↔ x = some (.ok a) ∨ x = none ∧ a = default := by
  cases x with
  | none => simp [orDefault, eq_comm]
  | some x => simp [orDefault, under_eq_ok]

/-- **What is put together** out of the fields of a kind, when it has no others. -/
theorem assemble_eq_ok {k : Kind} {properties : Option (Checked (List (String × Schema)))}
    {items : Option (Checked Schema)} :
    assemble k es properties items = .ok s ↔
      checkFields k es = .ok () ∧ ∃ d, Checked.optional es "description" text = .ok d ∧
        match k with
        | .object => ∃ ps required isOpen, orDefault "properties" [] properties = .ok ps ∧
            field es "required" [] (list text) = .ok required ∧
            field es "open" false flag = .ok isOpen ∧ s = .object d ps required isOpen
        | .array => ∃ t, orDefault "items" (.unknown none) items = .ok t ∧ s = .array d t
        | .string => ∃ format, Checked.optional es "format" text = .ok format ∧
            s = .string d format
        | .number => s = .number d
        | .boolean => s = .boolean d
        | .null => s = .null d
        | .unknown => s = .unknown d := by
  have hread : ∀ (step : Step) (x : Checked Schema) (y : Checked Unit),
      under step (map Prod.fst (both x y)) = .ok s ↔ y = .ok () ∧ x = .ok s := by
    intro step x y
    rw [under_eq_ok]
    show Prod.fst <$> both x y = .ok s ↔ _
    rw [map_eq_ok]
    constructor
    · rintro ⟨_, h, rfl⟩
      exact (both_eq_ok.1 h).symm
    · rintro ⟨hy, hx⟩
      exact ⟨(s, ()), both_eq_ok.2 ⟨hx, hy⟩, rfl⟩
  cases k <;> refine (hread _ _ _).trans (and_congr_right fun _ => ?_) <;>
    simp only [seq_eq_ok, map_eq_ok]
  case object =>
    constructor
    · rintro ⟨_, isOpen, ⟨_, required, ⟨_, ps, ⟨d, hd, rfl⟩, hps, rfl⟩, hrequired, rfl⟩, hopen, rfl⟩
      exact ⟨d, hd, ps, required, isOpen, hps, hrequired, hopen, rfl⟩
    · rintro ⟨d, hd, ps, required, isOpen, hps, hrequired, hopen, rfl⟩
      exact ⟨_, isOpen, ⟨_, required, ⟨_, ps, ⟨d, hd, rfl⟩, hps, rfl⟩, hrequired, rfl⟩, hopen, rfl⟩
  case array =>
    constructor
    · rintro ⟨_, t, ⟨d, hd, rfl⟩, ht, rfl⟩
      exact ⟨d, hd, t, ht, rfl⟩
    · rintro ⟨d, hd, t, ht, rfl⟩
      exact ⟨_, t, ⟨d, hd, rfl⟩, ht, rfl⟩
  case string =>
    constructor
    · rintro ⟨_, format, ⟨d, hd, rfl⟩, hformat, rfl⟩
      exact ⟨d, hd, format, hformat, rfl⟩
    · rintro ⟨d, hd, format, hformat, rfl⟩
      exact ⟨_, format, ⟨d, hd, rfl⟩, hformat, rfl⟩
  case number | boolean | null | unknown => simp only [eq_comm]

/-! ## Written forms -/

/-- The written forms of properties are read back when each of them is. -/
theorem readMembers_toJson {qs : Entries Schema} (h : ∀ k s, (k, s) ∈ ps →
      ∀ t, readInside g around s.toJson = .ok t ↔ g.heightIn around s ≤ g.readingLimit ∧ t = s) :
    readMembers g around (propertiesToJson ps) = .ok qs ↔
      Entries.All (fun s => g.heightIn around s ≤ g.readingLimit) ps ∧ qs = ps := by
  induction ps generalizing qs with
  | nil => simp [propertiesToJson, readMembers, Entries.all_nil, eq_comm]
  | cons e ps ih =>
    obtain ⟨k, s⟩ := e
    have hs := h k s List.mem_cons_self
    have hps : ∀ qs, readMembers g around (propertiesToJson ps) = .ok qs ↔
        Entries.All (fun s => g.heightIn around s ≤ g.readingLimit) ps ∧ qs = ps :=
      fun _ => ih fun l t ht => h l t (List.mem_cons_of_mem _ ht)
    simp only [propertiesToJson, readMembers_cons, Entries.all_cons, hs, hps]
    constructor
    · rintro ⟨_, _, ⟨hs, rfl⟩, ⟨hps, rfl⟩, rfl⟩
      exact ⟨⟨hs, hps⟩, rfl⟩
    · rintro ⟨⟨hs, hps⟩, rfl⟩
      exact ⟨s, ps, ⟨hs, rfl⟩, ⟨hps, rfl⟩, rfl⟩

/-- **A written schema is read back** when the guard lets it through, and then as it was. -/
theorem readInside_toJson :
    readInside g around s.toJson = .ok t ↔ g.heightIn around s ≤ g.readingLimit ∧ t = s := by
  induction s using induct generalizing around t with
  | object d ps required isOpen ih =>
    have hps : ∀ around qs, readMembers g around (propertiesToJson ps) = .ok qs ↔
        Entries.All (fun s => g.heightIn around s ≤ g.readingLimit) ps ∧ qs = ps :=
      fun _ _ => readMembers_toJson fun k s hs _ => ih k s hs
    rw [toJson, readInside_eq_ok (k := .object) rfl, Guard.heightIn_object_le_iff, and_assoc]
    refine and_congr_right fun _ => ?_
    simp only [assemble_eq_ok, Checked.optional, field, Entries.get?_cons, String.reduceEq,
      ↓reduceIte, Option.map_some, orDefault_eq_ok, Option.some.injEq, reduceCtorEq, false_and,
      or_false, under_eq_ok, nullable_text_ofText?, list_text_ofTexts, readProperties, hps]
    constructor
    · rintro ⟨-, _, rfl, _, _, _, ⟨hps, rfl⟩, rfl, hopen, rfl⟩
      cases hopen
      exact ⟨hps, rfl⟩
    · rintro ⟨hps, rfl⟩
      exact ⟨rfl, d, rfl, ps, required, isOpen, ⟨hps, rfl⟩, rfl, rfl, rfl⟩
  | array d items ih =>
    rw [toJson, readInside_eq_ok (k := .array) rfl, Guard.heightIn_array_le_iff, and_assoc]
    refine and_congr_right fun _ => ?_
    simp only [assemble_eq_ok, Checked.optional, field, Entries.get?_cons, String.reduceEq,
      ↓reduceIte, Option.map_some, orDefault_eq_ok, Option.some.injEq, reduceCtorEq, false_and,
      or_false, under_eq_ok, nullable_text_ofText?, ih]
    constructor
    · rintro ⟨-, _, rfl, _, ⟨hitems, rfl⟩, rfl⟩
      exact ⟨hitems, rfl⟩
    · rintro ⟨hitems, rfl⟩
      exact ⟨rfl, d, rfl, items, ⟨hitems, rfl⟩, rfl⟩
  | string d format =>
    rw [toJson, readInside_eq_ok (k := .string) rfl]
    refine and_congr_right fun _ => ?_
    simp only [assemble_eq_ok, Checked.optional, field, Entries.get?_cons, String.reduceEq,
      ↓reduceIte, under_eq_ok, nullable_text_ofText?]
    constructor
    · rintro ⟨-, _, rfl, _, rfl, rfl⟩
      rfl
    · rintro rfl
      exact ⟨rfl, d, rfl, format, rfl, rfl⟩
  | number d | boolean d | null d | unknown d =>
    rw [toJson]
    refine (readInside_eq_ok rfl).trans (and_congr_right fun _ => ?_)
    simp only [assemble_eq_ok, Checked.optional, field, Entries.get?_cons, String.reduceEq,
      ↓reduceIte, under_eq_ok, nullable_text_ofText?]
    constructor
    · rintro ⟨-, _, rfl, rfl⟩
      rfl
    · rintro rfl
      exact ⟨rfl, d, rfl, rfl⟩

/-- What holds of all schemas that are read holds of properties that are read. -/
theorem all_of_readProperties {P : Schema → Prop}
    (hread : ∀ v s, readInside g around v = .ok s → P s)
    (h : readProperties g around v = .ok ps) : Entries.All P ps := by
  cases v with
  | obj es =>
    rw [readProperties] at h
    induction es generalizing ps with
    | nil =>
      cases h
      exact Entries.all_nil
    | cons e es ih =>
      obtain ⟨s, rest, hs, hrest, rfl⟩ := readMembers_cons.1 h
      exact Entries.all_cons.2 ⟨hread _ s hs, ih hrest⟩
  | null | bool | int | float | str | arr => cases h

/-- **What was read is not deep**: one level deeper at most than the guard lets through, and that
only where an array that leaves out its items got them by default. -/
theorem heightIn_le_of_readInside (h : readInside g around v = .ok s) :
    g.heightIn around s ≤ g.readingLimit + 1 := by
  induction around using g.reading_induct generalizing v s with
  | inside around ih =>
    obtain ⟨es, k, rfl, hk⟩ := exists_kind_of_readInside h
    obtain ⟨hcount, h⟩ := (readInside_eq_ok hk).1 h
    have hinside : ∀ w t, readInside g (k :: around) w = .ok t →
        g.heightIn (k :: around) t ≤ g.readingLimit + 1 := fun w t ht => ih k hcount ht
    obtain ⟨-, d, -, h⟩ := assemble_eq_ok.1 h
    cases k with
    | object =>
      obtain ⟨ps, required, isOpen, hps, -, -, rfl⟩ := h
      refine Guard.heightIn_object_le_iff.2 ⟨Nat.le_succ_of_le hcount, ?_⟩
      obtain hps | ⟨-, rfl⟩ := orDefault_eq_ok.1 hps
      · obtain ⟨w, -, hps⟩ := Option.map_eq_some_iff.1 hps
        exact all_of_readProperties hinside hps
      · exact Entries.all_nil
    | array =>
      obtain ⟨items, hitems, rfl⟩ := h
      refine Guard.heightIn_array_le_iff.2 ⟨Nat.le_succ_of_le hcount, ?_⟩
      obtain hitems | ⟨-, rfl⟩ := orDefault_eq_ok.1 hitems
      · obtain ⟨w, -, hitems⟩ := Option.map_eq_some_iff.1 hitems
        exact hinside w items hitems
      · -- the items that are filled in are no object, so they count once
        have hfilled := g.count_of_ne (.array :: around) (show Kind.unknown ≠ .object by decide)
        exact Nat.le_trans (Nat.le_of_eq hfilled) (Nat.succ_le_succ hcount)
    | string =>
      obtain ⟨format, -, rfl⟩ := h
      exact Nat.le_succ_of_le hcount
    | number | boolean | null | unknown =>
      cases h
      exact Nat.le_succ_of_le hcount

/-! ## Reading and writing again -/

/-- **Which schemas are read back.** A written schema is read back, and then as it was, when no more
is counted in it than reading allows. The schemas in which more is counted, and yet no more than
writing allows, are just those that can be written without being read back. Whatever is read can be
written, and it is read back unless one more is counted in it than reading allows. -/
theorem read_toJson (g : Guard) (s : Schema) :
    (∀ t, read g s.toJson = .ok t ↔ g.height s ≤ g.readingLimit ∧ t = s) ∧
    ((g.canWrite s = true ∧ ∀ t, read g s.toJson ≠ .ok t) ↔
      g.readingLimit < g.height s ∧ g.height s ≤ g.writingLimit) ∧
    ∀ v, read g v = .ok s →
      g.canWrite s = true ∧ (read g s.toJson = .ok s ∨ g.height s = g.readingLimit + 1) := by
  have hread : ∀ t, read g s.toJson = .ok t ↔ g.height s ≤ g.readingLimit ∧ t = s :=
    fun t => readInside_toJson
  have hwritten : g.canWrite s = true ↔ g.height s ≤ g.writingLimit := decide_eq_true_iff
  refine ⟨hread, ?_, fun v h => ?_⟩
  · rw [hwritten, and_comm]
    refine and_congr_left fun _ => ⟨fun hnone => ?_, fun hdeep t ht => ?_⟩
    · exact Nat.lt_of_not_le fun hheight => hnone s ((hread s).2 ⟨hheight, rfl⟩)
    · exact Nat.not_le_of_lt hdeep ((hread t).1 ht).1
  · have hheight : g.height s ≤ g.readingLimit + 1 := heightIn_le_of_readInside h
    refine ⟨hwritten.2 (Nat.le_trans hheight g.reading_lt_writing), ?_⟩
    obtain hheight | hheight := Nat.le_or_eq_of_le_succ hheight
    · exact .inl ((hread s).2 ⟨hheight, rfl⟩)
    · exact .inr hheight

/-- A schema inside arrays. -/
def inArrays : Nat → Schema → Schema
  | 0, s => s
  | n + 1, s => .array none (inArrays n s)

/-- A schema inside objects with one property each. -/
def inObjects : Nat → Schema → Schema
  | 0, s => s
  | n + 1, s => .object none [("item", inObjects n s)] [] false

/-- A written schema inside written arrays, in which nothing is written that may be left out. -/
def inWrittenArrays : Nat → Json → Json
  | 0, v => v
  | n + 1, v => .obj [("kind", .str "array"), ("items", inWrittenArrays n v)]

/-- A number inside as many arrays as reading goes through is written and not read back, and so is
one inside objects inside an array, which counts once more. An array without items, inside one array
less, is read as one of those. An object that says that it is open by a word, and nothing else, is
read as one that is read back. -/
theorem read_toJson_inArrays :
    (Guard.standard.canWrite (inArrays 254 (.number none)) = true ∧
      ∀ t, read .standard (inArrays 254 (.number none)).toJson ≠ .ok t) ∧
    (Guard.standard.canWrite (.array none (inObjects 252 (.number none))) = true ∧
      ∀ t, read .standard (Schema.array none (inObjects 252 (.number none))).toJson ≠ .ok t) ∧
    (∃ s, read .standard (inWrittenArrays 253 (.obj [("kind", .str "array")])) = .ok s ∧
      Guard.standard.canWrite s = true ∧ ∀ t, read .standard s.toJson ≠ .ok t) ∧
    read .standard (.obj [("kind", .str "object"), ("open", .str "yes")])
        = .ok (.object none [] [] true) ∧
      read .standard (Schema.object none [] [] true).toJson = .ok (.object none [] [] true) := by
  have harrays : Guard.standard.height (inArrays 254 (.number none)) = 255 := by decide +kernel
  have hobjects : Guard.standard.height (.array none (inObjects 252 (.number none))) = 255 := by
    decide +kernel
  have hbare : (read .standard (inWrittenArrays 253 (.obj [("kind", .str "array")]))).toOption.map
      Guard.standard.height = some 255 := by decide +kernel
  obtain ⟨s, hs, hheight⟩ := Option.map_eq_some_iff.1 hbare
  have lost {t : Schema} (ht : Guard.standard.height t = 255) :=
    (read_toJson .standard t).2.1.2 ⟨Nat.lt_of_lt_of_eq (by decide) ht.symm, Nat.le_of_eq ht⟩
  obtain ⟨hread, -⟩ := read_toJson .standard (.object none [] [] true)
  exact ⟨lost harrays, lost hobjects, ⟨s, Checked.toOption_eq_some.1 hs, lost hheight⟩, by rfl,
    (hread _).2 ⟨by decide, rfl⟩⟩

/-- A schema that is at most half as deep as reading goes is read back under any guard. -/
theorem read_toJson_of_depth_le (h : 2 * s.depth ≤ g.readingLimit) : read g s.toJson = .ok s :=
  readInside_toJson.2 ⟨Nat.le_trans (g.height_le s) h, rfl⟩

/-- What is read under any guard is at most one level deeper than reading goes. -/
theorem depth_le_of_read (h : read g v = .ok s) : s.depth ≤ g.readingLimit + 1 :=
  Nat.le_trans (g.depth_le_height s) (heightIn_le_of_readInside h)

/-- **What is learned from a sample is not lost**: its written form is read back. -/
theorem ofJson_infer (v : Json) :
    ofJson (infer v defaultDepth).toJson = .ok (infer v defaultDepth) := by
  have hdepth : (infer v defaultDepth).depth ≤ 6 := depth_inferWithin_le 5 v
  exact read_toJson_of_depth_le (Nat.le_trans (Nat.mul_le_mul_left 2 hdepth) (by decide))

end Schema

/-- **A cached schema** is the one that was put there, if it can be read back. -/
theorem SchemaRule.cached_toJson {parameters : Entries Json} {key : String} {s : Schema}
    (h : Entries.get? parameters key = some s.toJson)
    (hread : Schema.ofJson s.toJson = .ok s) : cached parameters key = some s := by
  have htruthy : s.toJson.isTruthy = true := by
    cases s <;> rfl
  simp only [cached, h, htruthy, ↓reduceIte, hread, Checked.toOption]

end Workflow
