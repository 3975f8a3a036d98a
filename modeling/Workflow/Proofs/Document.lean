import Workflow.FlowStore.Table

/-!
# Documents read back

A flow that is written down and read again is the same flow, as far as it can be written. Two
things are lost on the way. A number that is not finite has no written form: among the
parameters it comes back as null (`Flow.written`), and at a coordinate, where a number is
needed, it keeps the whole document from being read. And a document that is nested too deeply
is written but not read.

`Row.flow_ofFlow` says that nothing else is lost: which rows are read back, and as what. A
document that is shallow enough to be read is also shallow enough to be written
(`Flow.isWritable_of_nesting`).
-/

namespace Workflow

/-! ## Checked readings taken apart -/

namespace Checked

variable {α β : Type}

theorem map_eq_ok {f : α → β} {x : Checked α} {b : β} :
    f <$> x = .ok b ↔ ∃ a, x = .ok a ∧ f a = b := by
  cases x with
  | ok a => simp [Functor.map, map]
  | bad ds => simp [Functor.map, map]

theorem seq_eq_ok {f : Checked (α → β)} {x : Checked α} {b : β} :
    f <*> x = .ok b ↔ ∃ k a, f = .ok k ∧ x = .ok a ∧ k a = b := by
  cases f with
  | ok k =>
    cases x with
    | ok a => simp [Seq.seq, apply]
    | bad ds => simp [Seq.seq, apply]
  | bad ds =>
    cases x with
    | ok a => simp [Seq.seq, apply]
    | bad ds => simp [Seq.seq, apply]

theorem under_eq_ok {step : Step} {x : Checked α} {a : α} : under step x = .ok a ↔ x = .ok a := by
  cases x with
  | ok b => simp [under]
  | bad ds => simp [under]

theorem orFail_eq_ok {x : Checked α} {a : α} : x.orFail = .ok a ↔ x = .ok a := by
  cases x with
  | ok b => simp [orFail]
  | bad ds => simp [orFail]

theorem text_eq_ok {s t : String} : text (.str s) = .ok t ↔ s = t := by
  simp [text]

/-- A text that may be absent is read back as it was written. -/
theorem nullable_text_eq_ok {s t : Option String} :
    nullable text (Json.ofText? s).written = .ok t ↔ s = t := by
  cases s with
  | none => simp [Json.ofText?, Json.written, nullable]
  | some s =>
    show map some (.ok s) = .ok t ↔ some s = t
    simp [map]

/-- A list is read when all its items are, each as what it is read as. -/
theorem itemsFrom_eq_ok {read : Json → Checked α} {write : β → Json} {P : β → Prop} {r : β → α}
    (h : ∀ b a, read (write b) = .ok a ↔ P b ∧ a = r b) {i : Nat} {bs : List β} {as : List α} :
    itemsFrom read i (bs.map write) = .ok as ↔ (∀ b ∈ bs, P b) ∧ as = bs.map r := by
  induction bs generalizing i as with
  | nil => simp [itemsFrom, eq_comm]
  | cons b bs ih =>
    have step : itemsFrom read i ((b :: bs).map write) = .ok as ↔
        ∃ a rest, read (write b) = .ok a ∧ itemsFrom read (i + 1) (bs.map write) = .ok rest ∧
          a :: rest = as := by
      show List.cons <$> under (.index i) (read (write b)) <*> _ = _ ↔ _
      simp only [seq_eq_ok, map_eq_ok, under_eq_ok]
      constructor
      · rintro ⟨_, rest, ⟨a, ha, rfl⟩, hrest, rfl⟩
        exact ⟨a, rest, ha, hrest, rfl⟩
      · rintro ⟨a, rest, ha, hrest, rfl⟩
        exact ⟨_, rest, ⟨a, ha, rfl⟩, hrest, rfl⟩
    rw [step]
    simp only [h, ih, List.forall_mem_cons, List.map_cons]
    constructor
    · rintro ⟨_, _, ⟨hb, rfl⟩, ⟨hbs, rfl⟩, rfl⟩
      exact ⟨⟨hb, hbs⟩, rfl⟩
    · rintro ⟨⟨hb, hbs⟩, rfl⟩
      exact ⟨_, _, ⟨hb, rfl⟩, ⟨hbs, rfl⟩, rfl⟩

end Checked

/-! ## What is kept of a value -/

namespace Json

@[simp] theorem written_int (n : Int) : (Json.int n).written = .int n := rfl

@[simp] theorem written_str (s : String) : (Json.str s).written = .str s := rfl

@[simp] theorem written_arr (vs : List Json) : (arr vs).written = .arr (writtenItems vs) := rfl

@[simp] theorem written_obj (es : List (String × Json)) :
    (obj es).written = .obj (writtenMembers es) := rfl

theorem writtenItems_eq_map (vs : List Json) : writtenItems vs = vs.map written := by
  induction vs with
  | nil => rfl
  | cons v vs ih => rw [writtenItems, ih, List.map_cons]

theorem writtenMembers_eq_mapValues (es : Entries Json) :
    writtenMembers es = Entries.mapValues written es := by
  induction es with
  | nil => rfl
  | cons e es ih => rw [writtenMembers, ih, Entries.mapValues, Entries.mapValues, List.map_cons]

theorem get?_writtenMembers (es : Entries Json) (key : String) :
    Entries.get? (writtenMembers es) key = (Entries.get? es key).map written := by
  induction es with
  | nil => rfl
  | cons e es ih =>
    obtain ⟨k, v⟩ := e
    rw [writtenMembers, Entries.get?_cons, Entries.get?_cons]
    split
    · rfl
    · exact ih

/-- What is kept of a value is a text when the value is that text. -/
theorem written_eq_str {v : Json} {s : String} : v.written = .str s ↔ v = .str s := by
  cases v with
  | float x =>
    rw [written]
    split <;> simp
  | arr items => simp
  | obj members => simp
  | null | bool | int | str => rfl

mutual

/-- Whether all numbers in a value are finite. -/
def isFinite : Json → Bool
  | .float x => x.isFinite
  | .arr items => itemsFinite items
  | .obj members => membersFinite members
  | _ => true

/-- Whether all numbers in the items of a list are finite. -/
def itemsFinite : List Json → Bool
  | [] => true
  | v :: vs => isFinite v && itemsFinite vs

/-- Whether all numbers in the members of an object are finite. -/
def membersFinite : List (String × Json) → Bool
  | [] => true
  | (_, v) :: vs => isFinite v && membersFinite vs

end

mutual

/-- A value whose numbers are finite is kept as it is. -/
theorem written_of_isFinite (v : Json) (h : v.isFinite = true) : v.written = v := by
  cases v with
  | float x => rw [written, if_pos (by simpa [isFinite] using h)]
  | arr items => rw [written, writtenItems_of_finite items (by simpa [isFinite] using h)]
  | obj members => rw [written, writtenMembers_of_finite members (by simpa [isFinite] using h)]
  | null | bool | int | str => rfl

theorem writtenItems_of_finite (vs : List Json) (h : itemsFinite vs = true) :
    writtenItems vs = vs := by
  cases vs with
  | nil => rfl
  | cons v vs =>
    obtain ⟨hv, hvs⟩ := Bool.and_eq_true_iff.1 h
    rw [writtenItems, written_of_isFinite v hv, writtenItems_of_finite vs hvs]

theorem writtenMembers_of_finite (vs : List (String × Json)) (h : membersFinite vs = true) :
    writtenMembers vs = vs := by
  cases vs with
  | nil => rfl
  | cons entry vs =>
    obtain ⟨k, v⟩ := entry
    obtain ⟨hv, hvs⟩ := Bool.and_eq_true_iff.1 h
    rw [writtenMembers, written_of_isFinite v hv, writtenMembers_of_finite vs hvs]

end

mutual

/-- What is kept of a value is nested as deeply as the value. -/
theorem nesting_written (v : Json) : v.written.nesting = v.nesting := by
  cases v with
  | float x =>
    rw [written]
    split <;> rfl
  | arr items => rw [written, nesting, nesting, itemsNesting_written]
  | obj members => rw [written, nesting, nesting, membersNesting_written]
  | null | bool | int | str => rfl

theorem itemsNesting_written (vs : List Json) :
    itemsNesting (writtenItems vs) = itemsNesting vs := by
  cases vs with
  | nil => rfl
  | cons v vs =>
    rw [writtenItems, itemsNesting, itemsNesting, nesting_written, itemsNesting_written]

theorem membersNesting_written (vs : List (String × Json)) :
    membersNesting (writtenMembers vs) = membersNesting vs := by
  cases vs with
  | nil => rfl
  | cons entry vs =>
    obtain ⟨k, v⟩ := entry
    rw [writtenMembers, membersNesting, membersNesting, nesting_written, membersNesting_written]

end

mutual

/-- The integers in what is kept of a value are those in the value. -/
theorem isLegible_written (v : Json) : v.written.isLegible = v.isLegible := by
  cases v with
  | float x =>
    rw [written]
    split <;> rfl
  | arr items => rw [written, isLegible, isLegible, itemsLegible_written]
  | obj members => rw [written, isLegible, isLegible, membersLegible_written]
  | null | bool | int | str => rfl

theorem itemsLegible_written (vs : List Json) :
    itemsLegible (writtenItems vs) = itemsLegible vs := by
  cases vs with
  | nil => rfl
  | cons v vs =>
    rw [writtenItems, itemsLegible, itemsLegible, isLegible_written, itemsLegible_written]

theorem membersLegible_written (vs : List (String × Json)) :
    membersLegible (writtenMembers vs) = membersLegible vs := by
  cases vs with
  | nil => rfl
  | cons entry vs =>
    obtain ⟨k, v⟩ := entry
    rw [writtenMembers, membersLegible, membersLegible, isLegible_written, membersLegible_written]

end

theorem isReadable_iff {v : Json} :
    v.isReadable = true ↔ v.nesting ≤ nestingBound ∧ v.isLegible = true := by
  rw [isReadable, Bool.and_eq_true, decide_eq_true_eq]

theorem isReadable_written (v : Json) : v.written.isReadable = v.isReadable := by
  rw [isReadable, isReadable, nesting_written, isLegible_written]

/-! ## Nesting and height -/

mutual

/-- A value is at most one higher than it is nested. -/
theorem height_le_nesting (v : Json) : v.height ≤ v.nesting + 1 := by
  cases v with
  | arr items =>
    rw [height, nesting]
    exact Nat.add_le_add_right (itemsHeight_le_nesting items) 1
  | obj members =>
    rw [height, nesting]
    exact Nat.add_le_add_right (membersHeight_le_nesting members) 1
  | null | bool | int | float | str => exact Nat.le_refl 1

theorem itemsHeight_le_nesting (vs : List Json) : itemsHeight vs ≤ itemsNesting vs + 1 := by
  cases vs with
  | nil => exact Nat.zero_le _
  | cons v vs =>
    have hv := height_le_nesting v
    have hvs := itemsHeight_le_nesting vs
    rw [itemsHeight, itemsNesting]
    omega

theorem membersHeight_le_nesting (vs : List (String × Json)) :
    membersHeight vs ≤ membersNesting vs + 1 := by
  cases vs with
  | nil => exact Nat.zero_le _
  | cons entry vs =>
    obtain ⟨k, v⟩ := entry
    have hv := height_le_nesting v
    have hvs := membersHeight_le_nesting vs
    rw [membersHeight, membersNesting]
    omega

end

theorem nesting_le_of_mem_items {v : Json} {vs : List Json} (h : v ∈ vs) :
    v.nesting ≤ itemsNesting vs := by
  induction h with
  | head vs => exact Nat.le_max_left ..
  | tail w _ ih => exact Nat.le_trans ih (Nat.le_max_right ..)

theorem nesting_le_of_mem_members {k : String} {v : Json} {vs : List (String × Json)}
    (h : (k, v) ∈ vs) : v.nesting ≤ membersNesting vs := by
  induction vs with
  | nil => cases h
  | cons entry vs ih =>
    obtain ⟨l, w⟩ := entry
    rw [membersNesting]
    obtain h | h := List.mem_cons.1 h
    · cases h
      exact Nat.le_max_left ..
    · exact Nat.le_trans (ih h) (Nat.le_max_right ..)

end Json

/-! ## Flows -/

/-- A number is read back when it is finite. -/
theorem Checked.real_written {x y : Double} :
    real (Json.float x).written = .ok y ↔ x.isFinite = true ∧ y = x := by
  by_cases hx : x.isFinite = true
  · simp [Json.written, hx, real, eq_comm]
  · simp [Json.written, hx, real, fail]

/-- Whether both coordinates are finite. -/
def Position.isFinite (p : Position) : Bool :=
  p.x.isFinite && p.y.isFinite

theorem Position.ofJson_written {p q : Position} :
    Position.ofJson p.toJson.written = .ok q ↔ p.isFinite = true ∧ q = p := by
  obtain ⟨x, y⟩ := p
  simp only [toJson, Json.written_obj, Json.writtenMembers, ofJson, Checked.record, fields,
    Checked.field, Entries.get?_cons, String.reduceEq, ↓reduceIte, Checked.seq_eq_ok,
    Checked.map_eq_ok, Checked.under_eq_ok, Checked.real_written, isFinite, Bool.and_eq_true]
  constructor
  · rintro ⟨_, _, ⟨_, ⟨hx, rfl⟩, rfl⟩, ⟨hy, rfl⟩, rfl⟩
    exact ⟨⟨hx, hy⟩, rfl⟩
  · rintro ⟨⟨hx, hy⟩, rfl⟩
    exact ⟨_, _, ⟨_, ⟨hx, rfl⟩, rfl⟩, ⟨hy, rfl⟩, rfl⟩

/-- A connection is read back as it was written. -/
theorem Connection.ofJson_written {c d : Connection} :
    Connection.ofJson c.toJson.written = .ok d ↔ d = c := by
  obtain ⟨id, source, sourceHandle, target, targetHandle⟩ := c
  simp only [toJson, Json.written_obj, Json.written_str, Json.writtenMembers, ofJson,
    Checked.record, Checked.need, Checked.optional, Checked.field, Entries.get?_cons,
    String.reduceEq, ↓reduceIte, Checked.seq_eq_ok, Checked.map_eq_ok, Checked.under_eq_ok,
    Checked.text_eq_ok, Checked.nullable_text_eq_ok]
  simp [eq_comm]

/-- What is kept of a node. -/
def Node.written (n : Node) : Node :=
  { n with parameters := Json.writtenMembers n.parameters }

/-- A node is read back when it stands at a finite place. -/
theorem Node.ofJson_written {n m : Node} :
    Node.ofJson n.toJson.written = .ok m ↔ n.position.isFinite = true ∧ m = n.written := by
  obtain ⟨id, type, name, slug, position, parameters⟩ := n
  simp only [toJson, Json.written_obj, Json.written_str, Json.writtenMembers, ofJson,
    Checked.record, Checked.need, Checked.optional, Checked.field, Entries.get?_cons,
    String.reduceEq, ↓reduceIte, Checked.seq_eq_ok, Checked.map_eq_ok, Checked.under_eq_ok,
    Checked.text_eq_ok, Checked.nullable_text_eq_ok, Position.ofJson_written, Checked.object]
  simp only [exists_eq_left', exists_and_left, Checked.ok.injEq, Node.written]
  constructor
  · rintro ⟨_, ⟨_, ⟨hplace, rfl⟩, rfl⟩, rfl⟩
    exact ⟨hplace, rfl⟩
  · rintro ⟨hplace, rfl⟩
    exact ⟨_, ⟨_, ⟨hplace, rfl⟩, rfl⟩, rfl⟩

namespace Flow

/-- **What is kept of a flow.** -/
def written (f : Flow) : Flow :=
  { f with nodes := f.nodes.map Node.written }

/-- Whether all nodes stand at a finite place. -/
def isPlaced (f : Flow) : Bool :=
  f.nodes.all fun n => n.position.isFinite

/-- **Whether all numbers of a flow are finite.** -/
def isFinite (f : Flow) : Bool :=
  f.nodes.all fun n => n.position.isFinite && Json.membersFinite n.parameters

/-- A document is read back when all nodes stand at a finite place. -/
theorem ofJson_written {f g : Flow} :
    ofJson f.toJson.written = .ok g ↔ f.isPlaced = true ∧ g = f.written := by
  obtain ⟨id, app, name, description, nodes, connections, version, createdAt, updatedAt⟩ := f
  have hnodes : ∀ {ns : List Node}, Checked.itemsFrom Node.ofJson 0
      (nodes.map fun n => n.toJson.written) = .ok ns ↔
        (∀ n ∈ nodes, n.position.isFinite = true) ∧ ns = nodes.map Node.written :=
    Checked.itemsFrom_eq_ok fun _ _ => Node.ofJson_written
  have hconnections : ∀ {cs : List Connection}, Checked.itemsFrom Connection.ofJson 0
      (connections.map fun c => c.toJson.written) = .ok cs ↔
        (∀ c ∈ connections, True) ∧ cs = connections.map fun c => c :=
    Checked.itemsFrom_eq_ok fun _ _ => by rw [Connection.ofJson_written, true_and]
  simp only [toJson, Json.written_obj, Json.written_arr, Json.written_str, Json.written_int,
    Json.writtenMembers, Json.writtenItems_eq_map, List.map_map, Function.comp_def, ofJson,
    Checked.record, Checked.need, Checked.optional, Checked.field, Entries.get?_cons,
    String.reduceEq, ↓reduceIte, Checked.seq_eq_ok, Checked.map_eq_ok, Checked.under_eq_ok,
    Checked.text_eq_ok, Checked.nullable_text_eq_ok, Checked.list, Checked.whole, hnodes,
    hconnections]
  simp only [exists_eq_left', exists_eq_left, exists_and_left, Checked.ok.injEq, implies_true,
    List.map_id_fun', id_eq, true_and, isPlaced, List.all_eq_true, Flow.written]
  constructor
  · rintro ⟨_, ⟨_, ⟨_, ⟨_, ⟨_, ⟨hplaced, rfl⟩, rfl⟩, rfl⟩, rfl⟩, rfl⟩, rfl⟩
    exact ⟨hplaced, rfl⟩
  · rintro ⟨hplaced, rfl⟩
    exact ⟨_, ⟨_, ⟨_, ⟨_, ⟨_, ⟨hplaced, rfl⟩, rfl⟩, rfl⟩, rfl⟩, rfl⟩, rfl⟩

/-- A flow whose numbers are finite is kept as it is. -/
theorem written_of_isFinite {f : Flow} (h : f.isFinite = true) : f.written = f := by
  have hnodes : ∀ n ∈ f.nodes, n.written = n := fun n hn => by
    obtain ⟨-, hparameters⟩ := Bool.and_eq_true_iff.1 (List.all_eq_true.1 h n hn)
    rw [Node.written, Json.writtenMembers_of_finite _ hparameters]
  rw [written, List.map_congr_left hnodes, List.map_id']

theorem isPlaced_of_isFinite {f : Flow} (h : f.isFinite = true) : f.isPlaced = true := by
  refine List.all_eq_true.2 fun n hn => ?_
  exact (Bool.and_eq_true_iff.1 (List.all_eq_true.1 h n hn)).1

/-- A parameter stands in the parameters, these in the node, the node in the list of nodes, and that
in the flow. -/
theorem nesting_parameter_le {f : Flow} {n : Node} {k : String} {v : Json} (hn : n ∈ f.nodes)
    (hv : (k, v) ∈ n.parameters) : v.nesting + 4 ≤ f.toJson.nesting := by
  have hv : v.nesting + 1 ≤ (Json.obj n.parameters).nesting :=
    Nat.add_le_add_right (Json.nesting_le_of_mem_members hv) 1
  have hp : (Json.obj n.parameters).nesting + 1 ≤ n.toJson.nesting :=
    Nat.add_le_add_right (Json.nesting_le_of_mem_members (k := "parameters") (by simp)) 1
  have hn : n.toJson.nesting + 1 ≤ (Json.arr (f.nodes.map Node.toJson)).nesting :=
    Nat.add_le_add_right (Json.nesting_le_of_mem_items (List.mem_map_of_mem hn)) 1
  have hf : (Json.arr (f.nodes.map Node.toJson)).nesting + 1 ≤ f.toJson.nesting :=
    Nat.add_le_add_right (Json.nesting_le_of_mem_members (k := "nodes") (by simp)) 1
  omega

/-- **A flow that can be read can be written**: a document that is not nested too deeply to be
read has no value in it that is too high to be written. -/
theorem isWritable_of_nesting {f : Flow} (h : f.toJson.nesting ≤ Json.nestingBound) :
    f.isWritable = true := by
  refine List.all_eq_true.2 fun n hn => List.all_eq_true.2 fun entry hentry => decide_eq_true ?_
  have hheight := entry.2.height_le_nesting
  have hnesting := nesting_parameter_le hn hentry
  have hbound : f.toJson.nesting ≤ 200 := h
  show entry.2.height < 256
  omega

/-- What is kept of a flow is nested as deeply as the flow. -/
theorem nesting_written (f : Flow) : f.written.toJson.nesting = f.toJson.nesting := by
  have hnode (n : Node) : n.written.toJson.nesting = n.toJson.nesting := by
    simp only [Node.toJson, Node.written, Json.nesting, Json.membersNesting,
      Json.membersNesting_written]
  have hnodes (ns : List Node) : Json.itemsNesting ((ns.map Node.written).map Node.toJson) =
      Json.itemsNesting (ns.map Node.toJson) := by
    induction ns with
    | nil => rfl
    | cons n ns ih =>
      simp only [List.map_cons, Json.itemsNesting] at ih ⊢
      rw [hnode, ih]
  simp only [toJson, written, Json.nesting, Json.membersNesting, hnodes]

end Flow

/-- **Which rows are read back**: those of a flow whose document can be read and whose nodes all
stand at a finite place. What is read is what was kept of the flow. -/
theorem Row.flow_ofFlow {f g : Flow} :
    (Row.ofFlow f).flow = .ok g ↔
      f.toJson.isReadable = true ∧ f.isPlaced = true ∧ g = f.written := by
  rw [← Flow.ofJson_written, Row.flow, show (Row.ofFlow f).document = f.toJson.written from rfl,
    Json.isReadable_written]
  by_cases h : f.toJson.isReadable = true
  · rw [if_pos h, and_iff_right h]
    exact Checked.orFail_eq_ok
  · rw [if_neg h]
    exact ⟨fun he => (nomatch he), fun hle => absurd hle.1 h⟩

/-- What is read from a row can be written again. -/
theorem Row.isWritable_of_flow {f g : Flow} (h : (Row.ofFlow f).flow = .ok g) :
    g.isWritable = true := by
  obtain ⟨hreadable, -, rfl⟩ := Row.flow_ofFlow.1 h
  exact Flow.isWritable_of_nesting (f.nesting_written ▸ (Json.isReadable_iff.1 hreadable).1)

end Workflow
