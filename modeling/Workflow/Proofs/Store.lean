import Mathlib.Logic.Function.Basic
import Mathlib.Tactic.Choose
import Workflow.FlowStore.Memory
import Workflow.Proofs.Document
import Workflow.Proofs.Outcome

/-!
# Stores seen as documents

Both stores keep one document for each id, and whoever uses a store sees no more of it than
that: `Docs` is a store reduced to its documents, and `LawfulStore` says what each operation
does to them. A document is loaded as it was kept in the one store, and as far as it could be
written in the other one (`LawfulStore.readBack`).

`Docs.save` is the guarded save. A store follows it whenever it has a form for the flow
(`LawfulStore.save_fits`), and a save that succeeds is always one that the guard lets through
(`LawfulStore.save_ok`).
-/

namespace Workflow

open Outcome

/-! ## Lists with keys -/

namespace Keyed

variable {α : Type} {key : α → String} {xs : List α} {y : α} {id : String}

/-- Where no key stands twice, an item is the one found under its key. -/
theorem find?_eq_some_of_mem (h : (xs.map key).Nodup) (hy : y ∈ xs) :
    xs.find? (fun x => key x == key y) = some y := by
  induction xs with
  | nil => cases hy
  | cons x xs ih =>
    obtain ⟨hx, hnodup⟩ := List.nodup_cons.1 h
    obtain rfl | hy := List.mem_cons.1 hy
    · simp
    · have hne : key x ≠ key y := fun he => hx (he ▸ List.mem_map_of_mem hy)
      rw [List.find?_cons_of_neg (by simpa using hne)]
      exact ih hnodup hy

theorem find?_eq_none : xs.find? (fun x => key x == id) = none ↔ id ∉ xs.map key := by
  simp [List.find?_eq_none]

/-- An item in the place of the one with its key is what is found under the key then. -/
theorem find?_replace {p : α → Prop} [DecidablePred p] (hp : ∀ x ∈ xs, p x ↔ key x = key y) :
    (xs.map fun x => if p x then y else x).find? (fun x => key x == id) =
      if id = key y then (xs.find? fun x => key x == id).map fun _ => y
      else xs.find? fun x => key x == id := by
  induction xs with
  | nil => simp
  | cons x xs ih =>
    have ih := ih fun z hz => hp z (List.mem_cons_of_mem _ hz)
    rw [List.map_cons]
    by_cases hx : key x = key y
    · rw [if_pos ((hp x List.mem_cons_self).2 hx)]
      by_cases hid : id = key y
      · simp [hid, hx]
      · have hid' : ¬ key y = id := fun he => hid he.symm
        simp only [List.find?_cons, hx, beq_eq_false_iff_ne.2 hid', ih, if_neg hid]
    · rw [if_neg (fun h => hx ((hp x List.mem_cons_self).1 h))]
      by_cases hid : key x = id
      · have hne : id ≠ key y := hid ▸ hx
        simp [hid, hne]
      · simp only [List.find?_cons, beq_eq_false_iff_ne.2 hid, ih]

/-- A new item at the end is found under its key. -/
theorem find?_append (hy : key y ∉ xs.map key) :
    (xs ++ [y]).find? (fun x => key x == id) =
      if id = key y then some y else xs.find? fun x => key x == id := by
  rw [List.find?_append]
  by_cases hid : id = key y
  · subst hid
    rw [find?_eq_none.2 hy, if_pos rfl]
    simp
  · have hid' : ¬ key y = id := fun he => hid he.symm
    simp [hid, hid']

/-- What was taken away is not found, and all else is. -/
theorem find?_filter {gone : String} :
    (xs.filter fun x => key x != gone).find? (fun x => key x == id) =
      if id = gone then none else xs.find? fun x => key x == id := by
  rw [List.find?_filter]
  split
  · next hid =>
    refine List.find?_eq_none.2 fun x _ => ?_
    simp [hid]
  · next hid =>
    refine congrArg (fun p => xs.find? p) (funext fun x => ?_)
    by_cases hx : key x = id
    · simp [hx, hid]
    · simp [hx]

end Keyed

/-! ## Documents by their ids -/

/-- **The documents of a store** by their ids. -/
abbrev Docs := String → Option Flow

namespace Docs

/-- The documents with one more, or with a new one of the same id. -/
def put (docs : Docs) (f : Flow) : Docs :=
  Function.update docs f.id (some f)

/-- The documents without one. -/
def drop (docs : Docs) (id : String) : Docs :=
  Function.update docs id none

/-- **The guarded save**: what a save answers. -/
def save (docs : Docs) (f : Flow) (now : String) : Outcome Flow :=
  match docs f.id with
  | none => .error (.flowNotFound f.id)
  | some stored =>
    if stored.version = f.version then .ok (f.saved now)
    else .error (.versionConflict f.id f.version stored.version)

variable {docs : Docs} {f g : Flow} {id now : String}

@[simp] theorem put_self : docs.put f f.id = some f :=
  Function.update_self ..

theorem put_of_ne (h : id ≠ f.id) : docs.put f id = docs id :=
  Function.update_of_ne h ..

theorem put_apply : docs.put f id = if id = f.id then some f else docs id :=
  Function.update_apply ..

@[simp] theorem drop_self : docs.drop id id = none :=
  Function.update_self ..

theorem drop_of_ne {other : String} (h : other ≠ id) : docs.drop id other = docs other :=
  Function.update_of_ne h ..

theorem drop_apply {other : String} :
    docs.drop id other = if other = id then none else docs other :=
  Function.update_apply ..

/-- A document is there after one was put when it is that one, or was there under another id. -/
theorem put_eq_some :
    docs.put f id = some g ↔ id = f.id ∧ g = f ∨ id ≠ f.id ∧ docs id = some g := by
  rw [put_apply]
  split
  · next h => simp [h, eq_comm]
  · next h => simp [h]

/-- A document is there after one was dropped when it was there under another id. -/
theorem drop_eq_some {other : String} :
    docs.drop id other = some g ↔ other ≠ id ∧ docs other = some g := by
  rw [drop_apply]
  split
  · next h => simp [h]
  · next h => simp [h]

/-- A save succeeds when the stored version is the one that is saved. -/
theorem save_eq_ok :
    docs.save f now = .ok g ↔
      (∃ stored, docs f.id = some stored ∧ stored.version = f.version) ∧ g = f.saved now := by
  unfold save
  cases docs f.id with
  | none => simp
  | some stored =>
    by_cases h : stored.version = f.version
    · simp [h, eq_comm]
    · simp [h]

end Docs

/-! ## Lawful stores -/

/-- **A store that does what its operations say** to the documents it keeps. -/
class LawfulStore (σ : Type) [FlowStore σ] where
  /-- Whether these are the documents of a store. -/
  Keeps : σ → Docs → Prop
  /-- What a document is loaded as. -/
  readBack : Flow → Outcome Flow
  /-- Whether a changed flow has a form in which it can be kept. -/
  Fits : Flow → Prop
  /-- A document stands under its id. -/
  id_eq {s : σ} {docs : Docs} {id : String} {f : Flow} :
    Keeps s docs → docs id = some f → f.id = id
  /-- A document is loaded as it is, or as far as it could be written. -/
  readBack_ok {f g : Flow} : readBack f = .ok g → g = f ∨ g = f.written
  /-- A load reads a document back. -/
  load_eq {s : σ} {docs : Docs} (id : String) : Keeps s docs →
    FlowStore.load s id = match docs id with
      | none => .ok none
      | some f => do return some (← readBack f)
  /-- A save that succeeds was let through and puts its answer in place. -/
  save_ok {s s' : σ} {docs : Docs} {f g : Flow} {now : String} : Keeps s docs →
    FlowStore.save s f now = .ok (s', g) → docs.save f now = .ok g ∧ Keeps s' (docs.put g)
  /-- A save of a flow that can be kept answers what the guard says. -/
  save_fits {s : σ} {docs : Docs} {f : Flow} (now : String) : Keeps s docs → Fits f →
    (FlowStore.save s f now).map Prod.snd = docs.save f now
  /-- A flow is created under an id that was not in use. -/
  create_ok {s s' : σ} {docs : Docs} {f : Flow} : Keeps s docs →
    FlowStore.create s f = .ok s' → docs f.id = none ∧ Keeps s' (docs.put f)
  /-- A deletion takes one document away. -/
  delete_keeps {s : σ} {docs : Docs} (id : String) : Keeps s docs →
    Keeps (FlowStore.delete s id) (docs.drop id)
  /-- The empty store keeps nothing. -/
  empty_keeps : Keeps FlowStore.empty fun _ => none

namespace Memory

theorem find?_put {m : Memory} {f : Flow} {id : String} (h : (m.find? f.id).isSome) :
    (m.put f).find? id = if id = f.id then some f else m.find? id := by
  show (m.flows.map fun g => if g.id = f.id then f else g).find? (fun g => g.id == id) = _
  rw [Keyed.find?_replace fun g _ => Iff.rfl]
  split
  · next hid =>
    obtain ⟨g, hg⟩ := Option.isSome_iff_exists.1 h
    rw [hid, show m.flows.find? (fun g => g.id == f.id) = some g from hg, Option.map_some]
  · rfl

theorem create_ok {m m' : Memory} {f : Flow} (h : m.create f = .ok m') :
    f.id ∉ m.flows.map Flow.id ∧ m'.flows = m.flows ++ [f] := by
  unfold create at h
  split at h
  · cases h
  · next hid =>
    cases h
    exact ⟨hid, rfl⟩

/-- A save answers what the guard says of the flows in memory, and puts its answer in place. -/
theorem save_eq (m : Memory) (f : Flow) (now : String) :
    m.save f now = (Docs.save m.find? f now).map fun g => (m.put g, g) := by
  unfold save Docs.save
  cases m.find? f.id with
  | none => rfl
  | some stored =>
    dsimp only
    split <;> rfl

end Memory

/-- Memory keeps the documents as they are. -/
instance : LawfulStore Memory where
  Keeps m docs := ∀ id, m.find? id = docs id
  readBack := .ok
  Fits _ := True
  id_eq := by
    intro m docs id f h hf
    simpa using List.find?_some ((h id).trans hf)
  readBack_ok h := .inl (Except.ok.inj h).symm
  load_eq := by
    intro m docs id h
    show Except.ok (m.find? id) = _
    rw [h id]
    cases docs id <;> rfl
  save_ok := by
    intro m m' docs f g now h hs
    obtain rfl : m.find? = docs := funext h
    have hs : m.save f now = .ok (m', g) := hs
    rw [Memory.save_eq] at hs
    cases hg : Docs.save m.find? f now with
    | error e => rw [hg] at hs; cases hs
    | ok g' =>
      rw [hg] at hs
      cases hs
      refine ⟨rfl, fun id => ?_⟩
      obtain ⟨⟨stored, hstored, -⟩, rfl⟩ := Docs.save_eq_ok.1 hg
      rw [Docs.put_apply]
      exact Memory.find?_put (Option.isSome_of_mem hstored)
  save_fits := by
    intro m docs f now h _
    obtain rfl : m.find? = docs := funext h
    show (m.save f now).map Prod.snd = _
    rw [Memory.save_eq]
    cases Docs.save m.find? f now <;> rfl
  create_ok := by
    intro m m' docs f h hc
    obtain ⟨hid, hflows⟩ := Memory.create_ok hc
    refine ⟨?_, fun id => ?_⟩
    · rw [← h f.id]
      exact Keyed.find?_eq_none.2 hid
    · rw [Memory.find?, hflows, Keyed.find?_append hid, Docs.put_apply, ← h id]
      rfl
  delete_keeps := by
    intro m docs id h other
    rw [Docs.drop_apply, ← h other]
    exact Keyed.find?_filter
  empty_keeps _ := rfl

namespace Table

theorem find?_put {t : Table} {row r : Row} {version : Int} {id : String}
    (h : t.find? row.id = some r) (hr : r.version = version) :
    (t.put row version).find? id = if id = row.id then some row else t.find? id := by
  have hp : ∀ q ∈ t.rows, (q.id = row.id ∧ q.version = version) ↔ q.id = row.id := by
    refine fun q hq => ⟨And.left, fun hid => ⟨hid, ?_⟩⟩
    have hq : t.find? q.id = some q := Keyed.find?_eq_some_of_mem t.distinct hq
    rw [hid, h] at hq
    rw [← Option.some.inj hq, hr]
  show (t.rows.map fun q => if q.id = row.id ∧ q.version = version then row else q).find?
    (fun q => q.id == id) = _
  rw [Keyed.find?_replace hp]
  split
  · next hid =>
    rw [hid, show t.rows.find? (fun q => q.id == row.id) = some r from h, Option.map_some]
  · rfl

/-- Whether a version and the one after it fit the column. -/
def fitsColumn (version : Int) : Bool :=
  Checked.fitsWord version && Checked.fitsWord (version + 1)

theorem save_ok {t t' : Table} {f g : Flow} {now : String} (h : t.save f now = .ok (t', g)) :
    (∃ row, t.find? f.id = some row ∧ row.version = f.version) ∧ g = f.saved now ∧
      t' = t.put (Row.ofFlow g) f.version := by
  unfold save at h
  simp only [bind_eq_ok] at h
  obtain ⟨-, -, -, -, -, -, h⟩ := h
  split at h
  · cases h
  · next row hrow =>
    split at h
    · next hversion =>
      cases pure_eq_ok.1 h
      exact ⟨⟨row, hrow, hversion⟩, rfl, rfl⟩
    · cases h

theorem load_of_find?_none {t : Table} {id : String} (h : t.find? id = none) :
    FlowStore.load t id = .ok none := by
  unfold FlowStore.load
  dsimp only [instFlowStoreTable]
  rw [h]

theorem load_of_find? {t : Table} {id : String} {row : Row} (h : t.find? id = some row) :
    FlowStore.load t id = some <$> row.flow := by
  unfold FlowStore.load
  dsimp only [instFlowStoreTable]
  rw [h]
  rfl

/-- The row that a save has left is read when the flow is loaded. -/
theorem load_of_save {t t' : Table} {f g : Flow} {now : String}
    (h : t.save f now = .ok (t', g)) :
    FlowStore.load t' f.id = some <$> (Row.ofFlow g).flow := by
  obtain ⟨⟨row, hrow, hversion⟩, rfl, rfl⟩ := save_ok h
  refine load_of_find? ((@find?_put t (Row.ofFlow (f.saved now)) _ _ f.id hrow hversion).trans ?_)
  exact if_pos (show f.id = (Row.ofFlow (f.saved now)).id from rfl)

theorem fitsWord_of_checkVersion {version : Int} {u : Unit} (h : checkVersion version = .ok u) :
    Checked.fitsWord version = true := by
  by_contra hno
  rw [checkVersion, if_neg hno] at h
  cases h

theorem fitsColumn_of_save {t t' : Table} {f g : Flow} {now : String}
    (h : t.save f now = .ok (t', g)) : fitsColumn f.version = true := by
  unfold save at h
  simp only [bind_eq_ok] at h
  obtain ⟨_, -, _, hnext, _, hversion, -⟩ := h
  exact Bool.and_eq_true_iff.2
    ⟨fitsWord_of_checkVersion hversion, fitsWord_of_checkVersion hnext⟩

/-- The version of what was saved fits the column. -/
theorem fitsWord_saved {f : Flow} (h : fitsColumn f.version = true) (now : String) :
    Checked.fitsWord (f.saved now).version = true :=
  (Bool.and_eq_true_iff.1 h).2

theorem create_ok {t t' : Table} {f : Flow} (h : t.create f = .ok t') :
    f.id ∉ t.rows.map Row.id ∧ Checked.fitsWord f.version = true ∧
      t'.rows = t.rows ++ [Row.ofFlow f] := by
  unfold create at h
  simp only [bind_eq_ok] at h
  obtain ⟨_, -, _, hversion, h⟩ := h
  split at h
  · cases h
  · next hid =>
    cases pure_eq_ok.1 h
    exact ⟨hid, fitsWord_of_checkVersion hversion, rfl⟩

/-- A save of a flow that can be written answers what the guard says of the rows. -/
theorem save_eq {t : Table} {docs : Docs} {f : Flow} (now : String)
    (h : t.find? f.id = (docs f.id).map Row.ofFlow) (hw : f.isWritable = true)
    (hv : fitsColumn f.version = true) : (t.save f now).map Prod.snd = docs.save f now := by
  obtain ⟨hv, hv'⟩ := Bool.and_eq_true_iff.1 hv
  have hwritable : checkWritable f = .ok () := if_pos hw
  have hversion : checkVersion f.version = .ok () := if_pos hv
  have hnext : checkVersion (f.version + 1) = .ok () := if_pos hv'
  unfold save Docs.save
  rw [hwritable, hversion, hnext, h]
  cases docs f.id with
  | none => rfl
  | some stored =>
    show Except.map Prod.snd (if stored.version = f.version then _ else _) = _
    dsimp only
    split <;> rfl

/-- **The documents that a table keeps.** -/
structure Keeps (t : Table) (docs : Docs) : Prop where
  /-- A document stands under its id. -/
  id_eq {id : String} {f : Flow} : docs id = some f → f.id = id
  /-- The documents are the rows. -/
  find?_eq (id : String) : t.find? id = (docs id).map Row.ofFlow
  /-- The versions fit their column. -/
  fits {id : String} {f : Flow} : docs id = some f → Checked.fitsWord f.version = true

/-- A table with one row more, or with a new one in the place of an old one, keeps one document
more, or a new one in the place of the old one. -/
theorem keeps_put {t t' : Table} {docs : Docs} {f : Flow} (h : t.Keeps docs)
    (hfits : Checked.fitsWord f.version = true)
    (hput : ∀ id, t'.find? id = if id = f.id then some (Row.ofFlow f) else t.find? id) :
    t'.Keeps (docs.put f) where
  id_eq {id g} hg := by
    obtain ⟨rfl, rfl⟩ | ⟨-, hg⟩ := Docs.put_eq_some.1 hg
    · rfl
    · exact h.id_eq hg
  find?_eq id := by
    rw [hput, Docs.put_apply]
    split
    · rfl
    · exact h.find?_eq id
  fits {id g} hg := by
    obtain ⟨rfl, rfl⟩ | ⟨-, hg⟩ := Docs.put_eq_some.1 hg
    · exact hfits
    · exact h.fits hg

end Table

/-- A table keeps the documents as rows. -/
instance : LawfulStore Table where
  Keeps := Table.Keeps
  readBack f := (Row.ofFlow f).flow
  Fits f := f.isWritable = true ∧ Table.fitsColumn f.version = true
  id_eq h := h.id_eq
  readBack_ok h := .inr (Row.flow_ofFlow.1 h).2.2
  load_eq := by
    intro t docs id h
    have hfind := h.find?_eq id
    cases hdoc : docs id with
    | none =>
      rw [hdoc] at hfind
      exact Table.load_of_find?_none hfind
    | some f =>
      rw [hdoc] at hfind
      exact Table.load_of_find? hfind
  save_ok := by
    intro t t' docs f g now h hs
    have hfits := Table.fitsWord_saved (Table.fitsColumn_of_save hs) now
    obtain ⟨⟨row, hrow, hversion⟩, rfl, rfl⟩ := Table.save_ok hs
    have hdoc := h.find?_eq f.id
    rw [hrow] at hdoc
    obtain ⟨stored, hstored, rfl⟩ := Option.map_eq_some_iff.1 hdoc.symm
    refine ⟨Docs.save_eq_ok.2 ⟨⟨stored, hstored, hversion⟩, rfl⟩,
      Table.keeps_put h hfits fun id => ?_⟩
    exact @Table.find?_put t (Row.ofFlow (f.saved now)) _ _ id hrow hversion
  save_fits now h hf := Table.save_eq now (h.find?_eq _) hf.1 hf.2
  create_ok := by
    intro t t' docs f h hc
    obtain ⟨hid, hfits, hrows⟩ := Table.create_ok hc
    have hnone : t.find? f.id = none := Keyed.find?_eq_none.2 hid
    refine ⟨?_, Table.keeps_put h hfits fun id => ?_⟩
    · rw [h.find?_eq f.id] at hnone
      exact Option.map_eq_none_iff.1 hnone
    · rw [Table.find?, hrows]
      exact @Keyed.find?_append _ Row.id t.rows (Row.ofFlow f) id hid
  delete_keeps := by
    intro t docs id h
    refine ⟨fun hg => h.id_eq (Docs.drop_eq_some.1 hg).2, fun other => ?_,
      fun hg => h.fits (Docs.drop_eq_some.1 hg).2⟩
    rw [Docs.drop_apply]
    refine Keyed.find?_filter.trans ?_
    split
    · rfl
    · exact h.find?_eq other
  empty_keeps := ⟨nofun, fun _ => rfl, nofun⟩

/-- **A store that lists what it keeps**: a list of flows has all documents that were asked for,
each as it is loaded. -/
class LawfulListing (σ : Type) [FlowStore σ] [LawfulStore σ] : Prop where
  /-- A document that is asked for is in the list. -/
  list_ok {s : σ} {docs : Docs} {app : Option String} {fs : List Flow} {id : String} {f : Flow} :
    LawfulStore.Keeps s docs → FlowStore.list s app = .ok fs → docs id = some f →
      f.isOf app = true → ∃ g ∈ fs, LawfulStore.readBack σ f = .ok g

instance : LawfulListing Memory where
  list_ok := by
    intro m docs app fs id f h hlist hf happ
    cases hlist
    exact ⟨f, List.mem_filter.2 ⟨List.mem_of_find?_eq_some ((h id).trans hf), happ⟩, rfl⟩

instance : LawfulListing Table where
  list_ok := by
    intro t docs app fs id f h hlist hf happ
    have hrow : t.find? id = some (Row.ofFlow f) := by
      rw [h.find?_eq id, hf, Option.map_some]
    have hmem : Row.ofFlow f ∈ t.select app :=
      (List.mergeSort_perm _ _).mem_iff.2
        (List.mem_filter.2 ⟨List.mem_of_find?_eq_some hrow, happ⟩)
    exact @Outcome.exists_of_mapM_eq_ok _ _ Row.flow _ _ _ hlist hmem

/-! ## Loading from a lawful store -/

namespace FlowStore

variable {σ : Type} [FlowStore σ] [LawfulStore σ] {s : σ} {docs : Docs} {d f : Flow}

/-- The id of a document can be written. -/
theorem id_of_readBack (h : LawfulStore.readBack σ d = .ok f) : f.id = d.id := by
  obtain rfl | rfl := LawfulStore.readBack_ok h <;> rfl

theorem load_eq_some (h : LawfulStore.Keeps s docs) {id : String} :
    load s id = .ok (some f) ↔ ∃ d, docs id = some d ∧ LawfulStore.readBack σ d = .ok f := by
  rw [LawfulStore.load_eq id h]
  cases docs id with
  | none => simp
  | some d => simp [map_eq_ok]

theorem load_eq_none (h : LawfulStore.Keeps s docs) {id : String} :
    load s id = .ok none ↔ docs id = none := by
  rw [LawfulStore.load_eq id h]
  cases docs id with
  | none => simp
  | some d => simp [map_eq_ok]

/-- A document that is read back as it is, is loaded as it is. -/
theorem load_eq_docs {id : String} (h : LawfulStore.Keeps s docs)
    (hread : ∀ f, docs id = some f → LawfulStore.readBack σ f = .ok f) :
    load s id = .ok (docs id) := by
  rw [LawfulStore.load_eq id h]
  cases hdoc : docs id with
  | none => rfl
  | some f =>
    show some <$> LawfulStore.readBack σ f = _
    rw [hread f hdoc]
    rfl

theorem need_eq_ok (h : LawfulStore.Keeps s docs) {id : String} :
    need s id = .ok f ↔ ∃ d, docs id = some d ∧ LawfulStore.readBack σ d = .ok f := by
  rw [← load_eq_some h, need, bind_eq_ok]
  constructor
  · rintro ⟨_ | g, hg, h⟩
    · cases h
    · cases pure_eq_ok.1 h
      exact hg
  · intro hf
    exact ⟨some f, hf, rfl⟩

/-- A flow that is found by a value is the document under a text that the value is taken
for. -/
theorem needBy_ok (h : LawfulStore.Keeps s docs) {v : Json} (hf : needBy s v = .ok f) :
    ∃ id d, docs id = some d ∧ LawfulStore.readBack σ d = .ok f := by
  obtain ⟨_ | g, hg, hf⟩ := bind_eq_ok.1 hf
  · obtain ⟨_, -, hf⟩ := bind_eq_ok.1 hf
    cases hf
  · cases pure_eq_ok.1 hf
    obtain ⟨_ | key, -, hload⟩ := bind_eq_ok.1 hg
    · cases hload
    · obtain ⟨d, hd⟩ := (load_eq_some h).1 hload
      exact ⟨key, d, hd⟩

/-- A flow that was found is found again under its own id. -/
theorem need_of_needBy (h : LawfulStore.Keeps s docs) {v : Json} (hf : needBy s v = .ok f) :
    need s f.id = .ok f := by
  obtain ⟨id, d, hd, hread⟩ := needBy_ok h hf
  have hid : f.id = id := (id_of_readBack hread).trans (LawfulStore.id_eq h hd)
  exact (need_eq_ok h).2 ⟨d, hid ▸ hd, hread⟩

/-- **The other flows of the app** of a flow are all documents that the app owns, each as it is
loaded. -/
theorem mem_siblings [LawfulListing σ] {fs : List Flow} {id app : String} {g : Flow}
    (h : LawfulStore.Keeps s docs) (hs : siblings s f = .ok fs) (hf : f.app = some app)
    (hg : docs id = some g) (happ : g.app = some app) (hne : id ≠ f.id) :
    ∃ k ∈ fs, LawfulStore.readBack σ g = .ok k := by
  rw [siblings, hf] at hs
  obtain ⟨all, hall, hs⟩ := bind_eq_ok.1 hs
  cases pure_eq_ok.1 hs
  obtain ⟨k, hk, hread⟩ := LawfulListing.list_ok h hall hg (by simp [Flow.isOf, happ])
  refine ⟨k, List.mem_filter.2 ⟨hk, ?_⟩, hread⟩
  rw [id_of_readBack hread, LawfulStore.id_eq h hg]
  simpa using hne

/-- **All documents of a store** have a property. -/
def All (P : Flow → Prop) (s : σ) : Prop :=
  ∃ docs, LawfulStore.Keeps s docs ∧ ∀ id f, docs id = some f → P f

theorem all_empty {P : Flow → Prop} : All P (FlowStore.empty : σ) :=
  ⟨_, LawfulStore.empty_keeps, fun _ _ h => absurd h.symm (Option.some_ne_none _)⟩

end FlowStore

theorem Memory.all_iff {P : Flow → Prop} {m : Memory} :
    FlowStore.All P m ↔ ∀ f ∈ m.flows, P f := by
  constructor
  · rintro ⟨docs, hkeeps, hP⟩ f hf
    exact hP f.id f ((hkeeps f.id).symm.trans (Keyed.find?_eq_some_of_mem m.distinct hf))
  · intro hP
    exact ⟨m.find?, fun _ => rfl, fun id f hf => hP f (List.mem_of_find?_eq_some hf)⟩

/-- In a table the property is one of the flows whose rows they are, and whose versions fit. -/
theorem Table.all_iff {P : Flow → Prop} {t : Table} :
    FlowStore.All P t ↔ ∀ r ∈ t.rows, ∃ f, r = Row.ofFlow f ∧ Checked.fitsWord f.version = true ∧
      P f := by
  constructor
  · rintro ⟨docs, hkeeps, hP⟩ r hr
    have hfind : t.find? r.id = some r := Keyed.find?_eq_some_of_mem t.distinct hr
    rw [hkeeps.find?_eq] at hfind
    obtain ⟨f, hf, rfl⟩ := Option.map_eq_some_iff.1 hfind
    exact ⟨f, rfl, hkeeps.fits hf, hP _ f hf⟩
  · intro hP
    choose! flow hrow hfits hflow using hP
    have hmem : ∀ {id f}, (t.find? id).map flow = some f →
        ∃ r ∈ t.rows, r.id = id ∧ flow r = f := fun h => by
      obtain ⟨r, hr, rfl⟩ := Option.map_eq_some_iff.1 h
      exact ⟨r, List.mem_of_find?_eq_some hr, by simpa using List.find?_some hr, rfl⟩
    refine ⟨fun id => (t.find? id).map flow, ⟨fun hf => ?_, fun id => ?_, fun hf => ?_⟩,
      fun id f hf => ?_⟩
    · obtain ⟨r, hr, rfl, rfl⟩ := hmem hf
      exact (congrArg Row.id (hrow r hr)).symm
    · rw [Option.map_map]
      cases hr : t.find? id with
      | none => rfl
      | some r => exact congrArg some (hrow r (List.mem_of_find?_eq_some hr))
    · obtain ⟨r, hr, rfl, rfl⟩ := hmem hf
      exact hfits r hr
    · obtain ⟨r, hr, rfl, rfl⟩ := hmem hf
      exact hflow r hr

end Workflow
