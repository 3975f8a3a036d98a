import Mathlib.Data.List.Nodup
import Workflow.Proofs.Listing
import Workflow.Proofs.Readable

/-!
# The two stores answer alike

Whoever uses a store sees no more of it than the documents that it keeps, and both stores keep a
document as it is as long as it can be kept at all (`FaithfulStore`). So two stores that keep the
same documents (`Twins`) answer every command alike, and keep the same documents afterwards. The one
thing that they do differently is the order in which they list flows: one has them in the order in
which they were created, the other one has those first that were changed last. It is seen in the
listing itself and nowhere else, since no task depends on it.

What must not happen is that something is brought into a flow that a table writes and cannot read.
One store would go on with it, and the other one would refuse every later command on the flow, and
every listing with it. Nor may a flow be saved so often that its version outgrows the column. All
texts are made of Unicode scalar values, which both stores keep; half a surrogate pair is no text
that a table could write.
-/

namespace Workflow

open Outcome

/-! ## Faithful stores -/

/-- **A store that keeps things as they are**, whatever can be kept. -/
class FaithfulStore (σ : Type) [FlowStore σ] [LawfulStore σ] : Prop where
  /-- A flow is looked up by a text as the text is. -/
  keyOf_str (s : σ) (id : String) : FlowStore.keyOf s (.str id) = .ok (some id)
  /-- Null is no id of a flow. -/
  keyOf_null (s : σ) : FlowStore.keyOf s .null = .ok none
  /-- A document that can be kept is loaded as it is. -/
  readBack_eq {f : Flow} : f.Keepable → Checked.fitsWord f.version = true →
    LawfulStore.readBack σ f = .ok f
  /-- A flow that can be kept has a form for the store as long as its version has. -/
  fits {f : Flow} : f.Keepable → Table.fitsColumn f.version = true → LawfulStore.Fits σ f
  /-- A flow can be created under an id that is not in use. -/
  create_fresh {s : σ} {docs : Docs} {f : Flow} : LawfulStore.Keeps s docs → docs f.id = none →
    f.Keepable → Checked.fitsWord f.version = true → ∃ s', FlowStore.create s f = .ok s'
  /-- Each document that is asked for is listed once, as it is. -/
  list_eq {s : σ} {docs : Docs} (app : Option String) : LawfulStore.Keeps s docs →
    (∀ {id f}, docs id = some f → f.Keepable) →
    ∃ fs, FlowStore.list s app = .ok fs ∧ fs.Nodup ∧
      ∀ f, f ∈ fs ↔ docs f.id = some f ∧ f.isOf app = true

instance : FaithfulStore Memory where
  keyOf_str _ _ := rfl
  keyOf_null _ := rfl
  readBack_eq _ _ := rfl
  fits _ _ := trivial
  create_fresh := by
    intro m docs f h hfresh _ _
    exact ⟨_, dif_neg (Keyed.find?_eq_none.1 ((h f.id).trans hfresh))⟩
  list_eq := by
    intro m docs app h _
    refine ⟨_, rfl, m.distinct.of_map _ |>.filter _, fun f => ?_⟩
    rw [List.mem_filter, ← h f.id]
    refine and_congr_left fun _ => ⟨Keyed.find?_eq_some_of_mem m.distinct, ?_⟩
    exact List.mem_of_find?_eq_some

namespace Table

variable {t : Table} {docs : Docs}

/-- Each row of a table is the row of a document that the table keeps. -/
theorem exists_of_mem_rows (h : LawfulStore.Keeps t docs) {r : Row} (hr : r ∈ t.rows) :
    ∃ f, docs r.id = some f ∧ Row.ofFlow f = r := by
  have hfind : t.find? r.id = some r := Keyed.find?_eq_some_of_mem t.distinct hr
  rw [h.find?_eq] at hfind
  exact Option.map_eq_some_iff.1 hfind

theorem mem_rows_of_docs (h : LawfulStore.Keeps t docs) {id : String} {f : Flow}
    (hf : docs id = some f) : Row.ofFlow f ∈ t.rows := by
  have hfind := h.find?_eq id
  rw [hf] at hfind
  exact List.mem_of_find?_eq_some hfind

theorem mem_select {app : Option String} {r : Row} :
    r ∈ t.select app ↔ r ∈ t.rows ∧ (app.isNone || r.app == app) = true := by
  rw [select, (List.mergeSort_perm _ _).mem_iff, List.mem_filter]

theorem nodup_select (app : Option String) : ((t.select app).map Row.id).Nodup :=
  ((List.mergeSort_perm _ _).map Row.id).nodup_iff.2
    (t.distinct.sublist (List.filter_sublist.map Row.id))

/-- A table whose documents can be kept lists those that are asked for, each of them once. -/
theorem list_eq (h : LawfulStore.Keeps t docs)
    (hkeepable : ∀ {id f}, docs id = some f → f.Keepable) (app : Option String) :
    ∃ fs, FlowStore.list t app = .ok fs ∧ fs.Nodup ∧
      ∀ f, f ∈ fs ↔ docs f.id = some f ∧ f.isOf app = true := by
  choose! doc hdoc hrow using fun r (hr : r ∈ t.rows) => exists_of_mem_rows h hr
  have hread : ∀ r ∈ t.select app, r.flow = .ok (doc r) := by
    intro r hr
    obtain ⟨hr, -⟩ := mem_select.1 hr
    conv_lhs => rw [← hrow r hr]
    exact (hkeepable (hdoc r hr)).flow_ofFlow (h.fits (hdoc r hr))
  have hids : ((t.select app).map doc).map Flow.id = (t.select app).map Row.id := by
    rw [List.map_map]
    exact List.map_congr_left fun r hr => congrArg Row.id (hrow r (mem_select.1 hr).1)
  refine ⟨(t.select app).map doc, mapM_eq_ok hread, .of_map Flow.id ?_, fun f => ⟨?_, ?_⟩⟩
  · rw [hids]
    exact nodup_select app
  · intro hf
    obtain ⟨r, hr, rfl⟩ := List.mem_map.1 hf
    obtain ⟨hr, happ⟩ := mem_select.1 hr
    have hid : (doc r).id = r.id := congrArg Row.id (hrow r hr)
    refine ⟨hid ▸ hdoc r hr, ?_⟩
    rw [← hrow r hr] at happ
    exact happ
  · rintro ⟨hf, happ⟩
    have hmem : Row.ofFlow f ∈ t.rows := mem_rows_of_docs h hf
    have hdocf : doc (Row.ofFlow f) = f := Option.some.inj ((hdoc _ hmem).symm.trans hf)
    exact List.mem_map.2 ⟨Row.ofFlow f, mem_select.2 ⟨hmem, happ⟩, hdocf⟩

end Table

instance : FaithfulStore Table where
  keyOf_str _ _ := rfl
  keyOf_null _ := rfl
  readBack_eq h hversion := h.flow_ofFlow hversion
  fits h hversion := ⟨h.isWritable, hversion⟩
  create_fresh := by
    intro t docs f h hfresh hkeepable hversion
    have hwritable : Table.checkWritable f = .ok () := if_pos hkeepable.isWritable
    have hfits : Table.checkVersion f.version = .ok () := if_pos hversion
    have hid : f.id ∉ t.rows.map Row.id := by
      refine Keyed.find?_eq_none.1 ((h.find?_eq f.id).trans ?_)
      rw [hfresh, Option.map_none]
    show ∃ s', Table.create t f = .ok s'
    unfold Table.create
    rw [hwritable, hfits]
    exact ⟨_, dif_neg hid⟩
  list_eq app h hkeepable := Table.list_eq h hkeepable app

/-! ## Twins -/

/-- Documents that can be kept and were saved at most so many times. -/
structure Docs.Modest (docs : Docs) (n : Nat) : Prop where
  /-- All of them can be kept. -/
  keepable {id : String} {f : Flow} : docs id = some f → f.Keepable
  /-- None was saved more often. -/
  version {id : String} {f : Flow} : docs id = some f → 0 ≤ f.version ∧ f.version ≤ n
  /-- The versions fit the column of a table. -/
  fits {id : String} {f : Flow} : docs id = some f → Checked.fitsWord f.version = true

/-- **Stores that keep the same documents**, which all can be kept and were saved at most so many
times. -/
def Twins {σ τ : Type} [FlowStore σ] [LawfulStore σ] [FlowStore τ] [LawfulStore τ] (n : Nat)
    (s : σ) (t : τ) : Prop :=
  ∃ docs, LawfulStore.Keeps s docs ∧ LawfulStore.Keeps t docs ∧ Docs.Modest docs n

namespace Docs

variable {docs : Docs} {m n : Nat} {f : Flow}

theorem Modest.mono (h : docs.Modest n) (hle : n ≤ m) : docs.Modest m where
  keepable := h.keepable
  version hf := by
    obtain ⟨hpos, hn⟩ := h.version hf
    exact ⟨hpos, Int.le_trans hn (Int.ofNat_le.2 hle)⟩
  fits := h.fits

theorem Modest.put (h : docs.Modest n) (hf : f.Keepable) (hpos : 0 ≤ f.version)
    (hn : f.version ≤ n) (hfits : Checked.fitsWord f.version = true) : (docs.put f).Modest n where
  keepable {id g} hg := by
    obtain ⟨rfl, rfl⟩ | ⟨-, hg⟩ := put_eq_some.1 hg
    · exact hf
    · exact h.keepable hg
  version {id g} hg := by
    obtain ⟨rfl, rfl⟩ | ⟨-, hg⟩ := put_eq_some.1 hg
    · exact ⟨hpos, hn⟩
    · exact h.version hg
  fits {id g} hg := by
    obtain ⟨rfl, rfl⟩ | ⟨-, hg⟩ := put_eq_some.1 hg
    · exact hfits
    · exact h.fits hg

theorem Modest.drop (h : docs.Modest n) (id : String) : (docs.drop id).Modest n where
  keepable hg := h.keepable (drop_eq_some.1 hg).2
  version hg := h.version (drop_eq_some.1 hg).2
  fits hg := h.fits (drop_eq_some.1 hg).2

end Docs

/-! ### What twins have in common -/

/-- Whether a value is a text or null. -/
def Json.isTextOrNull : Json → Bool
  | .str _ | .null => true
  | _ => false

section

variable {σ τ : Type} [FlowStore σ] [LawfulStore σ] [FaithfulStore σ]
  [FlowStore τ] [LawfulStore τ] [FaithfulStore τ]
variable {s : σ} {t : τ} {docs : Docs} {n : Nat} {f g : Flow}

/-- A store whose documents can be kept loads each of them as it is. -/
theorem FaithfulStore.load_eq (h : LawfulStore.Keeps s docs) (hmodest : docs.Modest n)
    (id : String) : FlowStore.load s id = .ok (docs id) :=
  FlowStore.load_eq_docs h fun _ hf => readBack_eq (hmodest.keepable hf) (hmodest.fits hf)

namespace Twins

omit [FaithfulStore σ] [FaithfulStore τ] in
theorem mono {m : Nat} (h : Twins n s t) (hle : n ≤ m) : Twins m s t := by
  obtain ⟨docs, hs, ht, hmodest⟩ := h
  exact ⟨docs, hs, ht, hmodest.mono hle⟩

/-- Twins load the same flow under each id, and neither of them refuses. -/
theorem load (h : Twins n s t) (id : String) :
    ∃ found, FlowStore.load s id = .ok found ∧ FlowStore.load t id = .ok found := by
  obtain ⟨docs, hs, ht, hmodest⟩ := h
  exact ⟨docs id, FaithfulStore.load_eq hs hmodest id, FaithfulStore.load_eq ht hmodest id⟩

theorem load_eq (h : Twins n s t) (id : String) : FlowStore.load s id = FlowStore.load t id := by
  obtain ⟨found, hs, ht⟩ := h.load id
  rw [hs, ht]

theorem needBy_eq (h : Twins n s t) {v : Json} (hv : v.isTextOrNull = true) :
    FlowStore.needBy s v = FlowStore.needBy t v := by
  have hloadBy : FlowStore.loadBy s v = FlowStore.loadBy t v := by
    unfold FlowStore.loadBy
    cases v with
    | str id =>
      rw [FaithfulStore.keyOf_str, FaithfulStore.keyOf_str]
      exact h.load_eq id
    | null =>
      rw [FaithfulStore.keyOf_null, FaithfulStore.keyOf_null]
      rfl
    | bool | int | float | arr | obj => cases hv
  unfold FlowStore.needBy
  rw [hloadBy]

/-- Twins list the same flows, perhaps in another order. -/
theorem agree_list (h : Twins n s t) (app : Option String) :
    Agree List.Perm (FlowStore.list s app) (FlowStore.list t app) := by
  obtain ⟨docs, hs, ht, hmodest⟩ := h
  obtain ⟨fs, hlist, hnodup, hfs⟩ := FaithfulStore.list_eq app hs hmodest.keepable
  obtain ⟨gs, hlist', hnodup', hgs⟩ := FaithfulStore.list_eq app ht hmodest.keepable
  rw [hlist, hlist']
  exact .ok ((List.perm_ext_iff_of_nodup hnodup hnodup').2 fun f => (hfs f).trans (hgs f).symm)

theorem agree_listBy (h : Twins n s t) {v : Json} (hv : v.isTextOrNull = true) :
    Agree List.Perm (FlowStore.listBy s v) (FlowStore.listBy t v) := by
  cases v with
  | null => exact h.agree_list none
  | str app =>
    show Agree _ (FlowStore.keyOf s (.str app) >>= _) (FlowStore.keyOf t (.str app) >>= _)
    rw [FaithfulStore.keyOf_str, FaithfulStore.keyOf_str]
    exact h.agree_list (some app)
  | bool | int | float | arr | obj => cases hv

theorem agree_siblings (h : Twins n s t) (f : Flow) :
    Agree List.Perm (FlowStore.siblings s f) (FlowStore.siblings t f) := by
  unfold FlowStore.siblings
  split
  · exact .ok .nil
  · next app _ =>
    exact (h.agree_list (some app)).bind fun _ _ hflows _ _ => .ok (hflows.filter _)

end Twins

/-! ### What twins come to -/

/-- Whether answers are the same, but for the order of flows that are listed. -/
inductive Reply.Same : Reply → Reply → Prop
  /-- The same answer. -/
  | refl (r : Reply) : Same r r
  /-- The same flows. -/
  | flows {fs gs : List Flow} (h : fs.Perm gs) : Same (.flows fs) (.flows gs)

/-- Whether two steps have come to the same: the stores are twins afterwards, and the answers are
the same. -/
def Twins.After (n : Nat) (p : σ × Reply) (q : τ × Reply) : Prop :=
  Twins n p.1 q.1 ∧ p.2.Same q.2

variable {w : Surroundings}

/-- A version that was counted up at most so often fits its column. -/
theorem Table.fitsColumn_of_le {version : Int} (hpos : 0 ≤ version) (hle : version ≤ n)
    (hn : (n : Int) + 1 < Checked.wordBound) : fitsColumn version = true := by
  have hbound : (0 : Int) ≤ Checked.wordBound := by decide
  simp only [fitsColumn, Checked.fitsWord, Bool.and_eq_true, decide_eq_true_eq]
  omega

/-- Both stores save a flow that can be kept, or neither does. -/
theorem FaithfulStore.agree_save (hs : LawfulStore.Keeps s docs) (ht : LawfulStore.Keeps t docs)
    (hg : g.Keepable) (hversion : Table.fitsColumn g.version = true) (now : String) :
    Agree (fun p q => LawfulStore.Keeps p.1 (docs.put (g.saved now)) ∧
        LawfulStore.Keeps q.1 (docs.put (g.saved now)))
      (FlowStore.save s g now) (FlowStore.save t g now) := by
  have hanswer : (FlowStore.save s g now).map Prod.snd = (FlowStore.save t g now).map Prod.snd :=
    (LawfulStore.save_fits now hs (fits hg hversion)).trans
      (LawfulStore.save_fits now ht (fits hg hversion)).symm
  refine (Agree.of_map hanswer).imp fun ⟨s', k⟩ ⟨t', k'⟩ _ hsave hsave' => ?_
  obtain ⟨hguard, hkeeps⟩ := LawfulStore.save_ok hs hsave
  obtain ⟨hguard', hkeeps'⟩ := LawfulStore.save_ok ht hsave'
  obtain rfl := (Docs.save_eq_ok.1 hguard).2
  obtain rfl := (Docs.save_eq_ok.1 hguard').2
  exact ⟨hkeeps, hkeeps'⟩

/-- **A command that any store can take.** It brings nothing into a flow that cannot be kept, names
flows and apps by texts, and a flow that it creates gets an id that no flow has. -/
structure Command.Portable (w : Surroundings) (s : σ) (c : Command) : Prop where
  /-- Nothing is brought that cannot be kept. -/
  keepable : c.BringsKeepable w s
  /-- The flow is named by a text, if it is named. -/
  flow : (c.argument "flow_id").isTextOrNull = true
  /-- The app is named by a text, if it is named. -/
  app : (c.argument "app_id").isTextOrNull = true
  /-- The id of a new flow is new. -/
  fresh : c.name = "create_flow" → FlowStore.load s (w.freshId 1) = .ok none

namespace Twins

/-- Twins save what a task has changed, or neither of them does. -/
theorem agree_conclude (hs : LawfulStore.Keeps s docs) (ht : LawfulStore.Keeps t docs)
    (hmodest : docs.Modest n) (hn : (n : Int) + 1 < Checked.wordBound) {effect : Effect}
    (hchanged : ∀ g, effect.changed = some g → g.Keepable ∧ 0 ≤ g.version ∧ g.version ≤ n) :
    Agree (After (n + 1)) (Operation.conclude w s effect) (Operation.conclude w t effect) := by
  have hmodest' : docs.Modest (n + 1) := hmodest.mono (Nat.le_succ n)
  unfold Operation.conclude
  cases hsome : effect.changed with
  | none => exact .ok ⟨⟨docs, hs, ht, hmodest'⟩, .refl _⟩
  | some g =>
    obtain ⟨hkeepable, hpos, hle⟩ := hchanged g hsome
    have hversion : Table.fitsColumn g.version = true := Table.fitsColumn_of_le hpos hle hn
    refine (FaithfulStore.agree_save hs ht hkeepable hversion w.now).bind ?_
    rintro ⟨s', _⟩ ⟨t', _⟩ ⟨hkeeps, hkeeps'⟩ _ _
    refine .ok ⟨⟨_, hkeeps, hkeeps', hmodest'.put hkeepable ?_ ?_ ?_⟩, .refl _⟩
    · exact Int.le_add_one hpos
    · exact Int.add_le_add_right hle 1
    · exact Table.fitsWord_saved hversion w.now

theorem agree_createFlow (h : Twins n s t) (hfresh : FlowStore.load s (w.freshId 1) = .ok none)
    (name : String) (app description : Option String) :
    Agree (After (n + 1)) ((Operation.createFlow name app description).run w s)
      ((Operation.createFlow name app description).run w t) := by
  obtain ⟨docs, hs, ht, hmodest⟩ := h
  have hkeepable : (Operation.newFlow w name app description).Keepable := List.forall_mem_nil _
  have hnone : docs (w.freshId 1) = none := (FlowStore.load_eq_none hs).1 hfresh
  obtain ⟨s', hcreate⟩ := FaithfulStore.create_fresh hs hnone hkeepable rfl
  obtain ⟨t', hcreate'⟩ := FaithfulStore.create_fresh ht hnone hkeepable rfl
  show Agree _ (FlowStore.create s _ >>= _) (FlowStore.create t _ >>= _)
  rw [hcreate, hcreate']
  refine .ok ⟨⟨_, (LawfulStore.create_ok hs hcreate).2, (LawfulStore.create_ok ht hcreate').2,
    (hmodest.mono (Nat.le_succ n)).put hkeepable (Int.le_refl 0) (Int.natCast_nonneg _) rfl⟩,
    .refl _⟩

/-- The flow that twins have found by a value is found again under its id by both of them. -/
theorem need_of_needBy (h : Twins n s t) {v : Json} (hv : v.isTextOrNull = true)
    (hf : FlowStore.needBy s v = .ok f) :
    FlowStore.need s f.id = .ok f ∧ FlowStore.need t f.id = .ok f := by
  have hf' : FlowStore.needBy t v = .ok f := (h.needBy_eq hv).symm.trans hf
  obtain ⟨docs, hs, ht, -⟩ := h
  exact ⟨FlowStore.need_of_needBy hs hf, FlowStore.need_of_needBy ht hf'⟩

theorem agree_deleteFlow (h : Twins n s t) {v : Json} (hv : v.isTextOrNull = true)
    (hf : FlowStore.needBy s v = .ok f) :
    Agree (After (n + 1)) ((Operation.deleteFlow f.id).run w s)
      ((Operation.deleteFlow f.id).run w t) := by
  obtain ⟨hneed, hneed'⟩ := h.need_of_needBy hv hf
  obtain ⟨docs, hs, ht, hmodest⟩ := h
  show Agree _ (FlowStore.need s f.id >>= _) (FlowStore.need t f.id >>= _)
  rw [hneed, hneed']
  exact .ok ⟨⟨_, LawfulStore.delete_keeps f.id hs, LawfulStore.delete_keeps f.id ht,
    (hmodest.mono (Nat.le_succ n)).drop f.id⟩, .refl _⟩

theorem agree_onFlow (h : Twins n s t) (hn : (n : Int) + 1 < Checked.wordBound) {c : Command}
    {task : FlowTask} (hc : c.Portable w s)
    (hf : FlowStore.needBy s (c.argument "flow_id") = .ok f) (htask : c.task w f = .ok task) :
    Agree (After (n + 1)) ((Operation.onFlow f.id task).run w s)
      ((Operation.onFlow f.id task).run w t) := by
  obtain ⟨hneed, hneed'⟩ := h.need_of_needBy hc.flow hf
  have hsiblings : task.run w (FlowStore.siblings s f) f = task.run w (FlowStore.siblings t f) f :=
    FlowTask.run_perm (h.agree_siblings f) w task
  obtain ⟨docs, hs, ht, hmodest⟩ := h
  show Agree _ (FlowStore.need s f.id >>= _) (FlowStore.need t f.id >>= _)
  rw [hneed, hneed']
  show Agree _ (task.run w (FlowStore.siblings s f) f >>= _)
    (task.run w (FlowStore.siblings t f) f >>= _)
  rw [← hsiblings]
  refine .bind_same fun effect hrun => agree_conclude hs ht hmodest hn fun g hg => ?_
  -- the flow was loaded as it is stored, since it can be kept
  obtain ⟨id, d, hd, hread⟩ := FlowStore.needBy_ok hs hf
  have hkeepable : d.Keepable := hmodest.keepable hd
  obtain rfl : d = f :=
    Except.ok.inj ((FaithfulStore.readBack_eq hkeepable (hmodest.fits hd)).symm.trans hread)
  have hversion : g.version = d.version := by rw [FlowTask.run_frame hrun hg]
  rw [hversion]
  exact ⟨hc.keepable.changed hf htask hrun hg hkeepable, hmodest.version hd⟩

/-- **What carrying out a command comes to** is the same for twins. -/
theorem agree_run (h : Twins n s t) (hn : (n : Int) + 1 < Checked.wordBound) {c : Command}
    (hc : c.Portable w s) : Agree (After (n + 1)) (c.run w s) (c.run w t) := by
  have hlater : Twins (n + 1) s t := h.mono (Nat.le_succ n)
  unfold Command.run
  cases hfits : (Command.signature? c.name).any fun signature => signature.fits c.arguments with
  | false =>
    simp only [Bool.not_false, ↓reduceIte]
    exact .error .badArguments
  | true =>
    simp only [Bool.not_true, Bool.false_eq_true, ↓reduceIte]
    split
    · next hname =>
      refine .bind_same fun op hop => ?_
      obtain ⟨name, app, description, rfl⟩ := Command.createFlow_ok hop
      exact h.agree_createFlow (hc.fresh hname) name app description
    · refine (h.agree_listBy hc.app).bind fun fs gs hperm _ _ => ?_
      exact .ok ⟨hlater, .flows hperm⟩
    · refine .bind_same fun op hop => ?_
      obtain ⟨type, rfl⟩ := Command.typeSchemas_ok hop
      exact .bind_same fun schemas _ => .ok ⟨hlater, .refl _⟩
    · rw [← h.needBy_eq hc.flow]
      exact .bind_same fun f hf => h.agree_deleteFlow hc.flow hf
    · rw [← h.needBy_eq hc.flow]
      exact .bind_same fun f hf => .bind_same fun task htask => h.agree_onFlow hn hc hf htask

/-- **One step of twins**: they answer alike and are twins afterwards, whether the command is carried
out or refused. -/
theorem step (h : Twins n s t) (hn : (n : Int) + 1 < Checked.wordBound) {c : Command}
    (hc : c.Portable w s) :
    Twins (n + 1) (c.step w s).1 (c.step w t).1 ∧
      Agree Reply.Same (c.step w s).2 (c.step w t).2 := by
  have hrun : Agree (After (n + 1)) (c.run w s) (c.run w t) := h.agree_run hn hc
  unfold Command.step
  generalize c.run w s = x, c.run w t = y at hrun ⊢
  cases hrun with
  | ok hafter => exact ⟨hafter.1, .ok hafter.2⟩
  | error e => exact ⟨h.mono (Nat.le_succ n), .error e⟩

end Twins

end

/-! ## Runs -/

section

variable {σ τ : Type} [FlowStore σ] [FlowStore τ]

end

end Workflow
