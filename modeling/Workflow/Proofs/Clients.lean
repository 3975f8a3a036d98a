import Mathlib.Data.List.Basic
import Mathlib.Data.List.Induction
import Workflow.Proofs.Readable

/-!
# Clients

Clients of a store load flows, work on their copies, and save them. Their steps – and those by
which flows are created and deleted – come in any order (`Act`, `Scene.run`). A client saves a
flow that it has made in any way out of the one that it loaded last, under the id and the version
of the latter (`Flow.draft`).

`NoLostUpdate` is what the version is there for: a save that succeeds replaces the very document
that its client has loaded, and nobody else has saved the flow in between; every other save is
refused and changes nothing. The reason is that the version at an id only grows while a document
stands there (`Scene.run_since`), so a version that is met again is that of the same document.
An id that is created anew after a deletion would break this, and so no id may come back
(`Scene.Revives`).

A table keeps this promise for the flows that it can write, read back and count
(`Table.CanKeep`), and for no others (`Table.canKeep_of_savesSafely`). These are no mere formality:
a flow that is nested too deeply, or has an integer of thousands of digits, is saved and cannot be
loaded any more, and one with the greatest version that fits cannot be saved.
-/

namespace Workflow

open Outcome

/-- **A step of somebody who uses a store.** -/
inductive Act (ι : Type) where
  /-- A flow is created. -/
  | create (f : Flow)
  /-- A client loads a flow. -/
  | load (client : ι) (id : String)
  /-- A client saves at a time what it has made of the flow that it loaded last. -/
  | save (client : ι) (change : Flow → Flow) (now : String)
  /-- A flow is deleted. -/
  | delete (id : String)

/-- What a client has made of a flow, under the id and the version of the flow that it has
loaded. -/
def Flow.draft (loaded : Flow) (change : Flow → Flow) : Flow :=
  { change loaded with id := loaded.id, version := loaded.version }

/-- **A store and its clients.** -/
structure Scene (ι σ : Type) where
  /-- The store. -/
  store : σ
  /-- The flow that each client has loaded last. -/
  held : ι → Option Flow

namespace Scene

variable {ι σ : Type} [DecidableEq ι] [FlowStore σ]

/-- **One step.** Where it is refused, or where there is nothing to load or to save, all stays
as it is. -/
def act (a : Scene ι σ) : Act ι → Scene ι σ
  | .create f =>
    match FlowStore.create a.store f with
    | .ok s => { a with store := s }
    | .error _ => a
  | .load client id =>
    match FlowStore.load a.store id with
    | .ok (some f) => { a with held := Function.update a.held client (some f) }
    | _ => a
  | .save client change now =>
    match a.held client with
    | some loaded =>
      match FlowStore.save a.store (loaded.draft change) now with
      | .ok (s, _) => { a with store := s }
      | .error _ => a
    | none => a
  | .delete id => { a with store := FlowStore.delete a.store id }

/-- **A run** of steps, in the order of the list. -/
def run (a : Scene ι σ) (acts : List (Act ι)) : Scene ι σ :=
  acts.foldl act a

/-- A store whose clients have loaded nothing yet. -/
def start (ι : Type) (s : σ) : Scene ι σ :=
  ⟨s, fun _ => none⟩

theorem run_append (a : Scene ι σ) (xs ys : List (Act ι)) :
    a.run (xs ++ ys) = (a.run xs).run ys :=
  List.foldl_append ..

theorem run_snoc (a : Scene ι σ) (xs : List (Act ι)) (x : Act ι) :
    a.run (xs ++ [x]) = (a.run xs).act x :=
  List.foldl_append ..

/-- **A save that succeeds**: the step is one, and the flow with the id is what is saved. -/
def Saves (a : Scene ι σ) (x : Act ι) (id : String) : Prop :=
  ∃ client change now loaded s g, x = .save client change now ∧ a.held client = some loaded ∧
    loaded.id = id ∧ FlowStore.save a.store (loaded.draft change) now = .ok (s, g)

/-- Whether there is a flow with an id. -/
def HasFlow (a : Scene ι σ) (id : String) : Prop :=
  FlowStore.load a.store id ≠ .ok none

/-- **An id comes back**: it is created after a flow with it was there and is not there any
more. -/
def Revives (a : Scene ι σ) (acts : List (Act ι)) : Prop :=
  ∃ before between f after, acts = before ++ between ++ .create f :: after ∧
    (a.run before).HasFlow f.id ∧ ¬ (a.run (before ++ between)).HasFlow f.id

/-! ## What a step does to the documents -/

/-- **What a step can do** to the documents of a store. -/
inductive Change (a : Scene ι σ) (docs : Docs) : Act ι → Docs → Prop
  /-- Nothing, and it is no save that succeeds. -/
  | none {x : Act ι} (h : ∀ id, ¬ a.Saves x id) : Change a docs x docs
  /-- A flow is created under an id that was not in use. -/
  | create {f : Flow} (h : docs f.id = none) : Change a docs (.create f) (docs.put f)
  /-- A flow is saved that has the version of the document in its place. -/
  | save {client : ι} {change : Flow → Flow} {now : String} {loaded d : Flow}
      (hheld : a.held client = some loaded) (hd : docs loaded.id = some d)
      (hversion : d.version = loaded.version) :
      Change a docs (.save client change now) (docs.put ((loaded.draft change).saved now))
  /-- A flow is deleted. -/
  | delete {id : String} : Change a docs (.delete id) (docs.drop id)

variable {a : Scene ι σ} {docs : Docs}

/-- What has become of a document since: it is gone, or nobody has saved it and it is the same
still, or its version is greater. -/
def Since (a : Scene ι σ) (xs : List (Act ι)) (d : Flow) (id : String) (docs : Docs) : Prop :=
  docs id = none ∨
    (docs id = some d ∧ ∀ before x after, xs = before ++ x :: after → ¬ (a.run before).Saves x id) ∨
    ∃ d', docs id = some d' ∧ d.version < d'.version

/-- A step that leaves the document as it is, and does not save it, leaves open what has become
of it. -/
theorem Since.snoc {xs : List (Act ι)} {x : Act ι} {d : Flow} {id : String} {docs docs' : Docs}
    (h : Since a xs d id docs) (hid : docs' id = docs id) (hx : ¬ (a.run xs).Saves x id) :
    Since a (xs ++ [x]) d id docs' := by
  unfold Since
  rw [hid]
  obtain hnone | ⟨hsame, hno⟩ | hmore := h
  · exact .inl hnone
  · refine .inr (.inl ⟨hsame, fun before y after heq => ?_⟩)
    obtain rfl | ⟨after, z, rfl⟩ := List.eq_nil_or_concat' after
    · obtain ⟨rfl, hy⟩ := List.append_inj' heq rfl
      rw [← List.singleton_inj.1 hy]
      exact hx
    · have heq : xs ++ [x] = before ++ y :: after ++ [z] := by simpa using heq
      exact hno before y after (List.append_inj' heq rfl).1
  · exact .inr (.inr hmore)

/-- What one step more makes of it, if it does not bring the id back. -/
theorem Since.step {xs : List (Act ι)} {x : Act ι} {d : Flow} {id : String} {docs docs' : Docs}
    (h : Since a xs d id docs) (hx : (a.run xs).Change docs x docs')
    (hback : ∀ f, x = .create f → f.id = id → docs id ≠ none) : Since a (xs ++ [x]) d id docs' := by
  cases hx with
  | none hno => exact h.snoc rfl (hno id)
  | @create f hnew =>
    have hne : id ≠ f.id := fun hid => hback f rfl hid.symm (hid ▸ hnew)
    refine h.snoc (Docs.put_of_ne hne) ?_
    rintro ⟨_, _, _, _, _, _, hx, -⟩
    cases hx
  | @save client change now loaded d₀ hheld hd hversion =>
    by_cases hid : id = loaded.id
    · -- the guard has met the stored version, and the new one is greater
      subst hid
      refine .inr (.inr ⟨_, Docs.put_self, ?_⟩)
      show d.version < loaded.version + 1
      rw [← hversion]
      obtain hnone | ⟨hsame, -⟩ | ⟨d', hd', hlt⟩ := h
      · rw [hnone] at hd
        cases hd
      · obtain rfl : d = d₀ := Option.some.inj (hsame.symm.trans hd)
        exact Int.lt_add_one_of_le (Int.le_refl _)
      · obtain rfl : d' = d₀ := Option.some.inj (hd'.symm.trans hd)
        exact Int.lt_add_one_of_le (Int.le_of_lt hlt)
    · refine h.snoc (Docs.put_of_ne hid) ?_
      rintro ⟨_, _, _, l, _, _, hx, hl, hlid, -⟩
      cases hx
      obtain rfl : loaded = l := Option.some.inj (hheld.symm.trans hl)
      exact hid hlid.symm
  | @delete gone =>
    by_cases hid : id = gone
    · subst hid
      exact .inl Docs.drop_self
    · refine h.snoc (Docs.drop_of_ne hid) ?_
      rintro ⟨_, _, _, _, _, _, hx, -⟩
      cases hx

/-- A document that has the version still is the same one, and nobody has saved it. -/
theorem Since.eq_of_version {xs : List (Act ι)} {d stored : Flow} {id : String}
    (h : Since a xs d id docs) (hstored : docs id = some stored)
    (hversion : stored.version = d.version) :
    docs id = some d ∧
      ∀ before x after, xs = before ++ x :: after → ¬ (a.run before).Saves x id := by
  obtain hnone | hsame | ⟨d', hd', hlt⟩ := h
  · rw [hnone] at hstored
    cases hstored
  · exact hsame
  · obtain rfl : d' = stored := Option.some.inj (hd'.symm.trans hstored)
    exact absurd hversion (Int.ne_of_gt hlt)

/-! ## A save that is made -/

theorem act_save_ok {client : ι} {change : Flow → Flow} {now : String} {loaded saved : Flow}
    {s : σ} (hheld : a.held client = some loaded)
    (hs : FlowStore.save a.store (loaded.draft change) now = .ok (s, saved)) :
    (a.act (.save client change now)).store = s := by
  rw [act, hheld]
  dsimp only
  rw [hs]

theorem act_save_error {client : ι} {change : Flow → Flow} {now : String} {loaded : Flow}
    {e : Failure} (hheld : a.held client = some loaded)
    (hs : FlowStore.save a.store (loaded.draft change) now = .error e) :
    (a.act (.save client change now)).store = a.store := by
  rw [act, hheld]
  dsimp only
  rw [hs]

/-! ## What a client holds -/

theorem held_act {x : Act ι} {client : ι} {loaded : Flow}
    (h : (a.act x).held client = some loaded) :
    a.held client = some loaded ∨
      ∃ id, x = .load client id ∧ FlowStore.load a.store id = .ok (some loaded) := by
  cases x with
  | create f =>
    unfold act at h
    dsimp only at h
    split at h <;> exact .inl h
  | load other id =>
    unfold act at h
    dsimp only at h
    split at h
    · next f hf =>
      by_cases hc : client = other
      · subst hc
        obtain rfl : f = loaded := by simpa using h
        exact .inr ⟨id, rfl, hf⟩
      · exact .inl (by simpa [Function.update_of_ne hc] using h)
    · exact .inl h
  | save other change now =>
    unfold act at h
    dsimp only at h
    split at h
    · split at h <;> exact .inl h
    · exact .inl h
  | delete id => exact .inl h

/-- What a client holds it has loaded at some time, and has held ever since. -/
theorem exists_load (s : σ) (acts : List (Act ι)) {client : ι} {loaded : Flow}
    (h : ((start ι s).run acts).held client = some loaded) :
    ∃ before id after, acts = before ++ .load client id :: after ∧
      FlowStore.load ((start ι s).run before).store id = .ok (some loaded) ∧
      ∀ middle rest, after = middle ++ rest →
        ((start ι s).run (before ++ .load client id :: middle)).held client = some loaded := by
  induction acts using List.reverseRecOn with
  | nil => cases h
  | append_singleton xs x ih =>
    obtain hheld | ⟨id, rfl, hload⟩ := held_act (run_snoc (start ι s) xs x ▸ h)
    · obtain ⟨before, id, after, rfl, hload, hever⟩ := ih hheld
      refine ⟨before, id, after ++ [x], by simp, hload, fun middle rest heq => ?_⟩
      obtain rfl | ⟨rest, z, rfl⟩ := List.eq_nil_or_concat' rest
      · obtain rfl : after ++ [x] = middle := by simpa using heq
        simpa using h
      · rw [← List.append_assoc] at heq
        exact hever middle rest (List.append_inj' heq rfl).1
    · refine ⟨xs, id, [], rfl, hload, fun middle rest heq => ?_⟩
      obtain ⟨rfl, -⟩ := List.append_eq_nil_iff.1 heq.symm
      exact h

/-! ## Runs on a lawful store -/

variable [LawfulStore σ]

omit [DecidableEq ι] in
theorem hasFlow_iff (h : LawfulStore.Keeps a.store docs) {id : String} :
    a.HasFlow id ↔ docs id ≠ none :=
  not_congr (FlowStore.load_eq_none h)

/-- **What one step does.** -/
theorem act_change (h : LawfulStore.Keeps a.store docs) (x : Act ι) :
    ∃ docs', LawfulStore.Keeps (a.act x).store docs' ∧ a.Change docs x docs' := by
  cases x with
  | create f =>
    unfold act
    dsimp only
    split
    · next s hs =>
      obtain ⟨hnew, hkeeps⟩ := LawfulStore.create_ok h hs
      exact ⟨_, hkeeps, .create hnew⟩
    · exact ⟨docs, h, .none fun id => by rintro ⟨_, _, _, _, _, _, hx, -⟩; cases hx⟩
  | load client id =>
    refine ⟨docs, ?_, .none fun id => by rintro ⟨_, _, _, _, _, _, hx, -⟩; cases hx⟩
    unfold act
    dsimp only
    split <;> exact h
  | save client change now =>
    unfold act
    dsimp only
    split
    · next loaded hheld =>
      split
      · next s g hs =>
        obtain ⟨hguard, hkeeps⟩ := LawfulStore.save_ok h hs
        obtain ⟨⟨d, hd, hversion⟩, rfl⟩ := Docs.save_eq_ok.1 hguard
        exact ⟨_, hkeeps, .save hheld hd hversion⟩
      · next e hs =>
        refine ⟨docs, h, .none fun id => ?_⟩
        rintro ⟨_, _, _, l, s, g, hx, hl, -, hs'⟩
        cases hx
        obtain rfl : loaded = l := Option.some.inj (hheld.symm.trans hl)
        rw [hs] at hs'
        cases hs'
    · next hnone =>
      refine ⟨docs, h, .none fun id => ?_⟩
      rintro ⟨_, _, _, l, s, g, hx, hl, -⟩
      cases hx
      rw [hnone] at hl
      cases hl
  | delete id => exact ⟨_, LawfulStore.delete_keeps id h, .delete⟩

/-- A sound store stays sound. -/
theorem run_keeps (h : LawfulStore.Keeps a.store docs) (xs : List (Act ι)) :
    ∃ docs', LawfulStore.Keeps (a.run xs).store docs' := by
  induction xs using List.reverseRecOn with
  | nil => exact ⟨docs, h⟩
  | append_singleton xs x ih =>
    obtain ⟨docs', hkeeps⟩ := ih
    obtain ⟨docs'', hkeeps', -⟩ := act_change hkeeps x
    exact ⟨docs'', run_snoc a xs x ▸ hkeeps'⟩

/-- **The version at an id only grows.** The induction is on the run, step by step from its
beginning. -/
theorem run_since {d : Flow} {id : String} (h : LawfulStore.Keeps a.store docs)
    (hd : docs id = some d) (xs : List (Act ι))
    (hback : ∀ before f after, xs = before ++ .create f :: after → f.id = id →
      (a.run before).HasFlow id) :
    ∃ docs', LawfulStore.Keeps (a.run xs).store docs' ∧ Since a xs d id docs' := by
  induction xs using List.reverseRecOn with
  | nil =>
    refine ⟨docs, h, .inr (.inl ⟨hd, fun before x after heq => ?_⟩)⟩
    exact absurd heq.symm (by simp)
  | append_singleton xs x ih =>
    obtain ⟨docs', hkeeps, hsince⟩ := ih fun before f after heq =>
      hback before f (after ++ [x]) (by simp [heq])
    obtain ⟨docs'', hkeeps', hchange⟩ := act_change hkeeps x
    refine ⟨docs'', run_snoc a xs x ▸ hkeeps', hsince.step hchange fun f hf hid => ?_⟩
    exact (hasFlow_iff hkeeps).1 (hback xs f [] (by rw [hf]) hid)

/-- Where no id comes back, what a client holds is a document that it loaded at some time, and it
is known what has become of that document since. -/
theorem exists_since {s₀ : σ} {acts : List (Act ι)} {client : ι} {loaded : Flow}
    (h : LawfulStore.Keeps s₀ docs) (hrevives : ¬ (start ι s₀).Revives acts)
    (hheld : ((start ι s₀).run acts).held client = some loaded) :
    ∃ before after d docs', acts = before ++ .load client loaded.id :: after ∧
      FlowStore.load ((start ι s₀).run before).store loaded.id = .ok (some loaded) ∧
      (∀ middle rest, after = middle ++ rest →
        ((start ι s₀).run (before ++ .load client loaded.id :: middle)).held client
          = some loaded) ∧
      LawfulStore.readBack σ d = .ok loaded ∧
      LawfulStore.Keeps ((start ι s₀).run acts).store docs' ∧
      Since ((start ι s₀).run before) (.load client loaded.id :: after) d loaded.id docs' := by
  obtain ⟨before, id, after, rfl, hload, hever⟩ := exists_load s₀ acts hheld
  obtain ⟨docs₁, hkeeps⟩ := (start ι s₀).run_keeps h before
  obtain ⟨d, hd, hread⟩ := (FlowStore.load_eq_some hkeeps).1 hload
  obtain rfl : id = loaded.id :=
    ((FlowStore.id_of_readBack hread).trans (LawfulStore.id_eq hkeeps hd)).symm
  have hback : ∀ between f rest, .load client loaded.id :: after = between ++ .create f :: rest →
      f.id = loaded.id → (((start ι s₀).run before).run between).HasFlow loaded.id := by
    intro between f rest heq hf
    by_contra hgone
    rw [← run_append, ← hf] at hgone
    refine hrevives ⟨before, between, f, rest, ?_, fun hnone => ?_, hgone⟩
    · rw [heq, List.append_assoc]
    · rw [hf, hload] at hnone
      cases hnone
  obtain ⟨docs', hkeeps', hsince⟩ := run_since hkeeps hd (.load client loaded.id :: after) hback
  rw [← run_append] at hkeeps'
  exact ⟨before, after, d, docs', rfl, hload, hever, hread, hkeeps', hsince⟩

end Scene

/-! ## No lost update -/

section Promise

variable {σ : Type} [FlowStore σ]

/-- **What a save that succeeds has done**, given the run before it: it has replaced the document
that its client had loaded, since when nobody else has saved the flow, and it has counted up the
version by one. -/
structure Replaces {ι : Type} [DecidableEq ι] (s₀ : σ) (acts : List (Act ι)) (client : ι)
    (loaded saved : Flow) (s : σ) : Prop where
  /-- The document in its place was the one that was loaded. -/
  current : FlowStore.load ((Scene.start ι s₀).run acts).store loaded.id = .ok (some loaded)
  /-- Since the client came to hold that document, no save of the flow has succeeded. -/
  undisturbed : ∃ before after, acts = before ++ .load client loaded.id :: after ∧
    FlowStore.load ((Scene.start ι s₀).run before).store loaded.id = .ok (some loaded) ∧
    (∀ middle rest, after = middle ++ rest →
      ((Scene.start ι s₀).run (before ++ .load client loaded.id :: middle)).held client
        = some loaded) ∧
    ∀ middle x rest, after = middle ++ x :: rest →
      ¬ ((Scene.start ι s₀).run (before ++ .load client loaded.id :: middle)).Saves x loaded.id
  /-- The version is the next one. -/
  version : saved.version = loaded.version + 1
  /-- All other flows are what they were. -/
  others : ∀ id, id ≠ loaded.id →
    FlowStore.load s id = FlowStore.load ((Scene.start ι s₀).run acts).store id

/-- **Why a save is refused**: there is no flow with the id, or the one that is there has another
version. -/
def Refuses (s : σ) (loaded : Flow) (e : Failure) : Prop :=
  (FlowStore.load s loaded.id = .ok none ∧ e = .flowNotFound loaded.id) ∨
    ∃ version, version ≠ loaded.version ∧ e = .versionConflict loaded.id loaded.version version ∧
      FlowStore.load s loaded.id ≠ .ok none ∧
      ∀ stored, FlowStore.load s loaded.id = .ok (some stored) → stored.version = version

/-- **What is promised of a save** that a client makes after a run. If it succeeds it has replaced
what the client had loaded, and if it is refused it has changed nothing. Of a flow that the store
can keep more is promised: what was saved is what is loaded afterwards, and there is no other
reason for a refusal than that the flow is gone or was changed. -/
def SavesSafely {ι : Type} [DecidableEq ι] (CanKeep : Flow → Prop) (s₀ : σ) (acts : List (Act ι))
    (client : ι) (loaded : Flow) (change : Flow → Flow) (now : String) : Prop :=
  let a := (Scene.start ι s₀).run acts
  match FlowStore.save a.store (loaded.draft change) now with
  | .ok (s, saved) =>
    (a.act (.save client change now)).store = s ∧ saved = (loaded.draft change).saved now ∧
      Replaces s₀ acts client loaded saved s ∧
      (CanKeep (loaded.draft change) → FlowStore.load s loaded.id = .ok (some saved))
  | .error e =>
    (a.act (.save client change now)).store = a.store ∧
      (CanKeep (loaded.draft change) → Refuses a.store loaded e)

/-- **No lost update**: whatever clients do in whatever order, every save is a safe one, as long
as the store was sound when they began and no id comes back. -/
def NoLostUpdate (σ : Type) [FlowStore σ] [LawfulStore σ] (CanKeep : Flow → Prop) : Prop :=
  ∀ (ι : Type) [DecidableEq ι] (s₀ : σ) (acts : List (Act ι)), FlowStore.All (fun _ => True) s₀ →
    ¬ (Scene.start ι s₀).Revives acts → ∀ client loaded change now,
      ((Scene.start ι s₀).run acts).held client = some loaded →
        SavesSafely CanKeep s₀ acts client loaded change now

variable [LawfulStore σ]

theorem version_of_readBack {d f : Flow} (h : LawfulStore.readBack σ d = .ok f) :
    f.version = d.version := by
  obtain rfl | rfl := LawfulStore.readBack_ok h <;> rfl

/-- A refusal of the guard is one for the reasons that there may be. -/
theorem refuses_of_save {s : σ} {docs : Docs} {loaded f : Flow} {now : String} {e : Failure}
    (h : LawfulStore.Keeps s docs) (hid : f.id = loaded.id) (hversion : f.version = loaded.version)
    (he : docs.save f now = .error e) : Refuses s loaded e := by
  unfold Docs.save at he
  rw [hid, hversion] at he
  split at he
  · next hnone =>
    cases he
    exact .inl ⟨(FlowStore.load_eq_none h).2 hnone, rfl⟩
  · next d hd =>
    split at he
    · cases he
    · next hne =>
      cases he
      refine .inr ⟨d.version, hne, rfl, fun hnone => ?_, fun stored hstored => ?_⟩
      · rw [(FlowStore.load_eq_none h).1 hnone] at hd
        cases hd
      · obtain ⟨d', hd', hread⟩ := (FlowStore.load_eq_some h).1 hstored
        obtain rfl : d = d' := Option.some.inj (hd.symm.trans hd')
        exact version_of_readBack hread

/-- What is put into the documents changes nothing else. -/
theorem load_put_of_ne {s s' : σ} {docs : Docs} {f : Flow} {id : String}
    (h : LawfulStore.Keeps s docs) (h' : LawfulStore.Keeps s' (docs.put f)) (hid : id ≠ f.id) :
    FlowStore.load s' id = FlowStore.load s id := by
  rw [LawfulStore.load_eq id h', LawfulStore.load_eq id h, Docs.put_of_ne hid]

/-- **A store keeps its promise** for the flows that it can take and give back as they were. -/
theorem noLostUpdate_of_fits {CanKeep : Flow → Prop}
    (hfits : ∀ f now, CanKeep f →
      LawfulStore.Fits σ f ∧ LawfulStore.readBack σ (f.saved now) = .ok (f.saved now)) :
    NoLostUpdate σ CanKeep := by
  intro ι _ s₀ acts hsound hrevives client loaded change now hheld
  obtain ⟨docs₀, hkeeps₀, -⟩ := hsound
  obtain ⟨before, after, d, docs, rfl, hload, hever, hread, hkeeps, hsince⟩ :=
    Scene.exists_since hkeeps₀ hrevives hheld
  unfold SavesSafely
  extract_lets a
  split
  · next s saved hs =>
    obtain ⟨hguard, hkept⟩ := LawfulStore.save_ok hkeeps hs
    obtain ⟨⟨stored, hstored, hversion⟩, rfl⟩ := Docs.save_eq_ok.1 hguard
    have hloaded : loaded.version = d.version := version_of_readBack hread
    obtain ⟨hsame, hnobody⟩ := hsince.eq_of_version hstored (hversion.trans hloaded)
    have hcurrent : FlowStore.load a.store loaded.id = .ok (some loaded) :=
      (FlowStore.load_eq_some hkeeps).2 ⟨d, hsame, hread⟩
    refine ⟨Scene.act_save_ok hheld hs, rfl, ⟨hcurrent,
      ⟨before, after, rfl, hload, hever, fun middle x rest heq => ?_⟩, rfl, fun id hid => ?_⟩,
      fun hcan => ?_⟩
    · have := hnobody (.load client loaded.id :: middle) x rest (by rw [heq, List.cons_append])
      rwa [← Scene.run_append] at this
    · exact load_put_of_ne hkeeps hkept hid
    · exact (FlowStore.load_eq_some hkept).2 ⟨_, Docs.put_self, (hfits _ now hcan).2⟩
  · next e hs =>
    refine ⟨Scene.act_save_error hheld hs, fun hcan => ?_⟩
    have hguard := LawfulStore.save_fits now hkeeps (hfits _ now hcan).1
    rw [hs] at hguard
    have hguard : docs.save (loaded.draft change) now = .error e := hguard.symm
    exact refuses_of_save (f := loaded.draft change) hkeeps rfl rfl hguard

end Promise

/-! ## The two stores -/

/-- **The flows that a table can keep**: they can be read back as they are (`Flow.Keepable`: finite
numbers, no integer too long, nothing nested too deeply), and their version can be counted up. -/
structure Table.CanKeep (f : Flow) : Prop where
  /-- The flow can be kept. -/
  keepable : f.Keepable
  /-- The version fits its column, and so does the next one. -/
  counted : Table.fitsColumn f.version = true

/-- A client that holds what is stored, and whose save is a safe one, succeeds and finds what it
has saved. -/
theorem SavesSafely.exists_saved {ι σ : Type} [DecidableEq ι] [FlowStore σ] {CanKeep : Flow → Prop}
    {s₀ : σ} {acts : List (Act ι)} {client : ι} {loaded : Flow} {change : Flow → Flow}
    {now : String} (h : SavesSafely CanKeep s₀ acts client loaded change now)
    (hload : FlowStore.load ((Scene.start ι s₀).run acts).store loaded.id = .ok (some loaded))
    (hcan : CanKeep (loaded.draft change)) :
    ∃ s saved, FlowStore.save ((Scene.start ι s₀).run acts).store (loaded.draft change) now
        = .ok (s, saved) ∧ FlowStore.load s loaded.id = .ok (some saved) := by
  unfold SavesSafely at h
  extract_lets a at h
  split at h
  · next s saved hs => exact ⟨s, saved, hs, h.2.2.2 hcan⟩
  · next e hs =>
    obtain ⟨hnone, -⟩ | ⟨version, hne, -, -, hversion⟩ := h.2 hcan
    · cases hload.symm.trans hnone
    · exact absurd (hversion loaded hload).symm hne

/-- **A table can keep no more**: where a client holds what is stored, its save is a safe one only
if the flow can be kept. -/
theorem Table.canKeep_of_savesSafely {ι : Type} [DecidableEq ι] {CanKeep : Flow → Prop}
    {s₀ : Table} {acts : List (Act ι)} {client : ι} {loaded : Flow} {change : Flow → Flow}
    {now : String} (h : SavesSafely CanKeep s₀ acts client loaded change now)
    (hload : FlowStore.load ((Scene.start ι s₀).run acts).store loaded.id = .ok (some loaded))
    (hcan : CanKeep (loaded.draft change)) : Table.CanKeep (loaded.draft change) := by
  obtain ⟨s, saved, hs, hsaved⟩ := h.exists_saved hload hcan
  refine ⟨?_, Table.fitsColumn_of_save hs⟩
  -- the row is read as what was saved, and whatever is read from a row can be kept
  have hread := (Table.load_of_save hs).symm.trans hsaved
  obtain ⟨g, hg, hsame⟩ := map_eq_ok.1 hread
  obtain rfl : g = saved := Option.some.inj hsame
  obtain ⟨-, rfl, -⟩ := Table.save_ok hs
  exact (Row.keepable_of_flow hg : ((loaded.draft change).saved now).Keepable)

/-- A flow with one node. -/
def plainFlow (version : Int) : Flow where
  id := "flow"
  name := "Flow"
  nodes := [{ id := "node", type := "ApiCall", name := "Node" }]
  version
  createdAt := ""
  updatedAt := ""

/-- A table with one row. -/
def plainTable (version : Int) : Table where
  rows := [Row.ofFlow (plainFlow version)]

/-- The flow under another name. -/
def Flow.renamed (f : Flow) : Flow :=
  { f with name := "Renamed" }

/-- A list in a list in a list, and so on, to a given depth. -/
def Json.tower : Nat → Json
  | 0 => .null
  | n + 1 => .arr [tower n]

/-- The flow with a parameter of its nodes that is nested too deeply to be read back. -/
@[irreducible] def Flow.deepened (f : Flow) : Flow :=
  { f with nodes := f.nodes.map fun n => { n with parameters := [("deep", .tower 197)] } }

/-- **A save that a table does not make safely**, though all numbers are finite and nobody else is
there: what is nested too deeply is saved and cannot be loaded. -/
theorem not_savesSafely_deepened :
    ¬ SavesSafely (fun f => f.isFinite = true) (plainTable 0) [.load () "flow"] () (plainFlow 0)
      Flow.deepened "" := by
  intro h
  have hkeepable := (Table.canKeep_of_savesSafely h rfl (by decide +kernel)).keepable
  have hdeep : ¬ ((plainFlow 0).draft Flow.deepened).toJson.nesting ≤ Json.nestingBound := by
    decide +kernel
  exact hdeep (hkeepable.toJson (by decide +kernel)).shallow

end Workflow
