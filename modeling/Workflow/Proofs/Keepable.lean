import Mathlib.Data.Nat.Digits.Defs
import Mathlib.Logic.Basic
import Workflow.Json.Map
import Workflow.Proofs.Document
import Workflow.Proofs.Entries
import Workflow.Proofs.Outcome
import Workflow.Proofs.Schema.Values

/-!
# Values that can be kept

A value comes back from a table as it was when all its numbers are finite, when none of its integers
is too long to be read, and when the document in which it stands is not nested too deeply.
`Json.Keepable` bounds how deeply the value itself may be nested, and what maps of such values are
made of, `Entries.All` follows through all that is done to a map.
-/

namespace Workflow

/-! ## Maps of values -/

namespace Entries

variable {κ α : Type} {P : α → Prop}

/-- Whether all values of a map have a property. -/
def All (P : α → Prop) (m : List (κ × α)) : Prop :=
  ∀ e ∈ m, P e.2

instance [DecidablePred P] (m : List (κ × α)) : Decidable (All P m) :=
  inferInstanceAs (Decidable (∀ e ∈ m, P e.2))

/-- An empty map has nothing in it that could lack the property. -/
theorem all_nil : All P ([] : List (κ × α)) :=
  nofun

/-- The way in which maps are taken apart: the first value, and the others. -/
theorem all_cons {e : κ × α} {m : List (κ × α)} : All P (e :: m) ↔ P e.2 ∧ All P m :=
  List.forall_mem_cons

variable {es more : Entries α} {key : String} {v : α}

/-- What is looked up has the property. -/
theorem All.get? (h : All P es) (hv : Entries.get? es key = some v) : P v :=
  h _ (mem_of_get? hv)

/-- A value with the property may be put in. -/
theorem All.put (h : All P es) (hv : P v) : All P (Entries.put es key v) := by
  induction es with
  | nil => exact all_cons.2 ⟨hv, all_nil⟩
  | cons e es ih =>
    obtain ⟨he, hes⟩ := all_cons.1 h
    unfold Entries.put
    split
    · exact all_cons.2 ⟨hv, hes⟩
    · exact all_cons.2 ⟨he, ih hes⟩

theorem All.putNew (h : All P es) (hv : P v) : All P (Entries.putNew es key v) := by
  unfold Entries.putNew
  split
  · exact h
  · exact h.put hv

/-- The same for many values that are put in only under keys that are new. -/
theorem All.foldl_putNew (h : All P es) (hmore : All P more) :
    All P (more.foldl (fun es e => Entries.putNew es e.1 e.2) es) := by
  induction more generalizing es with
  | nil => exact h
  | cons e more ih =>
    obtain ⟨he, hmore⟩ := all_cons.1 hmore
    exact ih (h.putNew he) hmore

/-- **A merge** of two maps has the values of the one and of the other. -/
theorem All.merge (h : All P es) (hmore : All P more) : All P (Entries.merge es more) := by
  unfold Entries.merge
  induction more generalizing es with
  | nil => exact h
  | cons e more ih =>
    obtain ⟨he, hmore⟩ := all_cons.1 hmore
    exact ih (h.put he) hmore

/-- Where all values are changed, it is asked of those that they are changed to. -/
theorem all_mapValues {β : Type} {f : β → α} {es : Entries β} :
    All P (mapValues f es) ↔ All (fun v => P (f v)) es :=
  List.forall_mem_map

end Entries

namespace KeyedValues

open Entries

variable {α : Type} {P : α → Prop} {m more : KeyedValues α} {key : Json} {v : α}

/-- A value with the property may be put in, whatever its key is. -/
theorem all_put (h : All P m) (hv : P v) : All P (put m key v) := by
  induction m with
  | nil => exact all_cons.2 ⟨hv, all_nil⟩
  | cons e m ih =>
    obtain ⟨he, hm⟩ := all_cons.1 h
    unfold put
    split
    · exact all_cons.2 ⟨hv, hm⟩
    · exact all_cons.2 ⟨he, ih hm⟩

/-- A merge has no other values than the two maps. -/
theorem all_merge (h : All P m) (hmore : All P more) : All P (merge m more) := by
  unfold merge
  induction more generalizing m with
  | nil => exact h
  | cons e more ih =>
    obtain ⟨he, hmore⟩ := all_cons.1 hmore
    exact ih (all_put h he) hmore

/-- Keys that are texts are keys like any others. -/
theorem all_ofEntries {es : Entries α} (h : All P es) : All P (ofEntries es) := by
  intro e he
  obtain ⟨entry, hentry, rfl⟩ := List.mem_map.1 he
  exact h entry hentry

/-- The map whose keys are texts has no other values. -/
theorem all_of_checked {es : Entries α} (h : All P m) (hes : checked m = .ok es) : All P es := by
  unfold checked at hes
  split at hes
  · cases hes
    refine Entries.All.merge all_nil fun e he => ?_
    obtain ⟨entry, hentry, hkey⟩ := List.mem_filterMap.1 he
    obtain ⟨key, -, rfl⟩ := Option.map_eq_some_iff.1 hkey
    exact h entry hentry
  · cases hes

end KeyedValues

/-! ## Values -/

namespace Json

/-! What is said of the items of a list and of the members of an object is said of each of them. -/

theorem itemsFinite_iff {vs : List Json} :
    itemsFinite vs = true ↔ ∀ v ∈ vs, v.isFinite = true := by
  induction vs with
  | nil => simp [itemsFinite]
  | cons v vs ih => simp [itemsFinite, ih]

theorem membersFinite_iff {es : Entries Json} :
    membersFinite es = true ↔ Entries.All (fun v => v.isFinite = true) es := by
  induction es with
  | nil => simp [membersFinite, Entries.all_nil]
  | cons e es ih => simp [membersFinite, ih, Entries.all_cons]

theorem itemsLegible_iff {vs : List Json} :
    itemsLegible vs = true ↔ ∀ v ∈ vs, v.isLegible = true := by
  induction vs with
  | nil => simp [itemsLegible]
  | cons v vs ih => simp [itemsLegible, ih]

theorem membersLegible_iff {es : Entries Json} :
    membersLegible es = true ↔ Entries.All (fun v => v.isLegible = true) es := by
  induction es with
  | nil => simp [membersLegible, Entries.all_nil]
  | cons e es ih => simp [membersLegible, ih, Entries.all_cons]

theorem itemsNesting_le_iff {vs : List Json} {room : Nat} :
    itemsNesting vs ≤ room ↔ ∀ v ∈ vs, v.nesting ≤ room := by
  induction vs with
  | nil => simp [itemsNesting]
  | cons v vs ih => simp only [itemsNesting, Nat.max_le, ih, List.forall_mem_cons]

theorem membersNesting_le_iff {es : Entries Json} {room : Nat} :
    membersNesting es ≤ room ↔ Entries.All (fun v => v.nesting ≤ room) es := by
  induction es with
  | nil => simp [membersNesting, Entries.all_nil]
  | cons e es ih => simp only [membersNesting, Nat.max_le, ih, Entries.all_cons]

/-- **A value that can be kept** where there is room for so many lists and objects inside one
another. -/
structure Keepable (room : Nat) (v : Json) : Prop where
  /-- All its numbers are finite. -/
  finite : v.isFinite = true
  /-- None of its integers is too long. -/
  legible : v.isLegible = true
  /-- It is not nested more deeply than there is room for. -/
  shallow : v.nesting ≤ room

theorem keepable_iff {room : Nat} {v : Json} :
    v.Keepable room ↔ v.isFinite = true ∧ v.isLegible = true ∧ v.nesting ≤ room :=
  ⟨fun h => ⟨h.finite, h.legible, h.shallow⟩, fun h => ⟨h.1, h.2.1, h.2.2⟩⟩

instance (room : Nat) : DecidablePred (Keepable room) :=
  fun _ => decidable_of_iff _ keepable_iff.symm

variable {room : Nat}

/-- More room does no harm. -/
theorem Keepable.mono {more : Nat} {v : Json} (h : Keepable room v) (hle : room ≤ more) :
    Keepable more v :=
  { h with shallow := Nat.le_trans h.shallow hle }

/-- **An integer that fits a word** is not too long. -/
theorem isLegible_int {n : Int} (h : Checked.fitsWord n = true) : (int n).isLegible = true := by
  have hlength (k : Nat) (hk : k < 10 ^ 19) : (toString k).length ≤ 19 :=
    Nat.repr_length k 19 (by decide) hk
  obtain ⟨hlow, hhigh⟩ := Bool.and_eq_true_iff.1 h
  have hlow : -0x8000000000000000 ≤ n := of_decide_eq_true hlow
  have hhigh : n < 0x8000000000000000 := of_decide_eq_true hhigh
  refine decide_eq_true ?_
  show (toString n).length ≤ 4300
  cases n with
  | ofNat k =>
    rw [Int.ofNat_eq_natCast] at hhigh
    exact Nat.le_trans (hlength k (by omega)) (by decide)
  | negSucc k =>
    have hsign : toString (Int.negSucc k) = "-" ++ toString (k + 1) := rfl
    rw [hsign, String.length_append]
    exact Nat.le_trans (Nat.add_le_add_left (hlength (k + 1) (by omega)) 1) (by decide)

/-! ### Values without anything inside -/

theorem keepable_str (s : String) : Keepable room (.str s) :=
  ⟨rfl, rfl, Nat.zero_le _⟩

theorem keepable_null : Keepable room .null :=
  ⟨rfl, rfl, Nat.zero_le _⟩

theorem keepable_bool (b : Bool) : Keepable room (.bool b) :=
  ⟨rfl, rfl, Nat.zero_le _⟩

theorem keepable_float {x : Double} (h : x.isFinite = true) : Keepable room (.float x) :=
  ⟨h, rfl, Nat.zero_le _⟩

theorem keepable_ofText? (s : Option String) : Keepable room (ofText? s) := by
  cases s with
  | none => exact keepable_null
  | some s => exact keepable_str s

/-! ### Lists and objects -/

/-- **A list can be kept** where there is room for one level more than its items need. -/
theorem keepable_arr {vs : List Json} :
    Keepable (room + 1) (.arr vs) ↔ ∀ v ∈ vs, Keepable room v := by
  simp only [keepable_iff, isFinite, isLegible, nesting, Nat.add_le_add_iff_right, itemsFinite_iff,
    itemsLegible_iff, itemsNesting_le_iff, forall_and]

/-- **An object can be kept** where there is room for one level more than its members need. -/
theorem keepable_obj {es : Entries Json} :
    Keepable (room + 1) (.obj es) ↔ Entries.All (Keepable room) es := by
  simp only [keepable_iff, isFinite, isLegible, nesting, Nat.add_le_add_iff_right,
    membersFinite_iff, membersLegible_iff, membersNesting_le_iff, Entries.All, forall_and]

/-- Without room there is no place for a list. -/
theorem not_keepable_zero_arr {vs : List Json} : ¬ Keepable 0 (.arr vs) :=
  fun h => absurd h.shallow (Nat.not_succ_le_zero _)

/-- Nor is there for an object. -/
theorem not_keepable_zero_obj {es : Entries Json} : ¬ Keepable 0 (.obj es) :=
  fun h => absurd h.shallow (Nat.not_succ_le_zero _)

/-! ### What is written -/

/-- **What is kept of a value** has no number in it that is not finite. -/
theorem isFinite_written (v : Json) : v.written.isFinite = true := by
  induction v using Json.induct with
  | null | bool | int | str => rfl
  | float x =>
    rw [written]
    split
    · next h => exact h
    · rfl
  | arr vs ih =>
    rw [written_arr, isFinite, itemsFinite_iff, writtenItems_eq_map]
    exact List.forall_mem_map.2 ih
  | obj es ih =>
    rw [written_obj, isFinite, membersFinite_iff, writtenMembers_eq_mapValues,
      Entries.all_mapValues]
    exact fun e he => ih e.1 e.2 he

/-! ### Maps out of values -/

/-- What is met when a value is walked through can be kept where there is room for one level
less. -/
theorem keepable_of_iterated {v : Json} {items : List Json} (h : v.Keepable (room + 1))
    (hitems : v.iterated? = some items) : ∀ w ∈ items, w.Keepable room := by
  intro w hw
  cases v with
  | arr vs =>
    cases hitems
    exact keepable_arr.1 h w hw
  | str s =>
    cases hitems
    obtain ⟨c, -, rfl⟩ := List.mem_map.1 hw
    exact keepable_str _
  | obj es =>
    cases hitems
    obtain ⟨e, -, rfl⟩ := List.mem_map.1 hw
    exact keepable_str _
  | null | bool | int | float => cases hitems

/-- The second half of a pair can be kept where the pair can. -/
theorem keepable_of_pairAt {v key w : Json} {i : Nat} (h : v.Keepable room)
    (hpair : pairAt i v = .ok (key, w)) : w.Keepable room := by
  unfold pairAt at hpair
  split at hpair
  · next hitems =>
    split at hpair
    · cases hpair
      exact keepable_of_iterated (h.mono (Nat.le_succ room)) hitems w (by simp)
    · cases hpair
  · cases hpair
  · cases hpair

/-- So can the second halves of all pairs of a list. -/
theorem all_of_pairsFrom {vs : List Json} {i : Nat} {m : List (Json × Json)}
    (h : ∀ v ∈ vs, v.Keepable room) (hm : pairsFrom i vs = .ok m) :
    Entries.All (Keepable room) m := by
  induction vs generalizing i m with
  | nil =>
    cases hm
    exact Entries.all_nil
  | cons v vs ih =>
    obtain ⟨hv, hvs⟩ := List.forall_mem_cons.1 h
    obtain ⟨pair, hpair, hm⟩ := Outcome.bind_eq_ok.1 hm
    obtain ⟨rest, hrest, hm⟩ := Outcome.bind_eq_ok.1 hm
    cases Outcome.pure_eq_ok.1 hm
    exact Entries.all_cons.2 ⟨keepable_of_pairAt hv hpair, ih hvs hrest⟩

/-- **The map that a value is** has values that can be kept where there is room for one level
less. -/
theorem Keepable.toMap {v : Json} {m : KeyedValues Json} (h : v.Keepable (room + 1))
    (hm : v.toMap = .ok m) : Entries.All (Keepable room) m := by
  unfold Json.toMap at hm
  split at hm
  · cases hm
    exact KeyedValues.all_ofEntries (keepable_obj.1 h)
  -- the values of pairs stand one level deeper than the pairs
  · split at hm
    · next items hitems =>
      obtain ⟨pairs, hpairs, hm⟩ := Outcome.bind_eq_ok.1 hm
      cases Outcome.pure_eq_ok.1 hm
      refine KeyedValues.all_merge Entries.all_nil ?_
      exact all_of_pairsFrom (keepable_of_iterated h hitems) hpairs
    · cases hm

end Json

end Workflow
