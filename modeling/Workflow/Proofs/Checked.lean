import Workflow.Proofs.Document

/-!
# What a reading tells

Reading a document does not stop at the first defect, and what is told in the end is put together
out of what is told of each part. `Checked.Tells` says what an outcome amounts to: given a
description of defects, there is a value when no defect answers to it, and otherwise a list, which
is not empty, of just those that do. The description of a whole follows from the descriptions of the
parts, one rule for each way of putting outcomes together, so that a reading is accounted for as it
is written.

A truth value is the one part that is written in many ways. `Checked.IsFlag` lists them.
-/

namespace Workflow

namespace Checked

variable {α β : Type} {x : Checked α} {V W : Defect → Prop} {P : Prop} {es : Entries Json}
  {key : String} {v : Json}

/-! ## Outcomes -/

/-- **All that is wrong is told.** A value is given when there are no such defects; otherwise they
are listed, all of them and no others. -/
inductive Tells : Checked α → (Defect → Prop) → Prop
  /-- Nothing is wrong. -/
  | ok {W : Defect → Prop} (a : α) (h : ∀ d, ¬ W d) : Tells (.ok a) W
  /-- Something is wrong. -/
  | bad {W : Defect → Prop} {ds : List Defect} (hne : ds ≠ []) (h : ∀ d, d ∈ ds ↔ W d) :
      Tells (.bad ds) W

theorem Tells.of_iff (h : x.Tells V) (hVW : ∀ d, V d ↔ W d) : x.Tells W := by
  cases h with
  | ok a h => exact .ok a fun d hd => h d ((hVW d).2 hd)
  | bad hne h => exact .bad hne fun d => (h d).trans (hVW d)

/-- There is a value when nothing is wrong. -/
theorem Tells.exists_ok_iff (h : x.Tells W) : (∃ a, x = .ok a) ↔ ∀ d, ¬ W d := by
  cases h with
  | ok a h => exact ⟨fun _ => h, fun _ => ⟨a, rfl⟩⟩
  | bad hne h =>
    obtain ⟨d, hd⟩ := List.exists_mem_of_ne_nil _ hne
    exact ⟨fun ⟨_, hok⟩ => (nomatch hok), fun hnone => absurd ((h d).1 hd) (hnone d)⟩

/-- One fault, at the place itself. -/
theorem tells_fail {fault : Fault} (h : P) :
    (fail fault : Checked α).Tells fun d => P ∧ d = ⟨[], fault⟩ :=
  .bad (List.cons_ne_nil _ _) fun _ => List.mem_singleton.trans (and_iff_right h).symm

theorem Tells.map (h : x.Tells W) (f : α → β) : (f <$> x).Tells W := by
  cases h with
  | ok a h => exact .ok (f a) h
  | bad hne h => exact .bad hne h

/-- A function and its argument tell what either of them tells. -/
theorem Tells.seq {f : Checked (α → β)} (hf : f.Tells V) (hx : x.Tells W) :
    (f <*> x).Tells fun d => V d ∨ W d := by
  cases hf with
  | ok k hV =>
    cases hx with
    | ok a hW => exact .ok (k a) fun d hd => hd.elim (hV d) (hW d)
    | bad hne hW => exact .bad hne fun d => (hW d).trans (or_iff_right (hV d)).symm
  | bad hne hV =>
    cases hx with
    | ok a hW => exact .bad hne fun d => (hV d).trans (or_iff_left (hW d)).symm
    | bad hne' hW =>
      refine .bad (List.append_ne_nil_of_left_ne_nil hne _) fun d => ?_
      rw [List.mem_append, hV, hW]

theorem Tells.both {y : Checked β} (hx : x.Tells V) (hy : y.Tells W) :
    (both x y).Tells fun d => V d ∨ W d :=
  (hx.map Prod.mk).seq hy

/-- What is told one step further down. -/
theorem Tells.under (h : x.Tells W) (step : Step) :
    (under step x).Tells fun d => ∃ d', W d' ∧ d = d'.under step := by
  cases h with
  | ok a h => exact .ok a fun d ⟨d', hd', _⟩ => h d' hd'
  | bad hne h =>
    refine .bad (mt List.map_eq_nil_iff.1 hne) fun d => List.mem_map.trans ?_
    simp only [h, eq_comm]

/-- **A field with a default** tells what its value tells, if it has one. -/
theorem Tells.field {read : Json → Checked α} {W : Json → Defect → Prop}
    (h : ∀ v, Entries.get? es key = some v → (read v).Tells (W v)) (default : α) :
    (field es key default read).Tells fun d =>
      ∃ v, Entries.get? es key = some v ∧ ∃ d', W v d' ∧ d = d'.under (.key key) := by
  unfold Checked.field
  cases hv : Entries.get? es key with
  | some v =>
    refine ((h v hv).under (.key key)).of_iff fun d => ?_
    simp only [Option.some.injEq, exists_eq_left']
  | none => exact .ok default fun d ⟨v, hv, _⟩ => (nomatch hv)

/-- **The items of a list** tell what each of them tells, at its position. -/
theorem Tells.itemsFrom {read : Json → Checked α} {W : Json → Defect → Prop}
    (h : ∀ v, (read v).Tells (W v)) (i : Nat) (vs : List Json) :
    (itemsFrom read i vs).Tells fun d =>
      ∃ j v, vs[j]? = some v ∧ ∃ d', W v d' ∧ d = d'.under (.index (i + j)) := by
  induction vs generalizing i with
  | nil => exact .ok [] fun d ⟨j, v, hv, _⟩ => by simp at hv
  | cons v vs ih =>
    refine ((((h v).under (.index i)).map List.cons).seq (ih (i + 1))).of_iff fun d => ?_
    constructor
    · rintro (hd | ⟨j, w, hw, hd⟩)
      · exact ⟨0, v, rfl, hd⟩
      · refine ⟨j + 1, w, hw, ?_⟩
        rwa [Nat.add_right_comm] at hd
    · rintro ⟨j, w, hw, hd⟩
      cases j with
      | zero =>
        cases hw
        exact .inl hd
      | succ j =>
        refine .inr ⟨j, w, hw, ?_⟩
        rwa [Nat.add_right_comm]

/-! ## Truth values -/

/-- **The ways to write a truth value.** -/
inductive IsFlag : Json → Prop
  /-- Itself. -/
  | bool (b : Bool) : IsFlag (.bool b)
  /-- One of the numbers for it. -/
  | int {n : Int} (h : n = 0 ∨ n = 1) : IsFlag (.int n)
  /-- The same, as a number of the other kind. -/
  | float {x : Double} {n : Int} (hx : x.toInt? = some n) (h : n = 0 ∨ n = 1) : IsFlag (.float x)
  /-- One of the words for it, in letters of either case. -/
  | word {s : String} (h : String.ofList (s.toList.map Char.toLower) ∈ trueWords ++ falseWords) :
      IsFlag (.str s)

/-- **What is told of a value that is no truth value.** A text could be one, and so could a number
that is not too large and has no fraction. -/
def flagFault : Json → Fault
  | .str _ => .unknownFlag
  | .int n => if fitsWord n then .unknownFlag else .notFlag
  | .float x => if x.toInt?.any isSmall then .unknownFlag else .notFlag
  | _ => .notFlag

theorem isFlag_int {n : Int} : IsFlag (.int n) ↔ n = 0 ∨ n = 1 :=
  ⟨fun h => by cases h; assumption, .int⟩

theorem isFlag_float {y : Double} {n : Int} (hy : y.toInt? = some n) :
    IsFlag (.float y) ↔ n = 0 ∨ n = 1 := by
  refine ⟨fun h => ?_, .float hy⟩
  cases h with
  | float hm h => exact Option.some.inj (hm.symm.trans hy) ▸ h

theorem isFlag_str {s : String} : IsFlag (.str s) ↔
    String.ofList (s.toList.map Char.toLower) ∈ trueWords ++ falseWords :=
  ⟨fun h => by cases h; assumption, .word⟩

theorem tells_flagOfInt {n : Int} (h : IsFlag v ↔ n = 0 ∨ n = 1) :
    (flagOfInt n).Tells fun d => ¬ IsFlag v ∧ d = ⟨[], .unknownFlag⟩ := by
  rw [h]
  unfold flagOfInt
  split
  · next hzero => exact .ok false fun d hd => hd.1 (.inl hzero)
  · next hzero =>
    split
    · next hone => exact .ok true fun d hd => hd.1 (.inr hone)
    · next hone => exact tells_fail fun hn => hn.elim hzero hone

/-- **A truth value** is read when it is written in one of the ways to write one. -/
theorem tells_flag (v : Json) :
    (flag v).Tells fun d => ¬ IsFlag v ∧ d = ⟨[], flagFault v⟩ := by
  cases v with
  | bool b => exact .ok b fun d hd => hd.1 (.bool b)
  | str s =>
    rw [isFlag_str, List.mem_append]
    dsimp only [flag, flagFault]
    split
    · next htrue => exact .ok true fun d hd => hd.1 (.inl (List.contains_iff_mem.1 htrue))
    · next htrue =>
      split
      · next hfalse => exact .ok false fun d hd => hd.1 (.inr (List.contains_iff_mem.1 hfalse))
      · next hfalse =>
        refine tells_fail fun h => h.elim (fun h => htrue ?_) fun h => hfalse ?_ <;>
          exact List.contains_iff_mem.2 h
  | int n =>
    dsimp only [flag, flagFault]
    split
    · exact tells_flagOfInt isFlag_int
    · next hfits =>
      refine tells_fail fun h => hfits ?_
      obtain rfl | rfl := isFlag_int.1 h <;> decide
  | float y =>
    dsimp only [flag, flagFault]
    cases hy : y.toInt? with
    | some n =>
      dsimp only [Option.any]
      split
      · exact tells_flagOfInt (isFlag_float hy)
      · next hsmall =>
        refine tells_fail fun h => hsmall ?_
        obtain rfl | rfl := (isFlag_float hy).1 h <;> decide
    | none =>
      refine tells_fail fun h => ?_
      cases h with
      | float hn => cases hy.symm.trans hn
  | null | arr _ | obj _ => exact tells_fail nofun

end Checked

end Workflow
