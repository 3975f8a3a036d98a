import Mathlib.Data.PFun
import Workflow.Proofs.Equality
import Workflow.Proofs.Naming

/-!
# Counting to a free number

An identifier that is taken gets a number, and so does the title of a transform that is put between
two nodes. The number is found by counting: a number whose candidate is free is the one, and
otherwise the next number is looked at. Nothing in this loop bounds it (`Naming.countFrom`), and
where every number is taken it does not end (`Naming.countFrom_dom`).

It ends where the taken identifiers are a list, at the least number that is free
(`Naming.CountsTo`), since the candidates are different from each other and a list cannot hold all
of them. `Naming.firstFree` makes use of that and looks at as many candidates only as may be taken;
`Naming.countsTo_firstFree` says that it comes to the same number. How far the loop may have to
count follows by the same argument from what it has passed (`Naming.CountsTo.sub_le_card`). An
identifier that is itself taken is none of its candidates, which saves one number.
-/

namespace Workflow

namespace Naming

/-! ## The loop -/

/-- **One turn**: a number that is free is the answer, and otherwise the next one is looked at. -/
def turn (isTaken : Nat → Bool) (n : Nat) : Nat ⊕ Nat :=
  if isTaken n then .inr (n + 1) else .inl n

/-- **Counting from a number on**, turn after turn and without a bound. There is no answer where
that does not end. -/
def countFrom (isTaken : Nat → Bool) : Nat →. Nat :=
  PFun.fix fun n => Part.some (turn isTaken n)

section Loop

variable {isTaken : Nat → Bool} {start n k : Nat}

theorem turn_eq_inl : turn isTaken k = .inl n ↔ isTaken k = false ∧ n = k := by
  cases h : isTaken k <;> simp [turn, h, eq_comm]

theorem turn_eq_inr : turn isTaken k = .inr n ↔ isTaken k = true ∧ n = k + 1 := by
  cases h : isTaken k <;> simp [turn, h, eq_comm]

/-- A count passes what is taken, by induction back from the number that it is to come to. -/
theorem mem_countFrom_of_forall (hle : start ≤ n)
    (htaken : ∀ k, start ≤ k → k < n → isTaken k = true) (hfree : isTaken n = false) :
    n ∈ countFrom isTaken start := by
  induction hle using Nat.decreasingInduction with
  | self => exact PFun.fix_stop (Part.mem_some_iff.2 (turn_eq_inl.2 ⟨hfree, rfl⟩).symm)
  | of_succ k hk ih =>
    refine PFun.mem_fix_iff.2 (.inr ⟨k + 1, Part.mem_some_iff.2 ?_, ?_⟩)
    · exact (turn_eq_inr.2 ⟨htaken k le_rfl hk, rfl⟩).symm
    · exact ih fun j hj => htaken j (Nat.le_of_succ_le hj)

/-- **A count that ends** has come to the least number that is free, and it ends if there is one. -/
theorem mem_countFrom :
    n ∈ countFrom isTaken start ↔ IsLeast {k | start ≤ k ∧ isTaken k = false} n := by
  constructor
  · intro h
    -- the induction is on the turns that are left
    refine PFun.fixInduction' h (fun k hturn => ?_) (fun k next _ hturn ih => ?_)
    · obtain ⟨hfree, rfl⟩ := turn_eq_inl.1 (Part.mem_some_iff.1 hturn).symm
      exact ⟨⟨le_rfl, hfree⟩, fun j hj => hj.1⟩
    · obtain ⟨htaken, rfl⟩ := turn_eq_inr.1 (Part.mem_some_iff.1 hturn).symm
      obtain ⟨⟨hle, hfree⟩, hleast⟩ := ih
      refine ⟨⟨Nat.le_of_succ_le hle, hfree⟩, fun j hj => hleast ⟨?_, hj.2⟩⟩
      refine Nat.lt_of_le_of_ne hj.1 ?_
      rintro rfl
      exact absurd htaken (by simp [hj.2])
  · rintro ⟨⟨hle, hfree⟩, hleast⟩
    refine mem_countFrom_of_forall hle (fun k hk hlt => ?_) hfree
    by_contra hnot
    exact Nat.not_le_of_lt hlt (hleast ⟨hk, by simpa using hnot⟩)

/-- **A count ends** exactly where there is something to come to. -/
theorem countFrom_dom : (countFrom isTaken start).Dom ↔ ∃ k, start ≤ k ∧ isTaken k = false := by
  rw [Part.dom_iff_mem]
  constructor
  · rintro ⟨n, hn⟩
    exact ⟨n, (mem_countFrom.1 hn).1⟩
  · intro hex
    exact ⟨Nat.find hex, mem_countFrom.2 (Nat.isLeast_find hex)⟩

end Loop

/-! ## Counting through candidates -/

/-- **A count of candidates ends at a number.** -/
structure CountsTo (candidate : Nat → String) (taken : List String) (start n : Nat) : Prop where
  /-- The loop comes to it. -/
  ends : n ∈ countFrom (fun k => taken.contains (candidate k)) start
  /-- It is the least one whose candidate is not taken. -/
  least : IsLeast {k | start ≤ k ∧ candidate k ∉ taken} n

section Candidates

variable {candidate : Nat → String} {taken : List String} {start n : Nat}

/-- **The search and the loop come to one number.** -/
theorem countsTo_firstFree (h : Function.Injective candidate) {bound : Nat}
    (hbound : taken.length ≤ bound) (start : Nat) :
    CountsTo candidate taken start
      (firstFree (fun k => taken.contains (candidate k)) start bound) where
  ends := by
    rw [mem_countFrom]
    simpa using isLeast_firstFree h hbound start
  least := isLeast_firstFree h hbound start

/-- **A count passes no more numbers** than there are names among which the taken candidates
are. -/
theorem CountsTo.sub_le_card (hcount : CountsTo candidate taken start n)
    (h : Function.Injective candidate) {names : Finset String}
    (hnames : ∀ k, candidate k ∈ taken → candidate k ∈ names) : n - start ≤ names.card := by
  refine Naming.sub_le_card h fun k hk hlt => hnames k ?_
  by_contra hfree
  exact Nat.not_le_of_lt hlt (hcount.least.2 ⟨hk, hfree⟩)

end Candidates

/-! ## Identifiers and titles -/

variable {base : String} {taken : List String}

theorem withNumber_ne (base : String) (n : Nat) : withNumber base n ≠ base := by
  intro h
  have hlength := congrArg String.length h
  rw [withNumber, String.length_append, String.length_append] at hlength
  have hbar : "_".length = 1 := rfl
  omega

theorem numbered_of_not_mem (h : base ∉ taken) : numbered base taken = base := by
  rw [numbered, if_neg (by simpa using h)]

/-- **An identifier that is taken** gets a number that is at most one more than there are
identifiers taken. -/
theorem exists_numbered (h : base ∈ taken) :
    ∃ n, numbered base taken = withNumber base n ∧ CountsTo (withNumber base) taken 2 n ∧
      n ≤ taken.toFinset.card + 1 := by
  have hcount := countsTo_firstFree (withNumber_injective base) (le_refl taken.length) 2
  refine ⟨_, by rw [numbered, if_pos (by simpa using h)], hcount, ?_⟩
  -- the identifier is taken too, and is no candidate
  have hpassed := hcount.sub_le_card (withNumber_injective base) fun k hk =>
    Finset.mem_erase.2 ⟨withNumber_ne base k, List.mem_toFinset.2 hk⟩
  rw [Finset.card_erase_of_mem (List.mem_toFinset.2 h)] at hpassed
  have hpos : 0 < taken.toFinset.card := Finset.card_pos.2 ⟨base, List.mem_toFinset.2 h⟩
  omega

/-- **Among values of any form** only the texts take an identifier. -/
theorem numberedValue_str (base : String) (values : List Json) :
    numberedValue (.str base) values =
      .ok (.str (numbered base (values.filterMap Json.text?))) := by
  have htext : values.any (Json.same (.str base)) = true ↔
      base ∈ values.filterMap Json.text? := by
    simp only [List.any_eq_true, Json.same_str_iff, exists_eq_right, List.mem_filterMap]
    constructor
    · intro h
      exact ⟨_, h, rfl⟩
    · rintro ⟨v, hv, htext⟩
      cases v with
      | str s => exact Option.some.inj htext ▸ hv
      | _ => cases htext
  have hkey : (!(Json.str base).isKey) = false := rfl
  unfold numberedValue
  rw [hkey]
  by_cases h : base ∈ values.filterMap Json.text?
  · -- the two searches have other bounds, and both come to the least number
    have hcount := countsTo_firstFree (withNumber_injective base)
      (List.length_filterMap_le Json.text? values) 2
    obtain ⟨n, hn, hcount', -⟩ := exists_numbered h
    rw [hn, hcount'.least.unique hcount.least]
    simp only [htext.2 h]
    rfl
  · rw [numbered_of_not_mem h]
    simp only [Bool.eq_false_iff.2 (mt htext.1 h)]
    rfl

end Naming

open Naming

/-- **The title of a transform** gets a number that is at most one more than there are nodes. -/
theorem Flow.exists_freeName (f : Flow) (title : String) :
    ∃ n, f.freeName title = title ++ " " ++ toString n ∧
      CountsTo (fun k => title ++ " " ++ toString k) (f.nodes.map Node.name) 1 n ∧
      n ≤ f.nodes.length + 1 := by
  have hdistinct := append_toString_injective (title ++ " ")
  obtain ⟨n, hn, hcount⟩ : ∃ n, f.freeName title = title ++ " " ++ toString n ∧
      CountsTo (fun k => title ++ " " ++ toString k) (f.nodes.map Node.name) 1 n :=
    ⟨_, rfl, countsTo_firstFree hdistinct (List.length_map Node.name).le 1⟩
  refine ⟨n, hn, hcount, ?_⟩
  have hpassed := hcount.sub_le_card hdistinct fun _ hk => List.mem_toFinset.2 hk
  have hnodes := List.toFinset_card_le (f.nodes.map Node.name)
  rw [List.length_map] at hnodes
  omega

/-- **Numbers are counted up to the least one that is free.** An identifier that is not taken stays
as it is. One that is taken gets a number from two on, to which an unbounded count comes as well,
and which is at most one more than there are identifiers taken. Values of another form that are
taken do not matter. The title of a transform gets a number from one on in the same way, at most one
more than there are nodes. -/
theorem counts_to_least (base title : String) (taken : List String) (values : List Json)
    (f : Flow) :
    (numbered base taken ∉ taken ∧
      (base ∉ taken → numbered base taken = base) ∧
      (base ∈ taken → ∃ n, numbered base taken = withNumber base n ∧
        CountsTo (withNumber base) taken 2 n ∧ n ≤ taken.toFinset.card + 1)) ∧
    numberedValue (.str base) values =
      .ok (.str (numbered base (values.filterMap Json.text?))) ∧
    ∃ n, f.freeName title = title ++ " " ++ toString n ∧
      CountsTo (fun k => title ++ " " ++ toString k) (f.nodes.map Node.name) 1 n ∧
      n ≤ f.nodes.length + 1 :=
  ⟨⟨numbered_not_mem base taken, numbered_of_not_mem, exists_numbered⟩,
    numberedValue_str base values, f.exists_freeName title⟩

/-- An identifier that is free and one that is taken, along with its first number. -/
theorem counts_to_least_sampleFetch :
    ("fetch" ∉ ["load"] ∧ numbered "fetch" ["load"] = "fetch") ∧
    "fetch" ∈ ["fetch_2", "fetch"] ∧
    ∃ n, numbered "fetch" ["fetch_2", "fetch"] = withNumber "fetch" n ∧
      CountsTo (withNumber "fetch") ["fetch_2", "fetch"] 2 n ∧
      n ≤ ["fetch_2", "fetch"].toFinset.card + 1 := by
  have hfree : "fetch" ∉ ["load"] := by decide
  have htaken : "fetch" ∈ ["fetch_2", "fetch"] := by decide
  exact ⟨⟨hfree, (counts_to_least "fetch" "Merge" ["load"] [] default).1.2.1 hfree⟩, htaken,
    (counts_to_least "fetch" "Merge" ["fetch_2", "fetch"] [] default).1.2.2 htaken⟩

end Workflow
