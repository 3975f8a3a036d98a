import Mathlib.Algebra.Group.Nat.Defs
import Mathlib.Data.List.Forall2
import Workflow.Flow.Edit
import Workflow.Proofs.Document
import Workflow.Proofs.Schema.Values

/-!
# Equality of values

`Json.same` compares numbers by value, whatever kind of number they are, and objects without
regard to the order of their keys. It is transitive all the same (`Json.same_trans`): values that
are neither lists nor objects are equal when they stand for the same thing (`Json.scalar?`), and
the one point where this takes an argument is that a double that is an integer is the only one
that is, up to the sign of zero (`Double.same_of_toInt?`).

The value that is undefined equals nothing, not even itself. `Json.Alike` is what is left of
equality when a value that nobody has touched counts as equal to what it was.
-/

namespace Workflow

/-! ## Doubles -/

namespace Double

/-- What a double that is an integer has to do with its significand and its exponent. -/
theorem mul_eq_of_toInt? {negative : Bool} {m : Nat} {e n : Int} {h : Fits m e}
    (hn : (finite negative m e h).toInt? = some n) :
    n.natAbs * 2 ^ (-e).toNat = m * 2 ^ e.toNat ∧ (if negative then n ≤ 0 else 0 ≤ n) := by
  have hpos : (0 : Int) < (2 ^ (-e).toNat : Nat) := Int.natCast_pos.2 (Nat.two_pow_pos _)
  have hwhole : ∀ {z : Int}, (if z % (2 ^ (-e).toNat : Nat) = 0
      then some (z / (2 ^ (-e).toNat : Nat)) else none) = some n →
      n * (2 ^ (-e).toNat : Nat) = z := by
    intro z hz
    split at hz
    · next hmod =>
      rw [← Option.some.inj hz]
      exact Int.ediv_mul_cancel (Int.dvd_of_emod_eq_zero hmod)
    · cases hz
  cases negative with
  | false =>
    have hmul : n * (2 ^ (-e).toNat : Nat) = ((m * 2 ^ e.toNat : Nat) : Int) := hwhole hn
    refine ⟨by simpa [Int.natAbs_mul] using congrArg Int.natAbs hmul, ?_⟩
    exact Int.nonneg_of_mul_nonneg_left (hmul ▸ Int.natCast_nonneg _) hpos
  | true =>
    have hmul : n * (2 ^ (-e).toNat : Nat) = -((m * 2 ^ e.toNat : Nat) : Int) := hwhole hn
    refine ⟨by simpa [Int.natAbs_mul] using congrArg Int.natAbs hmul, ?_⟩
    have hneg : -n * (2 ^ (-e).toNat : Nat) = ((m * 2 ^ e.toNat : Nat) : Int) := by
      rw [Int.neg_mul, hmul, Int.neg_neg]
    exact Int.neg_nonneg.1 (Int.nonneg_of_mul_nonneg_left (hneg ▸ Int.natCast_nonneg _) hpos)

/-- Two doubles of one magnitude have one significand and one exponent. -/
theorem eq_of_mul_eq {m m' : Nat} {e e' : Int} (hm : m < 2 ^ 53) (he : -1074 ≤ e)
    (h' : 2 ^ 52 ≤ m' ∨ e' = -1074) (hle : e ≤ e')
    (heq : m * 2 ^ (e.toNat + (-e').toNat) = m' * 2 ^ (e'.toNat + (-e).toNat)) :
    m = m' ∧ e = e' := by
  obtain ⟨d, hd⟩ : ∃ d : Nat, e' = e + d := ⟨(e' - e).toNat, by omega⟩
  have hexp : e'.toNat + (-e).toNat = d + (e.toNat + (-e').toNat) := by omega
  rw [hexp, Nat.pow_add 2 d, ← Nat.mul_assoc] at heq
  have hmm : m = m' * 2 ^ d := Nat.eq_of_mul_eq_mul_right (Nat.two_pow_pos _) heq
  cases d with
  | zero => exact ⟨by simpa using hmm, by omega⟩
  | succ d =>
    have hlarge : 2 ^ 52 ≤ m' := h'.resolve_right (by omega)
    have htwo : 2 ≤ 2 ^ (d + 1) := by
      rw [Nat.pow_succ]
      exact Nat.le_mul_of_pos_left 2 (Nat.two_pow_pos d)
    have hprod : 2 ^ 52 * 2 ≤ m' * 2 ^ (d + 1) := Nat.mul_le_mul hlarge htwo
    omega

/-- **A double that is an integer** is the only one that is, up to the sign of zero. -/
theorem same_of_toInt? {x y : Double} {n : Int} (hx : x.toInt? = some n)
    (hy : y.toInt? = some n) : x.same y = true := by
  cases x with
  | nan => cases hx
  | infinity => cases hx
  | finite s m e h =>
    cases y with
    | nan => cases hy
    | infinity => cases hy
    | finite s' m' e' h' =>
      obtain ⟨hm, hsign⟩ := mul_eq_of_toInt? hx
      obtain ⟨hm', hsign'⟩ := mul_eq_of_toInt? hy
      have heq : m * 2 ^ (e.toNat + (-e').toNat) = m' * 2 ^ (e'.toNat + (-e).toNat) := by
        rw [Nat.pow_add, ← Nat.mul_assoc, ← hm, Nat.pow_add, ← Nat.mul_assoc, ← hm']
        exact Nat.mul_right_comm ..
      obtain ⟨rfl, rfl⟩ : m = m' ∧ e = e' := by
        obtain hle | hle := Int.le_total e e'
        · exact eq_of_mul_eq h.1 h.2.1 h'.2.2.2 hle heq
        · exact (eq_of_mul_eq h'.1 h'.2.1 h.2.2.2 hle heq.symm).imp Eq.symm Eq.symm
      by_cases hzero : m = 0
      · simp [same, isZero, hzero]
      · have hn : n ≠ 0 := by
          rintro rfl
          rw [Int.natAbs_zero, Nat.zero_mul] at hm
          obtain hm | hpow := Nat.mul_eq_zero.1 hm.symm
          · exact hzero hm
          · exact absurd hpow (Nat.ne_of_gt (Nat.two_pow_pos _))
        have hs : s = s' := by
          cases s <;> cases s' <;> simp at hsign hsign' <;> first | rfl | omega
        simp [same, hs]

theorem toInt?_of_isZero {x : Double} (h : x.isZero = true) : x.toInt? = some 0 := by
  cases x with
  | nan => cases h
  | infinity => cases h
  | finite s m e hfits =>
    have hm : m = 0 := by simpa [isZero] using h
    simp [toInt?, ratio, hm]

end Double

/-! ## Values -/

namespace Json

/-- What a value that is neither a list nor an object stands for, as far as equality goes. -/
inductive Scalar where
  /-- Null. -/
  | null
  /-- A text. -/
  | text (s : String)
  /-- An integer, of whatever kind, or a truth value. -/
  | whole (n : Int)
  /-- A number that is no integer. -/
  | other (x : Double)

/-- **What a value stands for**; lists and objects stand for themselves, and the undefined value
for nothing. -/
def scalar? : Json → Option Scalar
  | .null => some .null
  | .bool b => some (.whole (if b then 1 else 0))
  | .int n => some (.whole n)
  | .float .nan => none
  | .float x => some (x.toInt?.elim (.other x) .whole)
  | .str s => some (.text s)
  | .arr _ => none
  | .obj _ => none

variable {a b c : Json} {k : Scalar} {x y : Double} {n : Int}

theorem scalar?_float_eq_whole : (float x).scalar? = some (.whole n) ↔ x.toInt? = some n := by
  cases x with
  | nan => simp [scalar?, Double.toInt?]
  | infinity => simp [scalar?, Double.toInt?]
  | finite s m e h =>
    show some _ = some _ ↔ _
    cases (Double.finite s m e h).toInt? <;> simp

theorem scalar?_float_eq_some :
    (float x).scalar? = some k ↔ x ≠ .nan ∧ k = x.toInt?.elim (.other x) .whole := by
  cases x with
  | nan => simp [scalar?]
  | infinity | finite => simp [scalar?, eq_comm]

/-- Two doubles are equal when they stand for the same number. -/
theorem same_iff_scalar? :
    x.same y = true ↔ ∃ k, (float x).scalar? = some k ∧ (float y).scalar? = some k := by
  simp only [scalar?_float_eq_some]
  constructor
  · intro h
    have hnan : x ≠ .nan ∧ y ≠ .nan := by
      constructor
      · rintro rfl
        cases h
      · rintro rfl
        cases x <;> cases h
    have hcases : (x.isZero && y.isZero) = true ∨ x = y := by
      cases x <;> cases y <;> simp_all [Double.same]
    refine ⟨_, ⟨hnan.1, rfl⟩, hnan.2, ?_⟩
    obtain hzero | rfl := hcases
    · obtain ⟨hx, hy⟩ := Bool.and_eq_true_iff.1 hzero
      rw [Double.toInt?_of_isZero hx, Double.toInt?_of_isZero hy]
      rfl
    · rfl
  · rintro ⟨k, ⟨hx, rfl⟩, hy, hk⟩
    cases hxn : x.toInt? with
    | some n =>
      cases hyn : y.toInt? with
      | some m =>
        rw [hxn, hyn] at hk
        cases hk
        exact Double.same_of_toInt? hxn hyn
      | none =>
        rw [hxn, hyn] at hk
        cases hk
    | none =>
      cases hyn : y.toInt? with
      | some m =>
        rw [hxn, hyn] at hk
        cases hk
      | none =>
        rw [hxn, hyn] at hk
        cases hk
        cases x with
        | nan => exact absurd rfl hx
        | infinity | finite => simp [Double.same]

theorem scalar?_float_ne_text {s : String} : (float x).scalar? ≠ some (.text s) := by
  intro h
  have hk := (scalar?_float_eq_some.1 h).2
  cases hn : x.toInt? <;> rw [hn] at hk <;> cases hk

theorem scalar?_float_ne_null : (float x).scalar? ≠ some .null := by
  intro h
  have hk := (scalar?_float_eq_some.1 h).2
  cases hn : x.toInt? <;> rw [hn] at hk <;> cases hk

/-- **Values that are neither lists nor objects** are equal when they stand for the same
thing. -/
theorem sameScalar_iff :
    sameScalar a b = true ↔ ∃ k, a.scalar? = some k ∧ b.scalar? = some k := by
  have hisInt : ∀ {x : Double} {n : Int}, x.isInt n = true ↔ (float x).scalar? = some (.whole n) :=
    fun {x n} => by rw [scalar?_float_eq_whole, Double.isInt, beq_iff_eq]
  cases a with
  | float x =>
    cases b with
    | float y => exact same_iff_scalar?
    | bool | int => simpa [sameScalar, asInt?, scalar?] using hisInt
    | null => simpa [sameScalar, asInt?, scalar?] using scalar?_float_ne_null
    | str => simpa [sameScalar, asInt?, scalar?] using scalar?_float_ne_text
    | arr | obj => simp [sameScalar, asInt?, scalar?]
  | null =>
    cases b with
    | float y => simpa [sameScalar, asInt?, scalar?] using scalar?_float_ne_null
    | _ => simp [sameScalar, asInt?, scalar?]
  | str s =>
    cases b with
    | float y => simpa [sameScalar, asInt?, scalar?] using scalar?_float_ne_text
    | str t => simpa [sameScalar, asInt?, scalar?] using eq_comm
    | _ => simp [sameScalar, asInt?, scalar?]
  | bool | int =>
    cases b with
    | float y => simpa [sameScalar, asInt?, scalar?] using hisInt
    | bool | int => simpa [sameScalar, asInt?, scalar?] using eq_comm
    | _ => simp [sameScalar, asInt?, scalar?]
  | arr | obj => cases b <;> simp [sameScalar, asInt?, scalar?]

/-! ### Lists and objects -/

theorem sameItems_iff {xs ys : List Json} :
    sameItems xs ys = true ↔ List.Forall₂ (fun x y => same x y = true) xs ys := by
  induction xs generalizing ys with
  | nil => cases ys <;> simp [sameItems]
  | cons x xs ih => cases ys <;> simp [sameItems, ih]

theorem sameMembers_iff {xs ys : List (String × Json)} :
    sameMembers xs ys = true ↔
      ∀ k x, (k, x) ∈ xs → ∃ y, Entries.get? ys k = some y ∧ same x y = true := by
  induction xs with
  | nil => simp [sameMembers]
  | cons entry xs ih =>
    obtain ⟨l, x⟩ := entry
    rw [sameMembers, Bool.and_eq_true, ih]
    constructor
    · rintro ⟨hx, hxs⟩ k z hz
      obtain heq | hz := List.mem_cons.1 hz
      · cases heq
        cases hy : Entries.get? ys l with
        | none =>
          rw [hy] at hx
          cases hx
        | some y =>
          rw [hy] at hx
          exact ⟨y, rfl, hx⟩
      · exact hxs k z hz
    · intro h
      refine ⟨?_, fun k z hz => h k z (List.mem_cons_of_mem _ hz)⟩
      obtain ⟨y, hy, hxy⟩ := h l x List.mem_cons_self
      rw [hy]
      exact hxy

/-- A list equals lists only, item by item. -/
theorem same_arr_iff {xs : List Json} :
    same (.arr xs) b = true ↔ ∃ ys, b = .arr ys ∧ List.Forall₂ (fun x y => same x y = true) xs ys := by
  cases b with
  | arr ys => simp [same, sameItems_iff]
  | _ => simp [same, sameScalar_iff, scalar?]

/-- An object equals objects only that are as long and have an equal value at each key. -/
theorem same_obj_iff {xs : List (String × Json)} :
    same (.obj xs) b = true ↔ ∃ ys, b = .obj ys ∧ xs.length = ys.length ∧
      ∀ k x, (k, x) ∈ xs → ∃ y, Entries.get? ys k = some y ∧ same x y = true := by
  cases b with
  | obj ys => simp [same, sameMembers_iff]
  | _ => simp [same, sameScalar_iff, scalar?]

/-- A value that stands for something equals all that stands for the same. -/
theorem same_iff_of_scalar? (h : a.scalar? = some k) :
    same a b = true ↔ b.scalar? = some k := by
  have hsame : same a b = sameScalar a b := by
    cases a with
    | arr | obj => cases h
    | _ => simp only [same]
  rw [hsame, sameScalar_iff]
  simp [h]

/-- What has no items and no members equals what stands for the same. -/
theorem exists_scalar?_of_same (h : same a b = true) :
    (∃ k, a.scalar? = some k) ∨ (∃ xs, a = .arr xs) ∨ ∃ xs, a = .obj xs := by
  cases a with
  | arr xs => exact .inr (.inl ⟨xs, rfl⟩)
  | obj xs => exact .inr (.inr ⟨xs, rfl⟩)
  | _ =>
    rw [same, sameScalar_iff] at h
    · exact .inl (h.imp fun _ => And.left)
    all_goals simp

/-- Lists whose items are equal one by one, to lists whose items are. -/
theorem forall₂_trans_of_mem {α : Type} {R : α → α → Prop} {xs ys zs : List α}
    (hR : ∀ x ∈ xs, ∀ y z, R x y → R y z → R x z) (hxy : List.Forall₂ R xs ys)
    (hyz : List.Forall₂ R ys zs) : List.Forall₂ R xs zs := by
  induction hxy generalizing zs with
  | nil => exact hyz
  | cons hx hxs ih =>
    cases hyz with
    | cons hy hys =>
      exact .cons (hR _ List.mem_cons_self _ _ hx hy)
        (ih (fun v hv => hR v (List.mem_cons_of_mem _ hv)) hys)

/-- **Equality is transitive.** -/
theorem same_trans (hab : same a b = true) (hbc : same b c = true) : same a c = true := by
  have hscalar : ∀ {a b c : Json} {k : Scalar}, a.scalar? = some k → same a b = true →
      same b c = true → same a c = true := by
    intro a b c k hk hab hbc
    rw [same_iff_of_scalar? hk] at hab ⊢
    exact (same_iff_of_scalar? hab).1 hbc
  induction a using Json.induct generalizing b c with
  | null => exact hscalar rfl hab hbc
  | bool => exact hscalar rfl hab hbc
  | int => exact hscalar rfl hab hbc
  | str => exact hscalar rfl hab hbc
  | float x =>
    obtain ⟨k, hk⟩ | ⟨xs, h⟩ | ⟨xs, h⟩ := exists_scalar?_of_same hab
    · exact hscalar hk hab hbc
    · cases h
    · cases h
  | arr xs ih =>
    obtain ⟨ys, rfl, hxy⟩ := same_arr_iff.1 hab
    obtain ⟨zs, rfl, hyz⟩ := same_arr_iff.1 hbc
    exact same_arr_iff.2 ⟨zs, rfl, forall₂_trans_of_mem (fun x hx _ _ => ih x hx) hxy hyz⟩
  | obj xs ih =>
    obtain ⟨ys, rfl, hlen, hxy⟩ := same_obj_iff.1 hab
    obtain ⟨zs, rfl, hlen', hyz⟩ := same_obj_iff.1 hbc
    refine same_obj_iff.2 ⟨zs, rfl, hlen.trans hlen', fun k x hx => ?_⟩
    obtain ⟨y, hy, hsame⟩ := hxy k x hx
    obtain ⟨z, hz, hsame'⟩ := hyz k y (Entries.mem_of_get? hy)
    exact ⟨z, hz, ih k x hx hsame hsame'⟩

theorem scalar?_eq_text {s : String} : a.scalar? = some (.text s) ↔ a = .str s := by
  cases a with
  | float x => simpa using scalar?_float_ne_text
  | _ => simp [scalar?]

/-- A text equals itself only. -/
theorem same_str_iff {s : String} : same (.str s) b = true ↔ b = .str s :=
  (same_iff_of_scalar? rfl).trans scalar?_eq_text

theorem eq_str_of_same {s : String} (h : same a (.str s) = true) : a = .str s := by
  obtain ⟨k, hk⟩ | ⟨xs, rfl⟩ | ⟨xs, rfl⟩ := exists_scalar?_of_same h
  · cases (same_iff_of_scalar? hk).1 h
    exact scalar?_eq_text.1 hk
  · obtain ⟨ys, hys, -⟩ := same_arr_iff.1 h
    cases hys
  · obtain ⟨ys, hys, -⟩ := same_obj_iff.1 h
    cases hys

/-! ### What is kept of equal values -/

/-- **What is kept of a value** is kept of it again. -/
theorem written_written (v : Json) : v.written.written = v.written := by
  induction v using Json.induct with
  | null | bool | int | str => rfl
  | float x =>
    by_cases hx : x.isFinite = true
    · simp [written, hx]
    · simp [written, hx]
  | arr vs ih =>
    simp only [written_arr, writtenItems_eq_map, List.map_map]
    exact congrArg arr (List.map_congr_left ih)
  | obj es ih =>
    simp only [written_obj, writtenMembers_eq_mapValues, Entries.mapValues, List.map_map]
    refine congrArg obj (List.map_congr_left fun e he => ?_)
    exact congrArg (Prod.mk e.1) (ih e.1 e.2 he)

theorem isTruthy_of_written {v : Json} (h : v.written.isTruthy = true) : v.isTruthy = true := by
  cases v with
  | float x =>
    by_cases hx : x.isFinite = true
    · simpa [written, hx] using h
    · simp [written, hx, isTruthy] at h
  | arr vs => cases vs <;> exact h
  | obj es => cases es <;> exact h
  | _ => exact h

/-- What is kept of what a value stands for: an infinity becomes null. -/
def Scalar.written : Scalar → Scalar
  | .other (.infinity _) => .null
  | k => k

theorem scalar?_written (h : a.scalar? = some k) : a.written.scalar? = some k.written := by
  cases a with
  | float x =>
    cases x with
    | nan => cases h
    | infinity negative =>
      cases h
      rfl
    | finite negative m e hfits =>
      have hk : k.written = k := by
        obtain ⟨-, rfl⟩ := scalar?_float_eq_some.1 h
        cases (Double.finite negative m e hfits).toInt? <;> rfl
      rw [hk]
      exact h
  | arr | obj => cases h
  | _ =>
    cases h
    rfl

/-- **Equality is kept**, whatever else is lost. -/
theorem same_written (h : same a b = true) : same a.written b.written = true := by
  have hscalar : ∀ {a b : Json} {k : Scalar}, a.scalar? = some k → same a b = true →
      same a.written b.written = true := by
    intro a b k hk hab
    rw [same_iff_of_scalar? hk] at hab
    exact (same_iff_of_scalar? (scalar?_written hk)).2 (scalar?_written hab)
  induction a using Json.induct generalizing b with
  | null => exact hscalar rfl h
  | bool => exact hscalar rfl h
  | int => exact hscalar rfl h
  | str => exact hscalar rfl h
  | float x =>
    obtain ⟨k, hk⟩ | ⟨xs, hx⟩ | ⟨xs, hx⟩ := exists_scalar?_of_same h
    · exact hscalar hk h
    · cases hx
    · cases hx
  | arr xs ih =>
    obtain ⟨ys, rfl, hxy⟩ := same_arr_iff.1 h
    rw [written_arr, written_arr, writtenItems_eq_map, writtenItems_eq_map]
    refine same_arr_iff.2 ⟨_, rfl, ?_⟩
    rw [List.forall₂_map_left_iff, List.forall₂_map_right_iff]
    have hih : ∀ x ∈ xs, ∀ y, same x y = true → same x.written y.written = true :=
      fun x hx y hsame => ih x hx hsame
    exact ((List.forall₂_and_left _ _).2 ⟨hih, hxy⟩).imp fun _ y hsame => hsame.1 y hsame.2
  | obj xs ih =>
    obtain ⟨ys, rfl, hlen, hxy⟩ := same_obj_iff.1 h
    refine same_obj_iff.2 ⟨_, rfl, ?_, fun k v hv => ?_⟩
    · simpa [writtenMembers_eq_mapValues, Entries.mapValues] using hlen
    · rw [writtenMembers_eq_mapValues] at hv
      obtain ⟨⟨l, x⟩, hx, heq⟩ := List.mem_map.1 hv
      cases heq
      obtain ⟨y, hy, hsame⟩ := hxy l x hx
      exact ⟨y.written, by rw [get?_writtenMembers, hy, Option.map_some], ih l x hx hsame⟩

/-! ### Unchanged or equal -/

/-- **Unchanged or equal.** The two differ in a value that equals not even itself. -/
def Alike (v w : Json) : Prop :=
  v = w ∨ same v w = true

theorem Alike.refl (v : Json) : Alike v v :=
  .inl rfl

theorem Alike.trans (hab : Alike a b) (hbc : Alike b c) : Alike a c := by
  obtain rfl | hab := hab
  · exact hbc
  · obtain rfl | hbc := hbc
    · exact .inr hab
    · exact .inr (same_trans hab hbc)

theorem Alike.written (h : Alike a b) : Alike a.written b.written :=
  h.imp (congrArg Json.written) same_written

end Json

end Workflow
