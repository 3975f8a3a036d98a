import Workflow.Json.Reader
import Workflow.Proofs.Entries

/-!
# Objects without double keys

An object is a list of pairs, and a list could have the same key in two of them. No value that is
read from a text does (`Json.isKeyed_of_read`): a key that comes again overwrites what was there.
Proofs that look up what stands at a key may therefore ask for values in which no key stands
twice.
-/

namespace Workflow

mutual

/-- **No key stands twice** in any object of a value. -/
def Json.isKeyed : Json → Bool
  | .arr items => itemsKeyed items
  | .obj members => decide (Entries.keys members).Nodup && membersKeyed members
  | _ => true

/-- No key stands twice in any object of the items of a list. -/
def Json.itemsKeyed : List Json → Bool
  | [] => true
  | v :: vs => isKeyed v && itemsKeyed vs

/-- No key stands twice in any object of the members of an object. -/
def Json.membersKeyed : List (String × Json) → Bool
  | [] => true
  | (_, v) :: vs => isKeyed v && membersKeyed vs

end

namespace Json

theorem isKeyed_of_mem_items {vs : List Json} {v : Json} (h : itemsKeyed vs = true) (hv : v ∈ vs) :
    v.isKeyed = true := by
  induction hv with
  | head vs => exact (Bool.and_eq_true_iff.1 h).1
  | tail w _ ih => exact ih (Bool.and_eq_true_iff.1 h).2

theorem isKeyed_of_mem_members {es : List (String × Json)} {k : String} {v : Json}
    (h : membersKeyed es = true) (hv : (k, v) ∈ es) : v.isKeyed = true := by
  induction es with
  | nil => cases hv
  | cons e es ih =>
    obtain ⟨l, w⟩ := e
    obtain ⟨hw, hes⟩ := Bool.and_eq_true_iff.1 h
    obtain heq | hv := List.mem_cons.1 hv
    · cases heq
      exact hw
    · exact ih hes hv

theorem membersKeyed_put {es : List (String × Json)} {k : String} {v : Json}
    (h : membersKeyed es = true) (hv : v.isKeyed = true) :
    membersKeyed (Entries.put es k v) = true := by
  induction es with
  | nil => exact Bool.and_eq_true_iff.2 ⟨hv, rfl⟩
  | cons e es ih =>
    obtain ⟨l, w⟩ := e
    obtain ⟨hw, hes⟩ := Bool.and_eq_true_iff.1 h
    rw [Entries.put]
    split
    · exact Bool.and_eq_true_iff.2 ⟨hv, hes⟩
    · exact Bool.and_eq_true_iff.2 ⟨hw, ih hes⟩

theorem isKeyed_of_readNumber {cs rest : List Char} {v : Json}
    (h : readNumber cs = .ok (v, rest)) : v.isKeyed = true := by
  unfold readNumber at h
  split at h
  split at h
  · cases h
  · split at h
    split at h
    split at h
    · split at h
      · cases h
      · cases h
        rfl
    · cases h
      rfl

/-- A value that is a word or a number has no objects in it. -/
theorem isKeyed_of_readPlain {cs rest : List Char} {v : Json} (h : readPlain cs = .ok (v, rest)) :
    v.isKeyed = true := by
  unfold readPlain at h
  split at h
  · next result hword =>
    cases h
    obtain ⟨⟨word, w⟩, hmem, hw⟩ := List.exists_of_findSome?_eq_some hword
    obtain ⟨rest, -, heq⟩ := Option.map_eq_some_iff.1 hw
    cases heq
    revert hmem
    simp only [words, List.mem_cons, Prod.mk.injEq, List.not_mem_nil, or_false]
    rintro (⟨-, rfl⟩ | ⟨-, rfl⟩ | ⟨-, rfl⟩ | ⟨-, rfl⟩ | ⟨-, rfl⟩ | ⟨-, rfl⟩) <;> rfl
  · exact isKeyed_of_readNumber h

/-- What every reading with so much fuel comes to has no key twice in it. -/
structure ReadsKeyed (fuel : Nat) : Prop where
  /-- A value. -/
  value {room : Nat} {cs rest : List Char} {v : Json} :
    readValue room fuel cs = .ok (v, rest) → v.isKeyed = true
  /-- The items of a list. -/
  items {room : Nat} {cs rest : List Char} {vs : List Json} :
    readItems room fuel cs = .ok (vs, rest) → itemsKeyed vs = true
  /-- The members of an object, after those that were read before. -/
  members {room : Nat} {cs rest : List Char} {before es : List (String × Json)} :
    (Entries.keys before).Nodup → membersKeyed before = true →
      readMembers room fuel before cs = .ok (es, rest) →
        (Entries.keys es).Nodup ∧ membersKeyed es = true

namespace ReadsKeyed

variable {fuel room : Nat} {cs rest : List Char}

theorem readValue_succ {v : Json} (ih : ReadsKeyed fuel)
    (h : readValue room (fuel + 1) cs = .ok (v, rest)) : v.isKeyed = true := by
  cases cs with
  | nil =>
    rw [readValue] at h
    · cases h
    · nofun
  | cons c cs =>
    rw [readValue] at h
    split at h
    · cases h
    split at h
    · -- a text
      split at h
      · cases h
        rfl
      · cases h
    split at h
    · -- a list, which may be empty
      split at h
      · cases h
        rfl
      · split at h
        · next hitems =>
          cases h
          exact ih.items hitems
        · cases h
    split at h
    · -- an object, which may be empty
      split at h
      · cases h
        rfl
      · split at h
        · next hmembers =>
          cases h
          have hnone : (Entries.keys ([] : Entries Json)).Nodup := .nil
          obtain ⟨hdistinct, hkeyed⟩ := ih.members hnone rfl hmembers
          exact Bool.and_eq_true_iff.2 ⟨decide_eq_true hdistinct, hkeyed⟩
        · cases h
    · exact isKeyed_of_readPlain h

theorem readItems_succ {vs : List Json} (ih : ReadsKeyed fuel)
    (h : readItems room (fuel + 1) cs = .ok (vs, rest)) : itemsKeyed vs = true := by
  rw [readItems] at h
  split at h
  · cases h
  · next hv =>
    have hkeyed := ih.value hv
    split at h
    · cases h
      exact Bool.and_eq_true_iff.2 ⟨hkeyed, rfl⟩
    · split at h
      · next hitems =>
        cases h
        exact Bool.and_eq_true_iff.2 ⟨hkeyed, ih.items hitems⟩
      · cases h
    · cases h

theorem readMembers_succ {before es : List (String × Json)} (ih : ReadsKeyed fuel)
    (hnodup : (Entries.keys before).Nodup) (hbefore : membersKeyed before = true)
    (h : readMembers room (fuel + 1) before cs = .ok (es, rest)) :
    (Entries.keys es).Nodup ∧ membersKeyed es = true := by
  rw [readMembers.eq_def] at h
  dsimp only at h
  split at h
  · split at h
    · cases h
    · next key _ _ =>
      split at h
      · split at h
        · cases h
        · next v _ hv =>
          -- the member takes the place of one of the same key that was read before
          have hdistinct : (Entries.keys (Entries.put before key v)).Nodup :=
            Entries.Distinct.put hnodup key v
          have hmembers := membersKeyed_put (k := key) hbefore (ih.value hv)
          split at h
          · cases h
            exact ⟨hdistinct, hmembers⟩
          · exact ih.members hdistinct hmembers h
          · cases h
      · cases h
  · cases h

end ReadsKeyed

/-- No reading comes to a key twice. The induction is on the fuel, for values, items and members
at once. -/
theorem readsKeyed (fuel : Nat) : ReadsKeyed fuel := by
  induction fuel with
  | zero =>
    refine ⟨fun h => ?_, fun h => ?_, fun _ _ h => ?_⟩
    · rw [readValue] at h
      cases h
    · rw [readItems] at h
      cases h
    · rw [readMembers] at h
      cases h
  | succ fuel ih =>
    exact ⟨ih.readValue_succ, ih.readItems_succ, ih.readMembers_succ⟩

/-- **In what is read from a text no key stands twice.** -/
theorem isKeyed_of_read {text : String} {v : Json} (h : read text = .ok v) : v.isKeyed = true := by
  unfold read readChars at h
  extract_lets at h
  split at h
  · cases h
  split at h
  · cases h
  · next w rest hw =>
    split at h
    · cases h
      exact (readsKeyed _).value hw
    · cases h

end Json

end Workflow
