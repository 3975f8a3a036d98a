import Mathlib.Data.List.TakeWhile
import Workflow.Template

/-!
# How templates are cut

A text is cut into single characters and placeholders, and it can be put together again out of the
parts (`Template.flatMap_text_pieces`). Not every list of parts is one into which a text is cut:
characters that stand for themselves may look like a placeholder when they are put together. Those
that are (`Template.Cut`) come back when the text is cut (`Cut.pieces_eq`), and they stay such when
the placeholders get other paths (`Cut.map`): a brace that opened no placeholder opens none then.
-/

namespace Workflow

namespace Template

open Workflow.Text

variable {c : Char} {cs rest body : List Char} {ps : List Piece}

/-! ## How a text is cut -/

/-- What can stand between the braces of a placeholder. -/
def IsBody (body : List Char) : Prop :=
  body ≠ [] ∧ '\x7d' ∉ body

theorem hole?_eq_some :
    hole? cs = some (body, rest) ↔ IsBody body ∧ cs = (Piece.hole body).text ++ rest := by
  constructor
  · intro h
    unfold hole? at h
    split at h
    · next tail =>
      dsimp only at h
      split at h
      · next b bs rest' hbody hrest =>
        obtain ⟨rfl, rfl⟩ := Prod.mk.inj (Option.some.inj h)
        rw [hbody]
        have hclosed : '\x7d' ∉ b :: bs := fun hmem =>
          absurd (List.mem_takeWhile_imp (hbody ▸ hmem)) (by decide)
        have htail : tail = b :: bs ++ '\x7d' :: '\x7d' :: rest' := by
          rw [← hbody, ← hrest, List.takeWhile_append_dropWhile]
        exact ⟨⟨List.cons_ne_nil _ _, hclosed⟩, by simp [htail, Piece.text]⟩
      · cases h
    · cases h
  · rintro ⟨⟨hne, hclosed⟩, rfl⟩
    have hbody : ∀ d ∈ body, (d != '\x7d') = true := fun d hd => by
      simpa using fun he : d = '\x7d' => hclosed (he ▸ hd)
    obtain ⟨b, bs, rfl⟩ := List.exists_cons_of_ne_nil hne
    have htext : (Piece.hole (b :: bs)).text ++ rest
        = '\x7b' :: '\x7b' :: (b :: bs ++ '\x7d' :: '\x7d' :: rest) := by
      simp [Piece.text]
    rw [htext, hole?, List.takeWhile_append_of_pos hbody, List.dropWhile_append_of_pos hbody]
    simp

theorem piecesFrom_eq_drop (skip : Nat) (cs : List Char) :
    piecesFrom skip cs = pieces (cs.drop skip) := by
  induction cs generalizing skip with
  | nil => cases skip <;> rfl
  | cons c cs ih =>
    cases skip with
    | zero => rfl
    | succ skip => exact ih skip

theorem pieces_cons_of_eq_none (h : hole? (c :: cs) = none) :
    pieces (c :: cs) = .char c :: pieces cs := by
  rw [pieces, piecesFrom, h]
  rfl

theorem pieces_hole_append (h : IsBody body) (rest : List Char) :
    pieces ((Piece.hole body).text ++ rest) = .hole body :: pieces rest := by
  have htext : (Piece.hole body).text ++ rest
      = '\x7b' :: ('\x7b' :: body ++ ['\x7d', '\x7d'] ++ rest) := by
    simp [Piece.text]
  have hhole : hole? ((Piece.hole body).text ++ rest) = some (body, rest) :=
    hole?_eq_some.2 ⟨h, rfl⟩
  rw [htext] at hhole ⊢
  rw [pieces, piecesFrom, hhole]
  dsimp only
  rw [piecesFrom_eq_drop, List.drop_left' (by simp)]

/-- A text is empty, or begins with a placeholder, or with a character that stands for itself. -/
@[elab_as_elim]
theorem text_induct {motive : List Char → Prop} (nil : motive [])
    (hole : ∀ body rest, IsBody body → motive rest → motive ((Piece.hole body).text ++ rest))
    (char : ∀ c cs, hole? (c :: cs) = none → motive cs → motive (c :: cs)) (cs : List Char) :
    motive cs := by
  induction hn : cs.length using Nat.strongRecOn generalizing cs with
  | ind n ih =>
    cases cs with
    | nil => exact nil
    | cons c cs =>
      cases hhole : hole? (c :: cs) with
      | none => exact char c cs hhole (ih cs.length (by simp [← hn]) cs rfl)
      | some found =>
        obtain ⟨hbody, htext⟩ := hole?_eq_some.1 hhole
        rw [htext] at hn ⊢
        refine hole _ _ hbody (ih _ ?_ _ rfl)
        simp only [← hn, Piece.text, List.length_append, List.length_cons]
        omega

/-- **The parts of a text make up the text.** -/
theorem flatMap_text_pieces (cs : List Char) : (pieces cs).flatMap Piece.text = cs := by
  induction cs using text_induct with
  | nil => rfl
  | hole body rest hbody ih => rw [pieces_hole_append hbody, List.flatMap_cons, ih]
  | char c cs hhole ih =>
    rw [pieces_cons_of_eq_none hhole, List.flatMap_cons, ih]
    rfl

/-- **Parts as a text is cut into them**: placeholders are not empty and are closed by the first
closing brace, and no placeholder begins with a character that stands for itself. -/
inductive Cut : List Piece → Prop
  /-- There are none. -/
  | nil : Cut []
  /-- The first part is a character. -/
  | char {c : Char} {ps : List Piece} (h : hole? (c :: ps.flatMap Piece.text) = none)
      (hps : Cut ps) : Cut (.char c :: ps)
  /-- The first part is a placeholder. -/
  | hole {body : List Char} {ps : List Piece} (h : IsBody body) (hps : Cut ps) :
      Cut (.hole body :: ps)

theorem cut_pieces (cs : List Char) : Cut (pieces cs) := by
  induction cs using text_induct with
  | nil => exact .nil
  | hole body rest hbody ih => exact pieces_hole_append hbody rest ▸ .hole hbody ih
  | char c cs hhole ih =>
    rw [pieces_cons_of_eq_none hhole]
    exact .char (by rwa [flatMap_text_pieces]) ih

/-- A text that is put together out of such parts is cut into them again. -/
theorem Cut.pieces_eq (h : Cut ps) : pieces (ps.flatMap Piece.text) = ps := by
  induction h with
  | nil => rfl
  | char hhole _ ih =>
    rw [List.flatMap_cons]
    exact (pieces_cons_of_eq_none hhole).trans (congrArg _ ih)
  | hole hbody _ ih => rw [List.flatMap_cons, pieces_hole_append hbody, ih]

/-! ## Other paths in the placeholders -/

/-- A part with another text between its braces. -/
def Piece.withBody (f : List Char → List Char) : Piece → Piece
  | .char c => .char c
  | .hole body => .hole (f body)

/-- Whether the first closing brace of a text is followed by another one. -/
def closes : List Char → Bool
  | [] => false
  | c :: cs => if c = '\x7d' then cs.head? == some '\x7d' else closes cs

theorem closes_iff :
    closes cs = true ↔ ∃ body rest, '\x7d' ∉ body ∧ cs = body ++ '\x7d' :: '\x7d' :: rest := by
  induction cs with
  | nil => simp [closes]
  | cons c cs ih =>
    by_cases hc : c = '\x7d'
    · subst hc
      rw [closes, if_pos rfl, beq_iff_eq, List.head?_eq_some_iff]
      constructor
      · rintro ⟨rest, rfl⟩
        exact ⟨[], rest, List.not_mem_nil, rfl⟩
      · rintro ⟨_ | ⟨b, body⟩, rest, hbody, htext⟩
        · exact ⟨rest, (List.cons_eq_cons.1 htext).2⟩
        · exact absurd ((List.cons_eq_cons.1 htext).1 ▸ List.mem_cons_self) hbody
    · rw [closes, if_neg hc, ih]
      constructor
      · rintro ⟨body, rest, hbody, rfl⟩
        exact ⟨c :: body, rest, by simpa [Ne.symm hc] using hbody, rfl⟩
      · rintro ⟨_ | ⟨b, body⟩, rest, hbody, htext⟩
        · exact absurd (List.cons_eq_cons.1 htext).1 hc
        · exact ⟨body, rest, fun hmem => hbody (List.mem_cons_of_mem _ hmem),
            (List.cons_eq_cons.1 htext).2⟩

/-- A text begins with a placeholder when, after two opening braces, it closes one that is not
empty. -/
theorem isSome_hole? : (hole? cs).isSome ↔
    ∃ tail, cs = '\x7b' :: '\x7b' :: tail ∧ tail.head? ≠ some '\x7d' ∧ closes tail = true := by
  rw [Option.isSome_iff_exists]
  simp only [Prod.exists, hole?_eq_some, closes_iff]
  constructor
  · rintro ⟨body, rest, ⟨hne, hclosed⟩, rfl⟩
    obtain ⟨b, bs, rfl⟩ := List.exists_cons_of_ne_nil hne
    refine ⟨b :: bs ++ '\x7d' :: '\x7d' :: rest, by simp [Piece.text], ?_, _, _, hclosed, rfl⟩
    simpa using fun he : b = '\x7d' => hclosed (he ▸ List.mem_cons_self)
  · rintro ⟨tail, rfl, hhead, body, rest, hclosed, rfl⟩
    refine ⟨body, rest, ⟨?_, hclosed⟩, by simp [Piece.text]⟩
    rintro rfl
    exact hhead rfl

/-- **How a text is cut does not depend on the paths** in its placeholders. -/
theorem Cut.map {f : List Char → List Char} (hf : ∀ body, IsBody body → IsBody (f body))
    (h : Cut ps) : Cut (ps.map (Piece.withBody f)) := by
  have hclosesHole : ∀ {body rest}, IsBody body →
      closes ((Piece.hole body).text ++ rest) = true := fun {body rest} hbody =>
    closes_iff.2 ⟨'\x7b' :: '\x7b' :: body, rest, by simpa using hbody.2, by simp [Piece.text]⟩
  -- neither the first character of the text changes, nor whether it closes a placeholder
  have hhead : ∀ qs : List Piece, ((qs.map (Piece.withBody f)).flatMap Piece.text).head?
      = (qs.flatMap Piece.text).head? := by
    rintro (_ | ⟨_ | _, qs⟩) <;> rfl
  have hcloses : ∀ {qs : List Piece}, Cut qs →
      closes ((qs.map (Piece.withBody f)).flatMap Piece.text)
        = closes (qs.flatMap Piece.text) := by
    intro qs hqs
    induction hqs with
    | nil => rfl
    | @char c qs _ _ ih =>
      show closes (c :: (qs.map (Piece.withBody f)).flatMap Piece.text)
        = closes (c :: qs.flatMap Piece.text)
      rw [closes, closes, hhead, ih]
    | @hole body qs hbody _ _ =>
      rw [List.map_cons, List.flatMap_cons, List.flatMap_cons, hclosesHole hbody]
      exact hclosesHole (hf body hbody)
  induction h with
  | nil => exact .nil
  | hole hbody _ ih => exact .hole (hf _ hbody) ih
  | @char c qs hhole hqs ih =>
    refine .char ?_ ih
    rw [← Option.not_isSome_iff_eq_none, isSome_hole?] at hhole ⊢
    rintro ⟨tail, htext, hfirst, htail⟩
    obtain ⟨rfl, hnext⟩ : c = '\x7b' ∧ (qs.map (Piece.withBody f)).flatMap Piece.text
        = '\x7b' :: tail := List.cons_eq_cons.1 htext
    -- what follows the first brace is another one, so it is no placeholder
    cases hqs with
    | nil => cases hnext
    | @hole body qs hbody _ =>
      refine hhole ⟨'\x7b' :: body ++ '\x7d' :: '\x7d' :: qs.flatMap Piece.text,
        by simp [Piece.text], by simp, closes_iff.2 ⟨_, _, by simpa using hbody.2, rfl⟩⟩
    | @char d qs _ hqs =>
      obtain ⟨rfl, rfl⟩ : d = '\x7b' ∧ (qs.map (Piece.withBody f)).flatMap Piece.text = tail :=
        List.cons_eq_cons.1 hnext
      rw [hhead] at hfirst
      rw [hcloses hqs] at htail
      exact hhole ⟨_, rfl, hfirst, htail⟩

end Template

end Workflow
