import Mathlib.Tactic.Choose
import Workflow.Proofs.Outcome
import Workflow.Proofs.Template
import Workflow.Proofs.Text

/-!
# What a template is filled to

A template is filled while it is cut, from left to right and one character after the other. What
that comes to can be said without a scan. A text is split in one way only into literal pieces and
placeholders such that each placeholder is the first one that stands in what is left of the text
(`Split.IsLeftmost.eq_of_text_eq`). The literal pieces stay; a placeholder gives way to the value
that its path leads to, or stays as it is and is told (`Becomes`). Since the split is one of the
template, what is put in is never looked at. A template cannot be filled only if a value that stands
for one of its placeholders has no text.
-/

namespace Workflow

namespace Template

open Workflow.Text

variable {c : Char} {cs body pre path : List Char} {values : Entries Json}

/-! ## Splits -/

/-- **A text that is split into literal pieces and placeholders.** There is a literal piece, which
may be empty, before each placeholder, and one at the end. -/
inductive Split where
  /-- The last literal piece. -/
  | last (literal : List Char)
  /-- A literal piece, what stands between the braces of the placeholder after it, and the rest. -/
  | hole (literal body : List Char) (rest : Split)

/-- The text that is split. -/
def Split.text : Split → List Char
  | last literal => literal
  | hole literal body rest => literal ++ ((Piece.hole body).text ++ rest.text)

/-- What stands between the braces of the placeholders. -/
def Split.bodies : Split → List (List Char)
  | last _ => []
  | hole _ body rest => body :: rest.bodies

/-- The parts of the text, one for each character of a literal piece. -/
def Split.pieces : Split → List Piece
  | last literal => literal.map .char
  | hole literal body rest => literal.map .char ++ .hole body :: rest.pieces

/-- **A placeholder stands in a text**, after some other text. -/
def HasHoleAfter (pre cs : List Char) : Prop :=
  ∃ body rest, IsBody body ∧ cs = pre ++ ((Piece.hole body).text ++ rest)

/-- **The placeholders are the leftmost ones that do not overlap.** Each is the first one in what is
left of the text, and there is none in the last literal piece. -/
inductive Split.IsLeftmost : Split → Prop
  /-- There is no placeholder. -/
  | last {literal : List Char} (hnone : ∀ pre, ¬ HasHoleAfter pre literal) :
      IsLeftmost (.last literal)
  /-- There is a first placeholder. -/
  | hole {literal body : List Char} {rest : Split} (hbody : IsBody body)
      (hfirst : ∀ pre, HasHoleAfter pre (Split.hole literal body rest).text →
        literal.length ≤ pre.length)
      (hrest : rest.IsLeftmost) : IsLeftmost (.hole literal body rest)

theorem hasHoleAfter_nil : HasHoleAfter [] cs ↔ (hole? cs).isSome := by
  simp only [HasHoleAfter, Option.isSome_iff_exists, Prod.exists, hole?_eq_some, List.nil_append]

/-- A placeholder that does not stand at the beginning stands in the rest. -/
theorem HasHoleAfter.of_cons {d : Char} (h : HasHoleAfter (d :: pre) (c :: cs)) :
    HasHoleAfter pre cs := by
  obtain ⟨body, rest, hbody, htext⟩ := h
  exact ⟨body, rest, hbody, (List.cons_eq_cons.1 htext).2⟩

/-- Two texts that begin with a placeholder begin with the same one, if they are the same. -/
theorem hole_append_inj {body' rest rest' : List Char} (h : IsBody body) (h' : IsBody body')
    (heq : (Piece.hole body).text ++ rest = (Piece.hole body').text ++ rest') :
    body = body' ∧ rest = rest' := by
  have hfound : hole? ((Piece.hole body).text ++ rest) = some (body, rest) :=
    hole?_eq_some.2 ⟨h, rfl⟩
  rw [heq, hole?_eq_some.2 ⟨h', rfl⟩] at hfound
  exact Prod.mk.inj (Option.some.inj hfound.symm)

namespace Split

variable {s s' : Split}

/-- A split with one more character before it. -/
def cons (c : Char) : Split → Split
  | last literal => last (c :: literal)
  | hole literal body rest => hole (c :: literal) body rest

@[simp] theorem text_cons (c : Char) (s : Split) : (s.cons c).text = c :: s.text := by
  cases s <;> rfl

@[simp] theorem pieces_cons (c : Char) (s : Split) : (s.cons c).pieces = .char c :: s.pieces := by
  cases s <;> rfl

theorem hole_mem_pieces {s : Split} : .hole body ∈ s.pieces ↔ body ∈ s.bodies := by
  induction s with
  | last literal => simp [pieces, bodies]
  | hole literal other rest ih => simp [pieces, bodies, ih]

/-- A character with which no placeholder begins belongs to the first literal piece. -/
theorem IsLeftmost.cons (h : s.IsLeftmost) (hc : hole? (c :: s.text) = none) :
    (s.cons c).IsLeftmost := by
  have hbegins : ¬ HasHoleAfter [] (c :: s.text) := by
    rw [hasHoleAfter_nil, hc]
    exact Bool.false_ne_true
  cases h with
  | last hnone =>
    refine .last fun pre hpre => ?_
    cases pre with
    | nil => exact hbegins hpre
    | cons d pre => exact hnone pre hpre.of_cons
  | hole hbody hfirst hrest =>
    refine .hole hbody (fun pre hpre => ?_) hrest
    cases pre with
    | nil => exact absurd hpre hbegins
    | cons d pre => exact Nat.succ_le_succ (hfirst pre hpre.of_cons)

/-- **A text is split in one way only.** -/
theorem IsLeftmost.eq_of_text_eq (h : s.IsLeftmost) (h' : s'.IsLeftmost) (heq : s.text = s'.text) :
    s = s' := by
  induction h generalizing s' with
  | last hnone =>
    cases h' with
    | last => exact congrArg Split.last heq
    | hole hbody => exact absurd ⟨_, _, hbody, heq⟩ (hnone _)
  | @hole literal body rest hbody hfirst _ ih =>
    cases h' with
    | last hnone => exact absurd ⟨_, _, hbody, heq.symm⟩ (hnone _)
    | @hole literal' body' rest' hbody' hfirst' hrest' =>
      -- neither first placeholder can stand before the other
      have hlength : literal.length = literal'.length :=
        Nat.le_antisymm (hfirst _ ⟨_, _, hbody', heq⟩) (hfirst' _ ⟨_, _, hbody, heq.symm⟩)
      obtain ⟨rfl, hholes⟩ := List.append_inj heq hlength
      obtain ⟨rfl, hrests⟩ := hole_append_inj hbody hbody' hholes
      rw [ih hrest' hrests]

/-- **Every text can be split** like that, and its parts are those into which it is cut. -/
theorem exists_pieces_eq (cs : List Char) :
    ∃ s : Split, s.IsLeftmost ∧ s.text = cs ∧ s.pieces = Template.pieces cs := by
  induction cs using text_induct with
  | nil =>
    refine ⟨.last [], .last fun pre ⟨body, rest, _, htext⟩ => ?_, rfl, rfl⟩
    simp [Piece.text] at htext
  | hole body rest hbody ih =>
    obtain ⟨s, hs, rfl, hpieces⟩ := ih
    refine ⟨.hole [] body s, .hole hbody (fun _ _ => Nat.zero_le _) hs, rfl, ?_⟩
    rw [pieces_hole_append hbody, ← hpieces]
    rfl
  | char c cs hhole ih =>
    obtain ⟨s, hs, rfl, hpieces⟩ := ih
    exact ⟨s.cons c, hs.cons hhole, s.text_cons c, by
      rw [pieces_cons_of_eq_none hhole, s.pieces_cons, hpieces]⟩

end Split

/-! ## Paths -/

/-- **The text without the blanks around it.** -/
structure IsStripped (path body : List Char) : Prop where
  /-- There are only blanks around it. -/
  around : ∃ before after, body = before ++ path ++ after ∧ (∀ c ∈ before, isBlank c = true) ∧
    ∀ c ∈ after, isBlank c = true
  /-- It does not begin with a blank. -/
  head : ∀ c ∈ path.head?, isBlank c = false
  /-- It does not end with a blank. -/
  last : ∀ c ∈ path.getLast?, isBlank c = false

/-- **The names of a path**, which are separated by points. -/
structure IsPath (names : List (List Char)) (path : List Char) : Prop where
  /-- There is at least one, which may be empty. -/
  ne_nil : names ≠ []
  /-- There is no point in any of them. -/
  pointless : ∀ name ∈ names, '.' ∉ name
  /-- There is a point between two of them. -/
  joined : List.intercalate ['.'] names = path

/-- **Names lead to a value**, one member of an object after the other. -/
inductive LeadsTo : Json → List (List Char) → Json → Prop
  /-- No names lead anywhere else. -/
  | here {v : Json} : LeadsTo v [] v
  /-- A name leads to the member of that name. -/
  | member {es : Entries Json} {name : List Char} {names : List (List Char)} {v w : Json}
      (hname : Entries.get? es (String.ofList name) = some w) (hrest : LeadsTo w names v) :
      LeadsTo (.obj es) (name :: names) v

theorem IsStripped.eq_trim (h : IsStripped path body) : path = trim body := by
  obtain ⟨⟨before, after, rfl, hbefore, hafter⟩, hhead, hlast⟩ := h
  rw [List.append_assoc, trim_append_left hbefore, trim, stripWhere]
  cases path with
  | nil => rw [List.nil_append, List.dropWhile_eq_nil_iff.2 hafter]; rfl
  | cons c path =>
    rw [@dropWhile_eq_self (c :: path ++ after) _ hhead, List.reverse_append,
      List.dropWhile_append_of_pos fun d hd => hafter d (List.mem_reverse.1 hd),
      dropWhile_eq_self fun d hd => hlast d (List.getLast?_eq_head?_reverse ▸ hd),
      List.reverse_reverse]

theorem isStripped_trim (body : List Char) : IsStripped (trim body) body := by
  refine ⟨exists_stripped isBlank body, fun c hc => ?_, fun c hc => ?_⟩
  · -- what the text begins with when the blanks behind it are dropped, it began with before
    obtain ⟨after, hafter⟩ : trim body <+: body.dropWhile isBlank := by
      rw [trim, stripWhere, ← List.reverse_suffix, List.reverse_reverse]
      exact List.dropWhile_suffix isBlank
    refine of_mem_head?_dropWhile (?_ : c ∈ (body.dropWhile isBlank).head?)
    rw [← hafter, List.head?_append, Option.mem_def.1 hc]
    rfl
  · rw [trim, stripWhere, List.getLast?_reverse] at hc
    exact of_mem_head?_dropWhile hc

theorem isPath_iff {names : List (List Char)} : IsPath names path ↔ names = cutAt '.' path := by
  constructor
  · rintro ⟨hne, hpointless, rfl⟩
    exact (cutAt_intercalate hpointless hne).symm
  · rintro rfl
    refine ⟨?_, fun name hname => not_mem_of_mem_cutAt hname, ?_⟩
    · rw [cutAt_eq_splitOn]
      exact List.splitOn_ne_nil '.' path
    · rw [cutAt_eq_splitOn]
      exact List.intercalate_splitOn ..

/-- Names lead to the value that they descend to, unless that is null. -/
theorem descend_eq_iff {names : List (List Char)} {v w : Json} (hv : v ≠ .null) :
    descend w names = v ↔ LeadsTo w names v := by
  induction names generalizing w with
  | nil =>
    constructor
    · rintro rfl
      exact .here
    · rintro ⟨⟩
      rfl
  | cons name names ih =>
    constructor
    · intro h
      unfold descend at h
      split at h
      · split at h
        · next x hx => exact .member hx (ih.1 h)
        · exact absurd h.symm hv
      · exact absurd h.symm hv
    · rintro (_ | ⟨hname, hrest⟩)
      rw [descend, hname]
      exact ih.2 hrest

/-- What is looked up in a map of outputs is what the names of a path lead to, null apart. -/
theorem lookup_eq_some {v : Json} : lookup values path = some v ↔
    LeadsTo (.obj values) (cutAt '.' path) v ∧ v ≠ .null := by
  have hpath : IsPath (cutAt '.' path) path := isPath_iff.2 rfl
  obtain ⟨root, names, hcut⟩ := List.exists_cons_of_ne_nil hpath.ne_nil
  rw [lookup, hcut]
  dsimp only
  constructor
  · intro h
    split at h
    · cases h
    · next w hw =>
      split at h
      · cases h
      · next hnull =>
        cases h
        exact ⟨.member hw ((descend_eq_iff hnull).1 rfl), hnull⟩
  · rintro ⟨_ | ⟨hw, hrest⟩, hnull⟩
    rw [hw]
    dsimp only
    rw [(descend_eq_iff hnull).2 hrest]
    split
    · exact absurd rfl hnull
    · rfl

/-! ## What is filled in -/

/-- **A value stands for a placeholder**: it is what the path of the placeholder leads to, and it is
not null. -/
inductive StandsFor (values : Entries Json) (body : List Char) (v : Json) : Prop
  /-- The names of the path lead to the value. -/
  | intro {path : List Char} {names : List (List Char)} (hpath : IsStripped path body)
      (hnames : IsPath names path) (hv : LeadsTo (.obj values) names v) (hnull : v ≠ .null)

theorem standsFor_iff {v : Json} :
    StandsFor values body v ↔ lookup values (pathText body) = some v := by
  rw [lookup_eq_some]
  constructor
  · rintro ⟨hpath, hnames, hv, hnull⟩
    rw [pathText, ← hpath.eq_trim, ← isPath_iff.1 hnames]
    exact ⟨hv, hnull⟩
  · rintro ⟨hv, hnull⟩
    exact ⟨isStripped_trim body, isPath_iff.2 rfl, hv, hnull⟩

/-- **What a placeholder becomes**, and what is told of it. -/
inductive Becomes (values : Entries Json) (body : List Char) : List Char → Option String → Prop
  /-- A value stands for it, and the text of the value is put in its place. -/
  | value {v : Json} {shown : String} (hv : StandsFor values body v)
      (hshown : v.display = .ok shown) : Becomes values body shown.toList none
  /-- Its path leads to nothing or to null, and it is kept and told by its path. -/
  | kept {path : List Char} {names : List (List Char)} (hpath : IsStripped path body)
      (hnames : IsPath names path) (hnone : ∀ v, LeadsTo (.obj values) names v → v = .null) :
      Becomes values body (Piece.hole body).text (some (String.ofList path))

theorem becomes_iff {out : List Char} {told : Option String} :
    Becomes values body out told ↔ fill values (.hole body) = .ok (out, told) := by
  constructor
  · rintro (⟨hv, hshown⟩ | ⟨hpath, hnames, hnone⟩)
    · rw [fill, standsFor_iff.1 hv]
      dsimp only
      rw [hshown]
      rfl
    · have hlookup : lookup values (pathText body) = none := by
        refine Option.eq_none_iff_forall_ne_some.2 fun v hv => ?_
        rw [pathText, ← hpath.eq_trim, lookup_eq_some, ← isPath_iff.1 hnames] at hv
        exact hv.2 (hnone v hv.1)
      rw [fill, hlookup, hpath.eq_trim]
      rfl
  · intro h
    rw [fill] at h
    split at h
    · next v hv =>
      obtain ⟨shown, hshown, h⟩ := Outcome.bind_eq_ok.1 h
      cases Outcome.pure_eq_ok.1 h
      exact .value (standsFor_iff.2 hv) hshown
    · next hlookup =>
      cases h
      refine .kept (isStripped_trim body) (isPath_iff.2 rfl) fun v hv => ?_
      by_contra hnull
      cases hlookup.symm.trans (lookup_eq_some.2 ⟨hv, hnull⟩)

/-- A placeholder becomes something, unless a value stands for it that has no text. -/
theorem exists_fill_iff : (∃ filled, fill values (.hole body) = .ok filled) ↔
    ∀ v, StandsFor values body v → ∃ shown, v.display = .ok shown := by
  simp only [standsFor_iff]
  rw [fill]
  cases lookup values (pathText body) with
  | none => exact iff_of_true ⟨_, rfl⟩ nofun
  | some v => simp only [Outcome.exists_bind_pure_eq_ok, Option.some.injEq, forall_eq']

/-- **What a split text becomes**: the literal pieces stay as they are. -/
inductive Split.Resolves (values : Entries Json) : Split → List Char → List String → Prop
  /-- The last literal piece. -/
  | last {literal : List Char} : Resolves values (.last literal) literal []
  /-- A literal piece and a placeholder. -/
  | hole {literal body out text : List Char} {rest : Split} {told : Option String}
      {unresolved : List String} (hbody : Becomes values body out told)
      (hrest : rest.Resolves values text unresolved) :
      Resolves values (.hole literal body rest) (literal ++ (out ++ text))
        (told.toList ++ unresolved)

namespace Split

variable {s : Split} {text : List Char} {unresolved : List String}

/-- Characters that stand for themselves are left as they are. -/
theorem mapM_fill_char (values : Entries Json) (literal : List Char) :
    (literal.map Piece.char).mapM (fill values)
      = .ok (literal.map fun c => ([c], (none : Option String))) := by
  have hchar : ∀ p ∈ literal.map Piece.char, fill values p = .ok (p.text, none) := by
    intro p hp
    obtain ⟨c, -, rfl⟩ := List.mem_map.1 hp
    rfl
  rw [Outcome.mapM_eq_ok hchar, List.map_map]
  rfl

/-- A split text becomes what its parts are filled with. -/
theorem resolves_iff : s.Resolves values text unresolved ↔
    ∃ filled, s.pieces.mapM (fill values) = .ok filled ∧
      text = filled.flatMap Prod.fst ∧ unresolved = filled.filterMap Prod.snd := by
  have hliteral (literal : List Char) :
      (literal.map fun c => ([c], (none : Option String))).flatMap Prod.fst = literal ∧
        (literal.map fun c => ([c], (none : Option String))).filterMap Prod.snd = [] := by
    simp [List.flatMap_map, List.filterMap_map]
  induction s generalizing text unresolved with
  | last literal =>
    rw [pieces, mapM_fill_char]
    constructor
    · rintro ⟨⟩
      exact ⟨_, rfl, (hliteral _).1.symm, (hliteral _).2.symm⟩
    · rintro ⟨_, ⟨⟩, rfl, rfl⟩
      rw [(hliteral _).1, (hliteral _).2]
      exact .last
  | hole literal body rest ih =>
    rw [pieces, List.mapM_append, mapM_fill_char, List.mapM_cons]
    simp only [Outcome.ok_bind, Outcome.bind_eq_ok, Outcome.pure_eq_ok]
    constructor
    · rintro (_ | ⟨hbody, hrest⟩)
      obtain ⟨filled, hfilled, rfl, rfl⟩ := ih.1 hrest
      refine ⟨_, ⟨_, ⟨_, becomes_iff.1 hbody, _, hfilled, rfl⟩, rfl⟩, ?_, ?_⟩
      · rw [List.flatMap_append, (hliteral _).1, List.flatMap_cons]
      · rw [List.filterMap_append, (hliteral _).2, List.nil_append, List.filterMap_cons]
        split <;> simp_all
    · rintro ⟨_, ⟨_, ⟨⟨out, told⟩, hbody, filled, hfilled, rfl⟩, rfl⟩, rfl, rfl⟩
      have hresolves : (Split.hole literal body rest).Resolves values _ _ :=
        .hole (becomes_iff.2 hbody) (ih.2 ⟨filled, hfilled, rfl, rfl⟩)
      rw [List.flatMap_append, (hliteral _).1, List.flatMap_cons, List.filterMap_append,
        (hliteral _).2, List.nil_append]
      cases told <;> exact hresolves

end Split

/-- **A template is filled placeholder by placeholder.** Its text is split in one way only into
literal pieces and the leftmost placeholders that do not overlap. The literal pieces stay as they
are; each placeholder gives way to what its path leads to in the map, or stays as it is and is told
by its path, in order and as often as it stands there. The template can be filled unless a value
that stands for a placeholder has no text. Without outputs the text stays as it is. -/
theorem resolves_iff_resolve_eq (template : String) (values : Option (Entries Json)) :
    (∃! s : Split, s.IsLeftmost ∧ s.text = template.toList) ∧
    (∀ s : Split, s.IsLeftmost → s.text = template.toList →
      (∀ text unresolved, s.Resolves (values.getD []) text unresolved ↔
        resolve template values = .ok ⟨String.ofList text, unresolved⟩) ∧
      ((∃ said, resolve template values = .ok said) ↔
        ∀ body ∈ s.bodies, ∀ v, StandsFor (values.getD []) body v →
          ∃ shown, v.display = .ok shown)) ∧
    (values.getD [] = [] → ∃ unresolved, resolve template values = .ok ⟨template, unresolved⟩) := by
  obtain ⟨s, hs, htext, hpieces⟩ := Split.exists_pieces_eq template.toList
  refine ⟨⟨s, ⟨hs, htext⟩, fun s' hs' => hs'.1.eq_of_text_eq hs (hs'.2.trans htext.symm)⟩,
    fun s' hs' htext' => ?_, fun hnone => ?_⟩
  · obtain rfl := hs'.eq_of_text_eq hs (htext'.trans htext.symm)
    refine ⟨fun text unresolved => ?_, ?_⟩
    · rw [Split.resolves_iff, resolve, hpieces, Outcome.bind_eq_ok]
      refine exists_congr fun filled => and_congr_right fun _ => ?_
      rw [Outcome.pure_eq_ok, Resolved.mk.injEq, String.ofList_inj, @eq_comm _ text,
        @eq_comm _ unresolved]
    · rw [resolve, Outcome.exists_bind_pure_eq_ok, Outcome.exists_mapM_eq_ok, ← hpieces]
      constructor
      · exact fun h body hbody => exists_fill_iff.1 (h _ (Split.hole_mem_pieces.2 hbody))
      · rintro h (c | body) hp
        · exact ⟨_, rfl⟩
        · exact exists_fill_iff.2 (h body (Split.hole_mem_pieces.1 hp))
  · -- nothing is found, and so every part is left as it is
    have hkept (p : Piece) : ∃ told, fill [] p = .ok (p.text, told) := by
      cases p with
      | char c => exact ⟨none, rfl⟩
      | hole body =>
        have hlookup : lookup [] (pathText body) = none := by
          unfold lookup
          split <;> rfl
        rw [fill, hlookup]
        exact ⟨_, rfl⟩
    choose told htold using hkept
    refine ⟨(pieces template.toList).filterMap told, ?_⟩
    rw [resolve, hnone, Outcome.mapM_eq_ok fun p _ => htold p]
    simp only [Outcome.ok_bind, List.flatMap_map, List.filterMap_map, Function.comp_def,
      flatMap_text_pieces, String.ofList_toList]
    rfl

-- What is put in looks like a placeholder, and is not filled.
example :
    resolve "\x7b\x7ba\x7d\x7d\x7b\x7b b.c \x7d\x7d" (some [("a", .str "\x7b\x7ba\x7d\x7d")]) =
      .ok ⟨"\x7b\x7ba\x7d\x7d\x7b\x7b b.c \x7d\x7d", ["b.c"]⟩ := by
  decide +kernel

end Template

end Workflow
