import Workflow.Proofs.Readable
import Workflow.Proofs.Renaming
import Workflow.Proofs.Splice

/-!
# What a renaming rewrites, and what it leaves

When a node gets another slug, the references to the old one are searched from left to right in the
addresses and headers of the other API calls, and written anew. `Reference.Rewrites` says what that
is without the search: character by character the text stays, and where a reference begins it gives
way to a new one.

A reference begins with two braces, and so does what is put in its place, so that one may fear that
a new reference to the old slug comes about, where a brace stands in front of what was put in, or
that one is left that overlapped another. None is (`Reference.Rewrites.not_isInfix`): behind its
braces a reference has no brace, hence all that is read as a reference in the new text either was
one in the old text or is the one that was put in, and that is to the new slug. So to rewrite a text
once more changes nothing.

`Flow.Follows` says that this is all a renaming does to the other nodes.
-/

namespace Workflow

open Outcome

namespace Reference

open Workflow.Text

variable {slug old new : String} {c : Char} {m cs cs' w rest post : List Char} {n : Nat}

/-! ## References in a text -/

/-- **A reference to a slug**: two opening braces, blanks, the slug and a point. -/
def IsReferenceTo (slug : String) (m : List Char) : Prop :=
  ∃ gap, m = '\x7b' :: '\x7b' :: (gap ++ patternOf slug) ∧ ∀ c ∈ gap, isBlank c = true

theorem IsReferenceTo.exists_length (h : IsReferenceTo slug m) : ∃ j, m.length = j + 1 := by
  obtain ⟨gap, rfl, -⟩ := h
  exact ⟨_, rfl⟩

/-- The search finds a reference where one begins, and nothing else. -/
theorem length?_eq_some (h : Naming.IsIdentifier slug) :
    length? (patternOf slug) cs = some n ↔
      ∃ m rest, cs = m ++ rest ∧ m.length = n ∧ IsReferenceTo slug m := by
  have hp := isPattern_patternOf h
  constructor
  · intro hlength
    unfold length? at hlength
    split at hlength
    · next cs =>
      obtain ⟨k, hk, rfl⟩ := Option.map_eq_some_iff.1 hlength
      obtain ⟨gap, rest, rfl, rfl, hgap⟩ := (gapBefore?_eq_some hp).1 hk
      exact ⟨_, rest, rfl, by simp; omega, gap, rfl, hgap⟩
    · cases hlength
  · rintro ⟨_, rest, rfl, rfl, gap, rfl, hgap⟩
    have hfound := (gapBefore?_eq_some hp).2
      ⟨gap, rest, rfl, rfl, hgap⟩
    simp only [List.cons_append, length?, hfound, Option.map_some, Option.some.injEq]
    simp
    omega

theorem length?_eq_none (h : Naming.IsIdentifier slug) :
    length? (patternOf slug) cs = none ↔ ∀ m, IsReferenceTo slug m → ¬ m <+: cs := by
  rw [Option.eq_none_iff_forall_ne_some]
  constructor
  · rintro hnone m hm ⟨rest, rfl⟩
    exact hnone _ ((length?_eq_some h).2 ⟨m, rest, rfl, rfl, hm⟩)
  · intro hnone n hn
    obtain ⟨m, rest, rfl, -, hm⟩ := (length?_eq_some h).1 hn
    exact hnone m hm (List.prefix_append _ _)

/-! ## Rewritten texts -/

/-- **What a text becomes when its references to a slug are written anew**, from left to right.
What was put in is not looked at again. -/
inductive Rewrites (old new : String) : List Char → List Char → Prop
  /-- Nothing is left. -/
  | nil : Rewrites old new [] []
  /-- No reference begins here. -/
  | keep {c : Char} {cs cs' : List Char} : (∀ m, IsReferenceTo old m → ¬ m <+: c :: cs) →
    Rewrites old new cs cs' → Rewrites old new (c :: cs) (c :: cs')
  /-- A reference begins here. -/
  | anew {m rest rest' : List Char} : IsReferenceTo old m → Rewrites old new rest rest' →
    Rewrites old new (m ++ rest) (opening new ++ rest')

/-- What the search makes of a text is the text with its references written anew. -/
theorem rewrites_replaceFrom (h : Naming.IsIdentifier old) (new : String) (cs : List Char) :
    Rewrites old new cs (replaceFrom (patternOf old) (fun _ => opening new) 0 cs) := by
  induction hlength : cs.length using Nat.strong_induction_on generalizing cs with
  | _ k ih =>
    cases cs with
    | nil => exact .nil
    | cons c cs =>
      cases hfound : length? (patternOf old) (c :: cs) with
      | none =>
        rw [replaceFrom, hfound]
        exact .keep ((length?_eq_none h).1 hfound) (ih _ (by simp [← hlength]) _ rfl)
      | some n =>
        obtain ⟨m, rest, htext, rfl, hm⟩ := (length?_eq_some h).1 hfound
        obtain ⟨j, hj⟩ := hm.exists_length
        rw [htext, hj] at hfound
        rw [htext, replaceFrom_of_length? hfound, ← hj, List.drop_left]
        refine .anew hm (ih _ ?_ _ rfl)
        rw [← hlength, htext, List.length_append]
        omega

/-- **Texts are rewritten in one way**, and the search does it. -/
theorem rewrites_iff (hold : Naming.IsIdentifier old) :
    Rewrites old new cs cs' ↔ cs' = replaceFrom (patternOf old) (fun _ => opening new) 0 cs := by
  constructor
  · intro h
    induction h with
    | nil => rfl
    | keep hnone _ ih => rw [replaceFrom, (length?_eq_none hold).2 hnone, ih]
    | @anew m rest rest' hm _ ih =>
      obtain ⟨j, hj⟩ := hm.exists_length
      have hfound := (length?_eq_some hold).2 ⟨m, rest, rfl, hj, hm⟩
      rw [replaceFrom_of_length? hfound, ← hj, List.drop_left, ih]
  · rintro rfl
    exact rewrites_replaceFrom hold new cs

/-! ## Nothing is left -/

/-- Behind its braces a reference has no brace. -/
theorem not_mem_of_blank {gap : List Char} (h : Naming.IsIdentifier slug)
    (hgap : ∀ c ∈ gap, isBlank c = true) : '\x7b' ∉ gap ++ patternOf slug := by
  rw [List.mem_append, patternOf, List.mem_append, List.mem_singleton]
  rintro (hmem | hmem | hmem)
  · exact absurd (hgap _ hmem) (by decide)
  · exact h.not_mem (by decide) hmem
  · cases hmem

/-- What comes out without a brace in it came in so. -/
theorem Rewrites.exists_append (h : Rewrites old new cs (w ++ post)) (hw : '\x7b' ∉ w) :
    ∃ rest, cs = w ++ rest ∧ Rewrites old new rest post := by
  induction w generalizing cs with
  | nil => exact ⟨cs, rfl, h⟩
  | cons c w ih =>
    obtain ⟨hc, hw⟩ := not_or.1 (mt List.mem_cons.2 hw)
    generalize hout : c :: w ++ post = out at h
    cases h with
    | nil => cases hout
    | keep _ h =>
      obtain ⟨rfl, rfl⟩ := List.cons_eq_cons.1 hout
      obtain ⟨rest, rfl, hrest⟩ := ih h hw
      exact ⟨rest, rfl, hrest⟩
    | anew => exact absurd (List.cons_eq_cons.1 hout).1.symm hc

/-- Blanks in front of a slug are all the blanks there. -/
theorem dropWhile_isBlank {gap : List Char} (h : Naming.IsIdentifier slug)
    (hgap : ∀ c ∈ gap, isBlank c = true) (rest : List Char) :
    (gap ++ (slug.toList ++ rest)).dropWhile isBlank = slug.toList ++ rest := by
  obtain ⟨c, cs, hc⟩ := List.exists_cons_of_ne_nil fun he => h.1 (String.toList_eq_nil_iff.1 he)
  have hblank : isBlank c = false := h.not_isBlank c (hc ▸ List.mem_cons_self)
  rw [List.dropWhile_append_of_pos hgap, hc, List.cons_append,
    List.dropWhile_cons_of_neg (by simp [hblank])]

/-- A reference that begins like what was put in is to the same slug. -/
theorem IsReferenceTo.eq_of_isPrefix (hold : Naming.IsIdentifier old)
    (hnew : Naming.IsIdentifier new) (hm : IsReferenceTo old m) (h : m <+: opening new ++ rest) :
    old = new := by
  obtain ⟨gap, rfl, hgap⟩ := hm
  obtain ⟨post, hpost⟩ := h
  have htail : gap ++ (old.toList ++ '.' :: post) = [' '] ++ (new.toList ++ '.' :: rest) := by
    simpa [opening, patternOf] using hpost
  have hspace : ∀ c ∈ [' '], isBlank c = true := List.forall_mem_singleton.2 (by decide)
  have hslugs : old.toList ++ '.' :: post = new.toList ++ '.' :: rest := by
    rw [← dropWhile_isBlank hold hgap, htail, dropWhile_isBlank hnew hspace]
  have hcut := congrArg (cutAt '.') hslugs
  rw [cutAt_append_cons (hold.not_mem (by decide)),
    cutAt_append_cons (hnew.not_mem (by decide))] at hcut
  exact String.toList_inj.1 (List.cons_eq_cons.1 hcut).1

/-- **No reference begins a text that was rewritten.** -/
theorem Rewrites.not_isPrefix (hold : Naming.IsIdentifier old) (hnew : Naming.IsIdentifier new)
    (hne : old ≠ new) (h : Rewrites old new cs cs') (hm : IsReferenceTo old m) : ¬ m <+: cs' := by
  intro hbegins
  cases h with
  | nil =>
    obtain ⟨j, hj⟩ := hm.exists_length
    rw [List.prefix_nil.1 hbegins] at hj
    cases hj
  | anew => exact hne (hm.eq_of_isPrefix hold hnew hbegins)
  | @keep c cs cs' hnone h =>
    obtain ⟨gap, rfl, hgap⟩ := hm
    obtain ⟨post, hpost⟩ := hbegins
    obtain ⟨rfl, hout⟩ := List.cons_eq_cons.1 hpost
    have hbrace := not_mem_of_blank hold hgap
    cases h with
    | nil => cases hout
    | @keep d ds ds' _ h =>
      -- all of it came in as it came out, and began a reference there
      obtain ⟨rfl, rfl⟩ := List.cons_eq_cons.1 hout
      obtain ⟨rest, rfl, -⟩ := h.exists_append hbrace
      exact hnone _ ⟨gap, rfl, hgap⟩ ⟨rest, rfl⟩
    | anew =>
      -- the second brace is the first one of what was put in, and another one follows
      obtain ⟨d, ds, hd⟩ : ∃ d ds, gap ++ patternOf old = d :: ds :=
        List.exists_cons_of_ne_nil (by simp [patternOf])
      rw [hd] at hout hbrace
      obtain rfl := (List.cons_eq_cons.1 (List.cons_eq_cons.1 hout).2).1
      exact hbrace List.mem_cons_self

/-- A reference begins with a brace, so it does not begin where there is none. -/
theorem IsReferenceTo.isInfix_of_append (hm : IsReferenceTo slug m) (hw : '\x7b' ∉ w)
    (h : m <:+: w ++ rest) : m <:+: rest := by
  induction w with
  | nil => exact h
  | cons c w ih =>
    obtain ⟨hc, hw⟩ := not_or.1 (mt List.mem_cons.2 hw)
    obtain ⟨post, hpost⟩ | hwithin := List.infix_cons_iff.1 h
    · obtain ⟨gap, rfl, -⟩ := hm
      exact absurd (List.cons_eq_cons.1 hpost).1 hc
    · exact ih hw hwithin

/-- **No reference is left in a text that was rewritten.** -/
theorem Rewrites.not_isInfix (hold : Naming.IsIdentifier old) (hnew : Naming.IsIdentifier new)
    (hne : old ≠ new) (h : Rewrites old new cs cs') (hm : IsReferenceTo old m) : ¬ m <:+: cs' := by
  have hwhole := h.not_isPrefix hold hnew hne hm
  induction h with
  | nil => rwa [List.infix_nil, ← List.prefix_nil]
  | keep _ h ih =>
    rw [List.infix_cons_iff, not_or]
    exact ⟨hwhole, ih (h.not_isPrefix hold hnew hne hm)⟩
  | @anew _ _ rest' _ h ih =>
    rintro hwithin
    obtain hbegins | hwithin := List.infix_cons_iff.1 hwithin
    · exact hwhole hbegins
    obtain ⟨post, hpost⟩ | hwithin := List.infix_cons_iff.1 hwithin
    · obtain ⟨gap, rfl, -⟩ := hm
      cases (List.cons_eq_cons.1 (List.cons_eq_cons.1 hpost).2).1
    have hspace : ∀ c ∈ [' '], isBlank c = true := List.forall_mem_singleton.2 (by decide)
    exact ih (h.not_isPrefix hold hnew hne hm)
      (hm.isInfix_of_append (not_mem_of_blank hnew hspace) hwithin)

/-- **What happens to a text** in which the references to a slug are written anew. -/
structure Follows (old new text text' : String) : Prop where
  /-- Each of them is written anew, from left to right, and all else is as it was. -/
  rewrites : Rewrites old new text.toList text'.toList
  /-- None is left. -/
  gone : ∀ m, IsReferenceTo old m → ¬ m <:+: text'.toList
  /-- To do the same once more changes nothing. -/
  settled : redirect old new text' = text'

theorem follows_redirect (hold : Naming.IsIdentifier old) (hnew : Naming.IsIdentifier new)
    (hne : old ≠ new) (text : String) : Follows old new text (redirect old new text) := by
  have hrewrites : Rewrites old new text.toList (redirect old new text).toList :=
    (rewrites_iff hold).2 (by rw [redirect, String.toList_ofList])
  have hgone := fun m hm => hrewrites.not_isInfix hold hnew hne (m := m) hm
  refine ⟨hrewrites, hgone, ?_⟩
  have hsame : replaceFrom (patternOf old) (fun _ => opening new) 0
      ((redirect old new text).toList ++ []) = (redirect old new text).toList ++ [] := by
    refine replaceFrom_append fun k _ => (length?_eq_none hold).2 fun m hm hbegins => ?_
    rw [List.append_nil] at hbegins
    exact hgone m hm (hbegins.isInfix.trans (List.drop_suffix k _).isInfix)
  rw [List.append_nil] at hsame
  rw [redirect, hsame, String.ofList_toList]

end Reference

/-! ## The parameters of the other nodes -/

/-- **Two objects with the same keys**, in the same order, and values that belong together. -/
structure Entries.Correspond (R : String → Json → Json → Prop) (es es' : Entries Json) : Prop where
  /-- The keys are the same. -/
  keys : Entries.keys es' = Entries.keys es
  /-- The values at a key belong together. -/
  values : ∀ key v, Entries.get? es key = some v →
    ∃ v', Entries.get? es' key = some v' ∧ R key v v'

namespace Node

variable {old new : String} {k k' : Node}

/-- **What happens to a value** in which the references to a slug are written anew: it is a text and
follows, or it stays. -/
def FollowsInText (old new : String) : Json → Json → Prop
  | .str text, v' => ∃ text', v' = .str text' ∧ Reference.Follows old new text text'
  | v, v' => v' = v

/-- What happens to a header: it is an object and the text at its value follows, or it stays. -/
def FollowsInHeader (old new : String) : Json → Json → Prop
  | .obj es, v' => ∃ es', v' = .obj es' ∧ Entries.Correspond
    (fun key v w => if key = "value" then FollowsInText old new v w else w = v) es es'
  | v, v' => v' = v

/-- What happens to headers: they are a list and each follows, or they stay. -/
def FollowsInHeaders (old new : String) : Json → Json → Prop
  | .arr headers, v' => ∃ headers', v' = .arr headers' ∧
    List.Forall₂ (FollowsInHeader old new) headers headers'
  | v, v' => v' = v

/-- **What happens to another node** when a slug is replaced: an API call follows in its address and
its headers, and nothing else about any node is different. -/
structure FollowsSlug (old new : String) (k k' : Node) : Prop where
  /-- The id, the type, the name, the slug and the position are as they were. -/
  frame : k' = { k with parameters := k'.parameters }
  /-- So are the parameters of all nodes but API calls. -/
  others : k.type ≠ Builtin.apiCallName → k'.parameters = k.parameters
  /-- An API call has the same parameters, and only the address and the headers follow. -/
  parameters : k.type = Builtin.apiCallName → Entries.Correspond
    (fun key v v' => if key = "url" then FollowsInText old new v v'
      else if key = "headers" then FollowsInHeaders old new v v' else v' = v)
    k.parameters k'.parameters

theorem keys_adjust (f : Json → Json) (key : String) (es : Entries Json) :
    Entries.keys (adjust f key es) = Entries.keys es := by
  unfold adjust
  split
  · next v hv =>
    have hkey : key ∈ Entries.keys es := Entries.has_iff_mem_keys.1 (by rw [Entries.has, hv]; rfl)
    rw [Entries.keys_put, if_pos hkey]
  · rfl

theorem followsInText_redirectText (hold : Naming.IsIdentifier old)
    (hnew : Naming.IsIdentifier new) (hne : old ≠ new) (v : Json) :
    FollowsInText old new v (redirectText old new v) := by
  cases v with
  | str text => exact ⟨_, rfl, Reference.follows_redirect hold hnew hne text⟩
  | _ => rfl

theorem followsInHeader_redirectHeader (hold : Naming.IsIdentifier old)
    (hnew : Naming.IsIdentifier new) (hne : old ≠ new) (v : Json) :
    FollowsInHeader old new v (redirectHeader old new v) := by
  cases v with
  | obj es =>
    refine ⟨_, rfl, keys_adjust _ _ _, fun key v hv => ?_⟩
    rw [get?_adjust]
    split
    · next hkey =>
      subst hkey
      rw [hv]
      exact ⟨_, rfl, followsInText_redirectText hold hnew hne v⟩
    · exact ⟨v, hv, rfl⟩
  | _ => rfl

theorem followsInHeaders_redirectHeaders (hold : Naming.IsIdentifier old)
    (hnew : Naming.IsIdentifier new) (hne : old ≠ new) (v : Json) :
    FollowsInHeaders old new v (redirectHeaders old new v) := by
  cases v with
  | arr headers =>
    refine ⟨_, rfl, List.forall₂_map_right_iff.2 (List.forall₂_same.2 fun header _ => ?_)⟩
    exact followsInHeader_redirectHeader hold hnew hne header
  | _ => rfl

/-- **A node whose references are redirected follows.** -/
theorem followsSlug_redirected (hold : Naming.IsIdentifier old) (hnew : Naming.IsIdentifier new)
    (hne : old ≠ new) (k : Node) : k.FollowsSlug old new (k.redirected old new) := by
  unfold redirected
  split
  · next htype =>
    refine ⟨rfl, absurd htype, fun _ => ⟨?_, fun key v hv => ?_⟩⟩
    · rw [keys_adjust, keys_adjust]
    · rw [get?_adjust, get?_adjust, get?_adjust]
      by_cases hheaders : key = "headers"
      · subst hheaders
        rw [if_pos rfl, if_neg (by decide), hv]
        exact ⟨_, rfl, followsInHeaders_redirectHeaders hold hnew hne v⟩
      · rw [if_neg hheaders]
        by_cases hurl : key = "url"
        · subst hurl
          rw [if_pos rfl, hv]
          exact ⟨_, rfl, followsInText_redirectText hold hnew hne v⟩
        · rw [if_neg hurl]
          exact ⟨v, hv, by rw [if_neg hurl, if_neg hheaders]⟩
  · next htype => exact ⟨rfl, fun _ => rfl, fun h => absurd h htype⟩

end Node

/-! ## The flow -/

namespace Flow

variable {f g : Flow} {s : Setting} {node old new : String} {update : NodeUpdate} {n m : Node}

/-- **What happens to a flow** in which a node gets another slug: all other nodes follow, each in
its place, and the connections stay. -/
structure Follows (node old new : String) (f g : Flow) : Prop where
  /-- The nodes are the same and in the same order. -/
  ids : g.nodes.map Node.id = f.nodes.map Node.id
  /-- The other nodes follow. -/
  others : ∀ (i : Nat) (k : Node), f.nodes[i]? = some k → k.id ≠ node →
    ∃ k', g.nodes[i]? = some k' ∧ k.FollowsSlug old new k'
  /-- The connections are as they were. -/
  connections : g.connections = f.connections

theorem follows_of_updateNode (h : f.updateNode s node update = .ok (g, m))
    (hn : f.findNode? node = some n) (hslug : n.slug = some old)
    (hold : Naming.IsIdentifier old) (hnew : m.slug = some new) (hne : old ≠ new) :
    f.Follows node old new g := by
  have hsame := updateNode_ok h
  refine ⟨hsame.nodeIds_eq, fun i k hk hid => ?_, hsame.connections_eq⟩
  obtain ⟨hk', hident⟩ := getElem?_of_updateNode h hn hslug hnew hne hold.1 hk hid
  exact ⟨_, hk', Node.followsSlug_redirected hold hident hne k⟩

/-- An updated flow whose nodes can be kept is written down as it is, but for the node that was
updated. -/
theorem follows_written (hkeepable : f.Keepable) (h : f.updateNode s node update = .ok (g, m))
    (hn : f.findNode? node = some n) (hslug : n.slug = some old)
    (hold : Naming.IsIdentifier old) (hnew : m.slug = some new) (hne : old ≠ new) :
    f.Follows node old new g.written := by
  have hfollows := follows_of_updateNode h hn hslug hold hnew hne
  refine ⟨?_, fun i k hk hid => ?_, hfollows.connections⟩
  · rw [← hfollows.ids, written, List.map_map]
    rfl
  · obtain ⟨hk', hident⟩ := getElem?_of_updateNode h hn hslug hnew hne hold.1 hk hid
    refine ⟨k.redirected old new, ?_, Node.followsSlug_redirected hold hident hne k⟩
    have hkept : (k.redirected old new).Keepable :=
      (hkeepable k (List.mem_of_getElem? hk)).redirected
    rw [written, List.getElem?_map, hk', Option.map_some, Node.written,
      Json.writtenMembers_of_finite _ (Json.membersFinite_iff.2 fun e he => (hkept.2 e he).1)]

/-- A save is about none of this. -/
theorem Follows.saved (h : f.Follows node old new g) (now : String) :
    f.Follows node old new (g.saved now) :=
  ⟨h.ids, h.others, h.connections⟩

theorem Keepable.updateNode (hkeepable : f.Keepable)
    (h : f.updateNode s node update = .ok (g, m)) (hm : m.Keepable) : g.Keepable := by
  obtain ⟨n, k, -, hk, rfl, -⟩ := updateNode_inv h
  exact (hkeepable.redirectedTo hk).replaceNode hm

end Flow

/-- A store that a run has come to keeps documents. -/
theorem Reaches.exists_keeps {σ : Type} [FlowStore σ] [LawfulStore σ]
    {Allowed : Surroundings → σ → Command → Prop} {s : σ} (h : Reaches Allowed FlowStore.empty s) :
    ∃ docs, LawfulStore.Keeps s docs := by
  have hall : FlowStore.All (fun _ => True) s :=
    h.all (fun _ _ => trivial) (fun _ _ _ => trivial) (fun _ _ _ _ => trivial)
      (fun _ _ _ _ _ _ => trivial) FlowStore.all_empty
  obtain ⟨docs, hkeeps, -⟩ := hall
  exact ⟨docs, hkeeps⟩

/-- The operation that updates a node of a flow. -/
def Operation.updateNode (id node : String) (update : NodeUpdate) : Operation :=
  .onFlow id (.edit (.updateNode node update))

/-- An update that is carried out saves what the edit has made of the flow. -/
theorem Operation.updateNode_ok {σ : Type} [FlowStore σ] [LawfulStore σ] {docs : Docs} {s s' : σ}
    {w : Surroundings} {id node : String} {update : NodeUpdate} {f : Flow} {reply : Reply}
    (hkeeps : LawfulStore.Keeps s docs) (hf : FlowStore.load s id = .ok (some f))
    (hrun : (updateNode id node update).run w s = .ok (s', reply)) :
    ∃ g m, f.updateNode ⟨w.registry, w.freshId, FlowStore.siblings s f⟩ node update = .ok (g, m) ∧
      reply = .edited (.node m) ∧ g.id = id ∧
      FlowStore.save s g w.now = .ok (s', g.saved w.now) := by
  obtain ⟨g, result, k, happly, hsave, rfl⟩ := (run_edit_eq_ok hf).1 hrun
  obtain ⟨⟨g, m⟩, hg, happly⟩ := bind_eq_ok.1 happly
  cases pure_eq_ok.1 happly
  obtain ⟨hguard, -⟩ := LawfulStore.save_ok hkeeps hsave
  obtain rfl := (Docs.save_eq_ok.1 hguard).2
  exact ⟨g, m, hg, rfl, (Flow.updateNode_ok hg).id_eq.trans (FlowStore.id_of_load hkeeps hf),
    hsave⟩

/-- **A renaming rewrites the references to a node and nothing else**, in each flow of a store that
a run has come to, in memory and in a table. When an update has changed the slug of a node, then
what is loaded afterwards is the flow in which all others follow; and it can be loaded, from a table
if the node can be kept as it is then. -/
theorem follows_of_reaches {w : Surroundings} {id node old : String} {update : NodeUpdate}
    {f : Flow} {n : Node} (hn : f.findNode? node = some n) (hslug : n.slug = some old) :
    (∀ (m m' : Memory) (reply : Reply), Reaches (fun _ _ _ => True) FlowStore.empty m →
      FlowStore.load m id = .ok (some f) →
      (Operation.updateNode id node update).run w m = .ok (m', reply) →
      ∃ k l, reply = .edited (.node k) ∧ FlowStore.load m' id = .ok (some l) ∧
        ∀ new, k.slug = some new → old ≠ new → f.Follows node old new l) ∧
    ∀ (t t' : Table) (reply : Reply), Reaches (fun _ _ _ => True) FlowStore.empty t →
      FlowStore.load t id = .ok (some f) →
      (Operation.updateNode id node update).run w t = .ok (t', reply) →
      ∃ k, reply = .edited (.node k) ∧
        (k.Keepable → ∃ l, FlowStore.load t' id = .ok (some l)) ∧
        ∀ l, FlowStore.load t' id = .ok (some l) →
          ∀ new, k.slug = some new → old ≠ new → f.Follows node old new l := by
  constructor
  · intro m m' reply h hf hrun
    obtain ⟨docs, hkeeps⟩ := h.exists_keeps
    obtain ⟨g, k, hg, rfl, rfl, hsave⟩ := Operation.updateNode_ok hkeeps hf hrun
    have hident := hasSlugs_of_reaches h hf n (Flow.mem_of_findNode? hn) old hslug
    refine ⟨k, g.saved w.now, rfl, FlowStore.load_of_save hkeeps hsave rfl, fun new hnew hne => ?_⟩
    exact (Flow.follows_of_updateNode hg hn hslug hident hnew hne).saved w.now
  · intro t t' reply h hf hrun
    obtain ⟨docs, hkeeps⟩ := h.exists_keeps
    obtain ⟨g, k, hg, rfl, rfl, hsave⟩ := Operation.updateNode_ok hkeeps hf hrun
    have hident := hasSlugs_of_reaches h hf n (Flow.mem_of_findNode? hn) old hslug
    have hkeepable : f.Keepable := by
      obtain ⟨d, -, hread⟩ := (FlowStore.load_eq_some hkeeps).1 hf
      exact Row.keepable_of_flow hread
    refine ⟨k, rfl, fun hk => ?_, fun l hl new hnew hne => ?_⟩
    · have hupdated : g.Keepable := hkeepable.updateNode hg hk
      exact ⟨_, FlowStore.load_of_save hkeeps hsave
        (Flow.Keepable.flow_ofFlow (f := g.saved w.now) hupdated
          (Table.fitsWord_saved (Table.fitsColumn_of_save hsave) w.now))⟩
    · obtain ⟨-, rfl | rfl⟩ := FlowStore.eq_of_load_of_save hkeeps hsave hl
      · exact (Flow.follows_of_updateNode hg hn hslug hident hnew hne).saved w.now
      · exact (Flow.follows_written hkeepable hg hn hslug hident hnew hne).saved w.now

/-! ### A run -/

/-- A run that creates a flow and adds two API calls, the second of which refers to the first in its
address, behind more braces than it needs, and in a header. -/
def sampleBraces : List (Surroundings × Command) := [
  (numberedSurroundings "flow", ⟨"create_flow", [("name", .str "Pair")]⟩),
  (numberedSurroundings "api", ⟨"add_node", [("flow_id", .str "flow1"),
    ("node_type", .str Builtin.apiCallName), ("name", .str "Request")]⟩),
  (numberedSurroundings "detail", ⟨"add_node", [("flow_id", .str "flow1"),
    ("node_type", .str Builtin.apiCallName), ("name", .str "Detail"),
    ("parameters", .obj [("url", .str "/\x7b\x7b\x7b\x7brequest.id \x7d\x7d"),
      ("headers", .arr [.obj [("key", .str "\x7b\x7brequest.a"),
        ("value", .str "\x7b\x7b  request.b")], .null])])]⟩)]

/-- The store with the two, in memory. -/
def sampleBraced : Memory :=
  Command.stepAll FlowStore.empty sampleBraces

/-- The store with the two, as a table. -/
def sampleBracedRows : Table :=
  Command.stepAll FlowStore.empty sampleBraces

/-- The renaming of the first API call. -/
def sampleSearch : Operation :=
  .updateNode "flow1" "api1" { name := some "Search" }

/-- The slug of the node that an answer tells. -/
def Reply.slug? : Reply → Option String
  | .edited (.node k) => k.slug
  | _ => none

/-- In both stores the address of the second API call follows behind the braces that stay, and the
value of the header follows, but not its key. -/
theorem follows_of_reaches_sampleBraces :
    (∃ f m' reply l, FlowStore.load sampleBraced "flow1" = .ok (some f) ∧
      sampleSearch.run (numberedSurroundings "now") sampleBraced = .ok (m', reply) ∧
      FlowStore.load m' "flow1" = .ok (some l) ∧ f.Follows "api1" "request" "search" l ∧
      (l.nodes[1]?.map fun n => (n.text? .url, n.text? (.header 0)))
        = some (some "/\x7b\x7b\x7b\x7b search.id \x7d\x7d", some "\x7b\x7b search.b")) ∧
    ∃ f t' reply l, FlowStore.load sampleBracedRows "flow1" = .ok (some f) ∧
      sampleSearch.run (numberedSurroundings "now") sampleBracedRows = .ok (t', reply) ∧
      FlowStore.load t' "flow1" = .ok (some l) ∧ f.Follows "api1" "request" "search" l := by
  constructor
  · have hsample : ∃ f ∈ sampleBraced.find? "flow1",
        (f.findNode? "api1").map Node.slug = some (some "request") ∧
        ∃ p ∈ (sampleSearch.run (numberedSurroundings "now") sampleBraced).toOption,
          p.2.slug? = some "search" ∧
          (p.1.find? "flow1").map (fun l => l.nodes[1]?.map fun n =>
            (n.text? .url, n.text? (.header 0)))
              = some (some (some "/\x7b\x7b\x7b\x7b search.id \x7d\x7d",
                some "\x7b\x7b search.b")) := by
      decide +kernel
    obtain ⟨f, hf, hslug, ⟨m', reply⟩, hrun, hnew, htexts⟩ := hsample
    obtain ⟨n, hn, hslug⟩ := Option.map_eq_some_iff.1 hslug
    have hload : FlowStore.load sampleBraced "flow1" = .ok (some f) := congrArg Except.ok hf
    have hrun := mem_toOption.1 hrun
    have hreaches : Reaches (fun _ _ _ => True) FlowStore.empty sampleBraced :=
      .step (.step (.step .start _ _ trivial) _ _ trivial) _ _ trivial
    obtain ⟨k, l, rfl, hl, hfollows⟩ :=
      (follows_of_reaches hn hslug).1 sampleBraced m' reply hreaches hload hrun
    have hfound : m'.find? "flow1" = some l := Except.ok.inj hl
    rw [hfound] at htexts
    exact ⟨f, m', _, l, hload, hrun, hl, hfollows _ hnew (by decide), Option.some.inj htexts⟩
  · have hsample : ∃ found ∈ (FlowStore.load sampleBracedRows "flow1").toOption, ∃ f ∈ found,
        (f.findNode? "api1").map Node.slug = some (some "request") ∧
        ∃ p ∈ (sampleSearch.run (numberedSurroundings "now") sampleBracedRows).toOption,
          p.2.slug? = some "search" ∧
          ((FlowStore.load p.1 "flow1").toOption.bind id).isSome = true := by
      decide +kernel
    obtain ⟨found, hfound, f, hf, hslug, ⟨t', reply⟩, hrun, hnew, hloads⟩ := hsample
    obtain rfl : found = some f := hf
    obtain ⟨n, hn, hslug⟩ := Option.map_eq_some_iff.1 hslug
    have hload := mem_toOption.1 hfound
    have hrun := mem_toOption.1 hrun
    have hreaches : Reaches (fun _ _ _ => True) FlowStore.empty sampleBracedRows :=
      .step (.step (.step .start _ _ trivial) _ _ trivial) _ _ trivial
    obtain ⟨k, rfl, -, hfollows⟩ :=
      (follows_of_reaches hn hslug).2 sampleBracedRows t' reply hreaches hload hrun
    obtain ⟨l, hl⟩ := Option.isSome_iff_exists.1 hloads
    obtain ⟨_, hl, rfl⟩ := Option.bind_eq_some_iff.1 hl
    have hl := mem_toOption.1 hl
    exact ⟨f, t', _, l, hload, hrun, hl, hfollows l hl _ hnew (by decide)⟩

end Workflow
