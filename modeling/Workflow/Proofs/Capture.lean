import Workflow.Proofs.Equality
import Workflow.Proofs.Renaming

/-!
# Captured schemas

An API call keeps the schema of the responses to its request (`SchemaRule.outputKey`). Such a
schema comes with a new node, with an update that gives one, with a sample or with a live test
(`FlowTask.Stores`). A task that does none of this at a node leaves it only a schema that it had,
and then the request is still the one that the schema is about (`Node.IsAbout`): the method
and the address are unchanged or equal, except that the references in the address follow another
node that the task renames (`FlowTask.renaming?`).

An update drops the schema of a request that it changes. It compares the values that it was given
with the old ones, before they are laid over them, and it may give the same key only once, as the
parameters of an update do (`FlowTask.IsProper`).
-/

namespace Workflow

open Outcome

/-! ## Parameters -/

namespace Node

/-- The value of a parameter, null if there is none. -/
def value (n : Node) (key : String) : Json :=
  (Entries.get? n.parameters key).getD .null

variable {n : Node} {old new key : String}

/-- An address whose references were redirected. -/
theorem value_redirected_url (htype : n.type = Builtin.apiCallName) :
    (n.redirected old new).value "url" = redirectText old new (n.value "url") := by
  rw [redirected, if_pos htype, value, value, get?_adjust, if_neg (by decide), get?_adjust,
    if_pos rfl]
  cases Entries.get? n.parameters "url" <;> rfl

/-- References are redirected in the address and in the headers only. -/
theorem value_redirected_of_ne (hurl : key ≠ "url") (hheaders : key ≠ "headers") :
    (n.redirected old new).value key = n.value key := by
  unfold redirected
  split
  · rw [value, value, get?_adjust, if_neg hheaders, get?_adjust, if_neg hurl]
  · rfl

theorem value_eq_of_get? {n m : Node}
    (h : Entries.get? n.parameters key = Entries.get? m.parameters key) :
    n.value key = m.value key := by
  rw [value, value, h]

theorem value_eq_of_get?_eq_some {v : Json} (h : Entries.get? n.parameters key = some v) :
    n.value key = v := by
  rw [value, h, Option.getD_some]

/-- **A schema that an update does not give** survives it only where the request stays the
same. -/
theorem configured_followed {updates : Entries Json} (htype : n.type = Builtin.apiCallName)
    (hdistinct : Entries.Distinct updates)
    (hgiven : Entries.has updates SchemaRule.outputKey = false)
    (hschema : ((n.configured updates).value SchemaRule.outputKey).isTruthy = true) :
    (n.configured updates).value SchemaRule.outputKey = n.value SchemaRule.outputKey ∧
      ∀ key ∈ requestKeys, Json.Alike ((n.configured updates).value key) (n.value key) := by
  by_cases houtdates : n.outdates updates = true
  · -- the schema was dropped
    have hdropped : (n.configured updates).value SchemaRule.outputKey = .null := by
      refine value_eq_of_get?_eq_some ?_
      rw [configured, if_pos houtdates]
      exact (Entries.get?_merge_of_not_has hgiven).trans (Entries.get?_put_self ..)
    rw [hdropped] at hschema
    cases hschema
  · have hlaid : (n.configured updates).parameters = Entries.merge n.parameters updates := by
      rw [configured, if_neg houtdates]
    have hkept : (n.configured updates).value SchemaRule.outputKey
        = n.value SchemaRule.outputKey :=
      value_eq_of_get? (by rw [hlaid, Entries.get?_merge_of_not_has hgiven])
    rw [hkept] at hschema
    refine ⟨hkept, fun key hkey => ?_⟩
    have hcaptured : (Entries.get? n.parameters SchemaRule.outputKey).any Json.isTruthy = true := by
      unfold value at hschema
      cases hv : Entries.get? n.parameters SchemaRule.outputKey with
      | none =>
        rw [hv] at hschema
        cases hschema
      | some v =>
        rw [hv] at hschema
        exact hschema
    simp only [outdates, htype, hgiven, hcaptured, beq_self_eq_true, Bool.not_false, Bool.true_and,
      Bool.not_eq_true, List.any_eq_false] at houtdates
    have hsame : n.changes updates key = false := houtdates key hkey
    unfold changes at hsame
    split at hsame
    · next v hv =>
      have hnew : (n.configured updates).value key = v :=
        value_eq_of_get?_eq_some (by rw [hlaid, Entries.get?_merge_of_get? hdistinct hv])
      rw [hnew]
      exact .inr (Bool.not_eq_false' .. ▸ hsame)
    · next hv =>
      have hnone : Entries.has updates key = false := by rw [Entries.has, hv]; rfl
      exact .inl (value_eq_of_get? (by rw [hlaid, Entries.get?_merge_of_not_has hnone]))

end Node

/-! ## What a task does to a captured schema -/

namespace Flow

/-- The slugs, the old one and the new one, of a node that has got another slug. -/
def renaming? (f g : Flow) (id : String) : Option (String × String) := do
  let old ← (← f.findNode? id).slug
  let new ← (← g.findNode? id).slug
  if old ≠ "" ∧ old ≠ new then some (old, new) else none

end Flow

namespace FlowTask

/-- Whether an update gives each parameter once. -/
def IsProper : FlowTask → Prop
  | .edit (.updateNode _ update) => ∀ ps ∈ update.parameters, Entries.Distinct ps
  | _ => True

/-- **A task that stores a schema at a node**: it adds the node, it gives the schema in an update,
or it learns the schema from a sample or from a live test. A transform that is put between two
nodes is an API call only where the registry says so. -/
def Stores (w : Surroundings) (node : String) : FlowTask → Prop
  | .edit (.addNode ..) => w.freshId 1 = node
  | .edit (.splice ..) =>
    w.registry.categoryOf Builtin.apiCallName = some .transform ∧ w.freshId 1 = node
  | .edit (.updateNode id update) =>
    id = node ∧ ∃ ps ∈ update.parameters, Entries.has ps SchemaRule.outputKey = true
  | task => task.learner? = some node

/-- **The renaming of another node** by a task that makes one flow of another: the slugs by which
references to that node were written before and are written then. -/
def renaming? (f g : Flow) (node : String) : FlowTask → Option (String × String)
  | .edit (.updateNode other _) => if other = node then none else f.renaming? g other
  | _ => none

end FlowTask

namespace Node

/-- An address whose references follow nodes that were renamed one after the other. -/
def redirectAll (renamings : List (String × String)) (url : Json) : Json :=
  renamings.foldl (fun v r => redirectText r.1 r.2 v) url

/-- **What a captured schema is about**: the node has the schema that the other one has, its method
is unchanged or equal, and so is its address, once references have followed the nodes that were
renamed. -/
structure IsAbout (n : Node) (renamings : List (String × String)) (m : Node) : Prop where
  /-- The node is the same. -/
  id : m.id = n.id
  /-- Its type is the same. -/
  type : m.type = n.type
  /-- It has the schema. -/
  schema : n.value SchemaRule.outputKey = m.value SchemaRule.outputKey
  /-- It has the method. -/
  method : Json.Alike (n.value "method") (m.value "method")
  /-- It has the address. -/
  url : Json.Alike (n.value "url") (redirectAll renamings (m.value "url"))

variable {n m : Node}

theorem IsAbout.refl (n : Node) : n.IsAbout [] n :=
  ⟨rfl, rfl, rfl, .refl _, .refl _⟩

end Node

namespace Flow

variable {f g : Flow} {s : Setting}

/-- Whether references follow a node that has got a slug. -/
theorem renaming?_eq {id new : String} {n m : Node} (hn : f.findNode? id = some n)
    (hm : g.findNode? id = some m) (hnew : m.slug = some new) :
    f.renaming? g id = if n.slug.getD "" ≠ "" ∧ n.slug.getD "" ≠ new
      then some (n.slug.getD "", new) else none := by
  unfold renaming?
  rw [hn, hm]
  cases hold : n.slug with
  | none => simp [hold]
  | some old => simp [hold, hnew]

theorem renaming?_of_slug_eq {id : String} {n m : Node} (hn : f.findNode? id = some n)
    (hm : g.findNode? id = some m) (hslug : m.slug = n.slug) : f.renaming? g id = none := by
  cases hold : m.slug with
  | none => simp [renaming?, hn, ← hslug, hold]
  | some old => rw [renaming?_eq hn hm hold, ← hslug, hold, if_neg (by simp)]

/-- The node that has got another slug is found where the references follow it. -/
theorem findNode?_following {id old new : String} {n m : Node} (h : f.findNode? id = some n)
    (hid : m.id = id) : ((f.following n.id old new).replaceNode m).findNode? id = some m := by
  unfold following
  split
  · obtain ⟨k, hk, -⟩ := (sameGraph_redirect f n.id old new).exists_node h
    exact findNode?_replaceNode hk hid
  · exact findNode?_replaceNode h hid

/-- An API call that an update was made of keeps its parameters but for those that the update
lays over them. -/
theorem UpdatedParameters.eq_overlaid {n : Node} {update : NodeUpdate} {es : Entries Json}
    (h : f.UpdatedParameters s n update es) (htype : n.type = Builtin.apiCallName) :
    es = (update.overlaid n).parameters := by
  unfold UpdatedParameters at h
  split at h
  · unfold RenamedParameters at h
    rwa [if_neg (by rw [NodeUpdate.overlaid_type, htype]; decide)] at h
  · exact h

/-- What an update does to a schema at the node that it updates. -/
theorem overlaid_isAbout {n m : Node} {update : NodeUpdate} (htype : m.type = Builtin.apiCallName)
    (hdistinct : ∀ ps ∈ update.parameters, Entries.Distinct ps)
    (hgiven : ∀ ps ∈ update.parameters, Entries.has ps SchemaRule.outputKey = false)
    (hid : n.id = m.id) (hntype : n.type = m.type)
    (hparameters : n.parameters = (update.overlaid m).parameters)
    (hschema : (n.value SchemaRule.outputKey).isTruthy = true) : n.IsAbout [] m := by
  have hvalue : ∀ key, n.value key = (update.overlaid m).value key := fun key =>
    Node.value_eq_of_get? (by rw [hparameters])
  rw [hvalue] at hschema
  unfold NodeUpdate.overlaid at hvalue hschema
  cases hps : update.parameters with
  | none =>
    rw [hps] at hvalue
    exact ⟨hid.symm, hntype.symm, hvalue _, .inl (hvalue _), .inl (hvalue _)⟩
  | some ps =>
    rw [hps] at hvalue hschema
    obtain ⟨hkept, hsame⟩ := Node.configured_followed htype (hdistinct ps hps) (hgiven ps hps)
      hschema
    refine ⟨hid.symm, hntype.symm, (hvalue _).trans hkept, ?_, ?_⟩
    · exact hvalue "method" ▸ hsame "method" (by decide)
    · exact hvalue "url" ▸ hsame "url" (by decide)

/-- Where references follow a slug, the other API calls are about what they were about. -/
theorem isAbout_of_mem_following {id old new : String} {n : Node}
    (hn : n ∈ (f.following id old new).nodes) (htype : n.type = Builtin.apiCallName) :
    ∃ m ∈ f.nodes,
      n.IsAbout (if n.id ≠ id ∧ old ≠ "" ∧ old ≠ new then [(old, new)] else []) m := by
  unfold following at hn
  split at hn
  · next hrenamed =>
    obtain ⟨m, hm, hmn⟩ := List.mem_map.1 hn
    refine ⟨m, hm, ?_⟩
    split at hmn
    · next hid =>
      subst hmn
      rw [if_neg fun h => h.1 hid]
      exact .refl m
    · next hid =>
      subst hmn
      rw [redirected_type] at htype
      rw [if_pos ⟨by rwa [redirected_id], hrenamed⟩]
      have hsame : ∀ {key}, key ≠ "url" → key ≠ "headers" →
          (m.redirected old new).value key = m.value key := Node.value_redirected_of_ne
      exact ⟨(redirected_id ..).symm, (redirected_type ..).symm, hsame (by decide) (by decide),
        .inl (hsame (by decide) (by decide)), .inl (Node.value_redirected_url htype)⟩
  · next hsame =>
    rw [if_neg fun h => hsame h.2]
    exact ⟨n, hn, .refl n⟩

/-- **What an update does to a captured schema** that it does not give itself. -/
theorem updateNode_isAbout {id : String} {update : NodeUpdate} {r n : Node}
    (h : f.updateNode s id update = .ok (g, r)) (hn : n ∈ g.nodes)
    (htype : n.type = Builtin.apiCallName)
    (hschema : (n.value SchemaRule.outputKey).isTruthy = true)
    (hdistinct : ∀ ps ∈ update.parameters, Entries.Distinct ps)
    (hgiven : id = n.id → ∀ ps ∈ update.parameters,
      Entries.has ps SchemaRule.outputKey = false) :
    ∃ m ∈ f.nodes, n.IsAbout (if id = n.id then none else f.renaming? g id).toList m := by
  obtain ⟨k, hk, hid, hcases⟩ := updateNode_slug h
  obtain ⟨k', -, hk', -, -, -, hrtype, -, hparameters⟩ := updateNode_inv h
  obtain rfl : k' = k := Option.some.inj (hk'.symm.trans hk)
  obtain rfl : k'.id = id := id_of_findNode? hk
  by_cases hr : n = r
  · subst hr
    have hktype : k'.type = Builtin.apiCallName := hrtype.symm.trans htype
    rw [if_pos hid.symm]
    exact ⟨k', mem_of_findNode? hk, overlaid_isAbout hktype hdistinct (hgiven hid.symm) hid hrtype
      (hparameters.eq_overlaid hktype) hschema⟩
  · obtain ⟨-, hslug, rfl⟩ | ⟨-, new, hnew, hslug, rfl⟩ := hcases
    · have hn := (mem_of_mem_replaceIn hn).resolve_left hr
      rw [renaming?_of_slug_eq hk (findNode?_replaceNode hk hid) hslug, ite_self]
      exact ⟨n, hn, .refl n⟩
    · obtain ⟨m, hm, habout⟩ :=
        isAbout_of_mem_following ((mem_of_mem_replaceIn hn).resolve_left hr) htype
      refine ⟨m, hm, ?_⟩
      rw [renaming?_eq hk (findNode?_following hk hid) hslug]
      by_cases hidn : k'.id = n.id
      · rw [if_neg fun h => h.1 hidn.symm] at habout
        rwa [if_pos hidn]
      · rw [if_neg hidn]
        split
        · next hrenamed => rwa [if_pos ⟨Ne.symm hidn, hrenamed⟩] at habout
        · next hsame => rwa [if_neg fun h => hsame h.2] at habout

end Flow

namespace FlowTask

variable {w : Surroundings} {siblings : Outcome (List Flow)} {f g : Flow}

/-- **What a task does to a captured schema** that it does not store itself: it was captured
before, and it is about the same request still. -/
theorem run_isAbout {task : FlowTask} {effect : Effect} {n : Node}
    (h : task.run w siblings f = .ok effect) (hg : effect.changed = some g)
    (hproper : task.IsProper) (hn : n ∈ g.nodes) (htype : n.type = Builtin.apiCallName)
    (hschema : (n.value SchemaRule.outputKey).isTruthy = true) (hstores : ¬ task.Stores w n.id) :
    ∃ m ∈ f.nodes, n.IsAbout (task.renaming? f g n.id).toList m := by
  have hsame : n ∈ f.nodes → task.renaming? f g n.id = none →
      ∃ m ∈ f.nodes, n.IsAbout (task.renaming? f g n.id).toList m := by
    intro hmem hnone
    rw [hnone]
    exact ⟨n, hmem, .refl n⟩
  obtain ⟨e, result, rfl, he⟩ | ⟨node, v, m, hlearner, hm⟩ := run_learned h hg
  · cases Edit.makes_of_apply he with
    | addNode hadd =>
      obtain ⟨rfl, hid, -⟩ := Flow.addNode_ok hadd
      obtain hmem | hmem := List.mem_append.1 hn
      · exact hsame hmem rfl
      · rw [List.mem_singleton.1 hmem] at hstores
        exact absurd hid.symm hstores
    | updateNode hupdate =>
      refine Flow.updateNode_isAbout hupdate hn htype hschema hproper fun hid ps hps => ?_
      exact Bool.eq_false_iff.2 fun hgives => hstores ⟨hid, ps, hps, hgives⟩
    | moveNode hmove =>
      obtain ⟨k, place, hk, -, rfl, rfl⟩ := Flow.moveNode_inv hmove
      obtain rfl | hmem := Flow.mem_of_mem_replaceIn hn
      · exact ⟨k, Flow.mem_of_findNode? hk, rfl, rfl, rfl, .refl _, .refl _⟩
      · exact hsame hmem rfl
    | deleteNode hdelete =>
      obtain ⟨-, rfl⟩ := Flow.deleteNode_ok hdelete
      exact hsame (List.mem_of_mem_eraseP hn) rfl
    | connect hconnect =>
      obtain ⟨-, -, -, -, -, -, -, -, -, rfl⟩ := Flow.connect_ok hconnect
      exact hsame hn rfl
    | disconnect hdisconnect =>
      obtain ⟨-, rfl⟩ := Flow.disconnect_ok hdisconnect
      exact hsame hn rfl
    | splice hsplice =>
      obtain ⟨_, _, t, -, -, ht, hcheck, -, hid, hxtype, -, -, -, -, -, -, rfl⟩ :=
        Flow.splice_ok hsplice
      obtain hmem | hmem := List.mem_append.1 hn
      · exact hsame hmem rfl
      · obtain rfl := List.mem_singleton.1 hmem
        refine absurd ⟨?_, hid.symm⟩ hstores
        rw [← htype, hxtype]
        exact Flow.categoryOf_of_checkSplice ht hcheck
  · obtain ⟨k, hk, rfl, rfl⟩ := Flow.keepSchema_inv hm
    have hstored : task.Stores w node ∧ ∀ g, task.renaming? f g n.id = none := by
      cases task with
      | resolveSchema | testApiCall => exact ⟨hlearner, fun _ => rfl⟩
      | _ => cases hlearner
    obtain rfl | hmem := Flow.mem_of_mem_replaceIn hn
    · exact absurd (Flow.id_of_findNode? hk ▸ hstored.1) hstores
    · exact hsame hmem (hstored.2 _)

end FlowTask

end Workflow
