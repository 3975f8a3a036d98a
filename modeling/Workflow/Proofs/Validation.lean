import Workflow.Flow.Validation
import Workflow.Proofs.Outcome

/-!
# When validation comes to a report

The report on a flow is there to tell what is wrong with it, so one would expect that there
always is one. There is not. The parameters of a node may hold anything, and the parameters that
a trigger declares are gone through as a list and their descriptions taken over into a schema,
without a look at what they are.

`Node.IsReadable` says which nodes can be resolved, and `exists_validate_iff` that these and no
others can: one trigger that declares a number in the place of a list keeps the whole flow from
being validated. Everything else that a parameter may hold is harmless: cached schemas that are
no schemas are ignored, and of nodes whose type is not registered nothing is known.
-/

namespace Workflow

open Outcome

namespace Schema

/-- Whether a value can stand as a description: a text or null. -/
def isDescription : Json → Bool
  | .null | .str _ => true
  | _ => false

/-- **Whether an entry of a list of parameters can be read.** What is no object or has no name
is skipped, whatever else it holds. -/
def isDeclaration : Json → Bool
  | .obj es =>
    match Entries.get? es "name" with
    | some (.str name) => name == "" || isDescription ((Entries.get? es "description").getD .null)
    | _ => true
  | _ => true

/-- **Whether a value can be read as a list of declared parameters.** The items of a text and of
an object are texts, which are all skipped. -/
def areDeclarations : Json → Bool
  | .arr items => items.all isDeclaration
  | .str _ | .obj _ => true
  | _ => false

theorem exists_descriptionOf_iff (v : Json) :
    (∃ d, descriptionOf v = .ok d) ↔ isDescription v = true := by
  cases v <;> simp [descriptionOf, isDescription, Checked.nullable, Checked.text, Checked.map,
    Checked.fail, Checked.under, Checked.orFail]

theorem exists_ofDeclaredType_iff (type description : Json) :
    (∃ s, ofDeclaredType type description = .ok s) ↔ isDescription description = true :=
  exists_bind_pure_eq_ok.trans (exists_descriptionOf_iff description)

/-- Whether an entry is refused does not depend on what was declared before it. -/
theorem exists_add_iff (d : Declared) (entry : Json) :
    (∃ d', d.add entry = .ok d') ↔ isDeclaration entry = true := by
  unfold Declared.add isDeclaration
  split
  · split
    · split
      · simp [*]
      · rw [exists_bind_pure_eq_ok, exists_ofDeclaredType_iff]
        simp [*]
    · simp
  · simp

theorem exists_declared_iff (v : Json) :
    (∃ d, declared v = .ok d) ↔ areDeclarations v = true := by
  have hfold (items : List Json) : (∃ d, items.foldlM Declared.add ⟨[], []⟩ = .ok d) ↔
      ∀ entry ∈ items, isDeclaration entry = true :=
    exists_foldlM_eq_ok _ exists_add_iff
  cases v with
  | arr items => exact (hfold items).trans List.all_eq_true.symm
  | str s =>
    exact iff_of_true ((hfold _).2 (List.forall_mem_map.2 fun _ _ => rfl)) rfl
  | obj es =>
    exact iff_of_true ((hfold _).2 (List.forall_mem_map.2 fun _ _ => rfl)) rfl
  | _ => exact iff_of_false (fun ⟨_, h⟩ => nomatch h) Bool.false_ne_true

/-- **The output of a trigger can be computed** exactly when what it declares can be read. -/
theorem exists_ofTrigger_iff (parameters : Option Json) :
    (∃ s, ofTrigger parameters = .ok s) ↔ areDeclarations (orEmpty parameters) = true :=
  exists_bind_pure_eq_ok.trans (exists_declared_iff _)

/-- A stored schema can be laid over the fields of an API call, whatever schema it is. -/
theorem exists_layerOver_apiCallBase (stored : Schema) :
    ∃ s, layerOver SchemaRule.apiCallBase stored = .ok s := by
  cases stored <;> exact ⟨_, rfl⟩

end Schema

namespace Builtin

/-- The declared parameters of a trigger are all that a built-in rule can stumble on. -/
theorem exists_sides {t : NodeType} (h : t ∈ registry.types) (hne : t.name ≠ triggerName)
    (parameters : Entries Json) :
    (∃ s, SchemaRule.side t.inputRule t.input parameters = .ok s) ∧
      ∃ s, SchemaRule.side t.outputRule t.output parameters = .ok s := by
  simp only [registry, List.mem_cons, List.not_mem_nil, or_false] at h
  rcases h with rfl | rfl | rfl | rfl | rfl | rfl | rfl
  · exact absurd rfl hne
  all_goals exact ⟨⟨_, rfl⟩, _, rfl⟩

/-- The built-in transforms have texts for their titles and descriptions. -/
theorem exists_suggest (status : Status) :
    ∃ suggestions, registry.suggest status = .ok suggestions := by
  cases status <;> exact ⟨_, rfl⟩

end Builtin

namespace Node

/-- **The declared parameters of a node can be read**, if it is a trigger. Values that do not
count as given declare nothing. -/
def IsReadable (n : Node) : Prop :=
  n.type = Builtin.triggerName →
    Schema.areDeclarations (Schema.orEmpty (Entries.get? n.parameters "parameters")) = true

instance (n : Node) : Decidable n.IsReadable :=
  inferInstanceAs (Decidable (_ → _))

theorem exists_triggerSchemas_iff (n : Node) : (∃ s, n.triggerSchemas = .ok s) ↔
    Schema.areDeclarations (Schema.orEmpty (Entries.get? n.parameters "parameters")) = true :=
  exists_bind_pure_eq_ok.trans (Schema.exists_ofTrigger_iff _)

theorem exists_apiCallSchemas (n : Node) (type : NodeType) :
    ∃ s, n.apiCallSchemas type = .ok s := by
  unfold apiCallSchemas
  split
  · exact ⟨_, rfl⟩
  · exact exists_bind_pure_eq_ok.2 (Schema.exists_layerOver_apiCallBase _)

theorem exists_typeSchemas (n : Node) {type : NodeType}
    (hin : ∃ s, SchemaRule.side type.inputRule type.input n.parameters = .ok s)
    (hout : ∃ s, SchemaRule.side type.outputRule type.output n.parameters = .ok s) :
    ∃ s, n.typeSchemas type = .ok s := by
  obtain ⟨input, hinput⟩ := hin
  exact exists_bind_eq_ok.2 ⟨input, hinput, exists_bind_pure_eq_ok.2 hout⟩

/-- **The nodes that can be resolved** are those whose declared parameters can be read. -/
theorem exists_schemas_iff (n : Node) :
    (∃ s, n.schemas Builtin.registry = .ok s) ↔ n.IsReadable := by
  unfold schemas IsReadable
  split
  · -- Every trigger has a registered type, so this node is none.
    rename_i hget
    have hne : n.type ≠ Builtin.triggerName := fun h => by
      rw [h] at hget
      exact absurd hget (by decide)
    exact iff_of_true ⟨_, rfl⟩ fun h => absurd h hne
  · rename_i type hget
    have hmem : type ∈ Builtin.registry.types := List.mem_of_find?_eq_some hget
    have hname : type.name = n.type := by simpa using List.find?_some hget
    split
    · simp [*, exists_triggerSchemas_iff]
    · rename_i hne
      refine iff_of_true ?_ fun h => absurd h hne
      split
      · exact exists_apiCallSchemas n type
      · split
        · exact ⟨_, rfl⟩
        · obtain ⟨hin, hout⟩ := Builtin.exists_sides hmem (hname ▸ hne) n.parameters
          exact exists_typeSchemas n hin hout

end Node

namespace Flow

/-- The check of two nodes of the flow needs the schemas of both and nothing else. -/
theorem exists_validateConnection_iff {f : Flow} {source target : String} {s t : Node}
    (hs : f.findNode? source = some s) (ht : f.findNode? target = some t) :
    (∃ report, f.validateConnection Builtin.registry source target = .ok report) ↔
      s.IsReadable ∧ t.IsReadable := by
  have hend {role : End} {id : String} {n : Node} (h : f.findNode? id = some n) :
      f.endNode role id = .ok n := by
    rw [endNode, h]
  rw [validateConnection, hend hs, hend ht, ← s.exists_schemas_iff, ← t.exists_schemas_iff]
  simp only [exists_bind_eq_ok, Except.ok.injEq, exists_eq_left', Builtin.exists_suggest,
    pure_eq_ok, exists_eq', and_true]
  exact exists_and_right

/-- **When validation comes to a result.** A node can be resolved, with the built-in node types,
exactly when what it declares can be read; a flow can be validated exactly when all its nodes
can; and two nodes can be checked exactly when both are in the flow and can be resolved. A node
that is absent is the reason given, the source before the target. -/
theorem exists_validate_iff (f : Flow) :
    (∀ n : Node, (∃ s, n.schemas Builtin.registry = .ok s) ↔ n.IsReadable) ∧
    ((∃ report, f.validate Builtin.registry = .ok report) ↔ ∀ n ∈ f.nodes, n.IsReadable) ∧
    ∀ source target,
      match f.findNode? source, f.findNode? target with
      | none, _ => f.validateConnection Builtin.registry source target =
          .error (.nodeNotFound (some .source) source f.id)
      | some _, none => f.validateConnection Builtin.registry source target =
          .error (.nodeNotFound (some .target) target f.id)
      | some s, some t =>
        (∃ report, f.validateConnection Builtin.registry source target = .ok report) ↔
          s.IsReadable ∧ t.IsReadable := by
  refine ⟨Node.exists_schemas_iff, ?_, fun source target => ?_⟩
  · simp only [validate, exists_bind_pure_eq_ok, exists_mapM_eq_ok, Node.exists_schemas_iff]
  · split
    · rename_i hs
      rw [validateConnection, endNode, hs]
      rfl
    · rename_i s hs ht
      rw [validateConnection, endNode, hs, endNode, ht]
      rfl
    · rename_i s t hs ht
      exact exists_validateConnection_iff hs ht

-- A number in the place of the list of parameters keeps the flow from being validated.
example (f : Flow) :
    { f with nodes := [{
        id := "n", type := Builtin.triggerName, name := "Start",
        parameters := [("parameters", .int 5)] }] }.validate Builtin.registry =
      .error .notIterable :=
  rfl

end Flow

end Workflow
