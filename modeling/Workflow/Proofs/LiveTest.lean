import Workflow.LiveTest
import Workflow.Proofs.Outcome

/-!
# What a live test learns

A live test ends with a report in many places, and only in one of them a response has come. So a
report that tells of success tells the schema that was inferred from the headers and the body of
the response, with the usual limit on the depth (`LiveTest.inferred_of_success`). All stages before
are quiet: where one of them ends the test, the report does not tell of success. And no report tells
that the schema was kept, since that comes after the test (`LiveTest.schemaSaved_of_run`).
-/

namespace Workflow

namespace LiveTest

variable {α β : Type}

/-- **A stage is quiet** when a report that it ends the test with tells neither of success nor of a
schema that was kept. -/
def Quiet (x : Stage α) : Prop :=
  ∀ r, x = .error (.report r) → r.success = false ∧ r.schemaSaved = false

/-- A stage that goes on ends nothing. -/
theorem quiet_ok (a : α) : Quiet (.ok a : Stage α) := by
  intro r h
  cases h

/-- A test that fails has no report. -/
theorem quiet_failure (f : Failure) : Quiet (.error (.failure f) : Stage α) := by
  intro r h
  cases h

/-- A test that ends before anything was sent tells what went wrong. -/
theorem quiet_stop (message : String) : Quiet (stop message : Stage α) := by
  intro r h
  cases h
  exact ⟨rfl, rfl⟩

/-- A test that ends when sending was attempted tells what went wrong. -/
theorem Draft.quiet_stop (d : Draft) (message : String) : Quiet (d.stop message : Stage α) := by
  intro r h
  cases h
  exact ⟨rfl, rfl⟩

/-- Stages that are quiet are quiet together. -/
theorem Quiet.bind {x : Stage α} {k : α → Stage β} (hx : Quiet x) (hk : ∀ a, Quiet (k a)) :
    Quiet (x >>= k) := by
  cases x with
  | ok a => exact hk a
  | error halt =>
    intro r h
    cases h
    exact hx r rfl

theorem stage_bind_eq_ok {x : Stage α} {k : α → Stage β} {b : β} :
    x >>= k = .ok b ↔ ∃ a, x = .ok a ∧ k a = .ok b := by
  cases x <;> simp [Bind.bind, Except.bind]

/-- A step that is refused fails the test, without a report. -/
theorem quiet_mapError {ε : Type} (x : Except ε α) (f : ε → Failure) :
    Quiet (x.mapError fun e => Halt.failure (f e)) := by
  cases x with
  | ok a => exact quiet_ok a
  | error e => exact quiet_failure (f e)

/-! ## The stages -/

variable {o : Options} {parameters : Entries Json} {mocks : Json} {d : Draft} {target : Target}
  {r : Response}

theorem quiet_textOf (key default : String) : Quiet (textOf parameters key default) :=
  quiet_mapError _ _

theorem quiet_methodOf : Quiet (methodOf parameters) :=
  (quiet_textOf _ _).bind fun _ => quiet_ok _

theorem quiet_rawUrl : Quiet (rawUrl parameters) := by
  refine (quiet_textOf _ _).bind fun text => ?_
  split
  · exact quiet_stop _
  · exact quiet_ok _

theorem quiet_timeoutOf : Quiet (timeoutOf o parameters) := by
  refine .bind (quiet_mapError _ _) fun n => ?_
  split
  · exact quiet_ok _
  · exact .bind (quiet_mapError _ _) fun _ => quiet_stop _

/-- Nothing is sent before all is known that is to be sent, and until then the test is quiet. -/
theorem quiet_draft : Quiet (draft o parameters mocks) := by
  refine quiet_methodOf.bind fun method => quiet_rawUrl.bind fun raw =>
    quiet_timeoutOf.bind fun timeout => .bind (quiet_mapError _ _) fun url =>
      .bind (quiet_mapError _ _) fun headers => ?_
  split
  split
  · exact quiet_ok _
  · exact quiet_stop _

/-- An address that may not be called ends the test quietly. -/
theorem quiet_checkAddress (url : String) : Quiet (checkAddress o url) := by
  have hrefuse : ∀ message : String, Quiet (.error (.report
      { error := some message, requestUrl := some url }) : Stage Unit) := by
    intro message r h
    cases h
    exact ⟨rfl, rfl⟩
  unfold checkAddress
  refine .bind (quiet_mapError _ _) fun parts => ?_
  split
  · split
    · exact hrefuse _
    · split
      · exact hrefuse _
      · exact quiet_ok _
  · exact hrefuse _

/-- **All stages before sending are quiet.** -/
theorem quiet_prepare : Quiet (prepare o parameters mocks) := by
  unfold prepare
  refine quiet_draft.bind fun d => (quiet_checkAddress _).bind fun _ => ?_
  split
  · exact d.quiet_stop _
  · exact quiet_ok _

/-- A response with headers that cannot be read ends the test quietly. -/
theorem Draft.quiet_accept (d : Draft) {given : RawResponse} : Quiet (d.accept given) := by
  unfold accept
  split
  · exact quiet_ok _
  · exact d.quiet_stop _

/-- So does a body that cannot be unpacked. -/
theorem Draft.quiet_unpack (d : Draft) : Quiet (d.unpack r) := by
  unfold unpack
  split
  · exact quiet_ok _
  · exact d.quiet_stop _

theorem quiet_checkScheme : Quiet (checkScheme d target) := by
  unfold checkScheme
  split
  · exact d.quiet_stop _
  · exact quiet_ok _

theorem quiet_checkLocation : Quiet (checkLocation d target r) := by
  unfold checkLocation
  split
  · exact quiet_ok _
  · split
    · exact d.quiet_stop _
    · exact d.quiet_stop _
    · exact quiet_ok _

/-- A body that cannot be read fails the test. -/
theorem quiet_bodyOf {text : String} : Quiet (bodyOf r text) := by
  unfold bodyOf
  split
  · split
    · exact quiet_ok _
    · exact quiet_failure _
    · exact quiet_ok _
  · exact quiet_ok _

/-- A response that is read does not end the test early. -/
theorem quiet_conclude {text : String} : Quiet (conclude d r text) :=
  quiet_bodyOf.bind fun _ => .bind (quiet_mapError _ _) fun _ => quiet_ok _

/-- **An answer that is no response is told quietly**, and so is a response that is not accepted. -/
theorem quiet_receive (answer : Answer) : Quiet (receive d target answer) := by
  cases answer with
  | timeout | lost | failed => exact d.quiet_stop _
  | response given =>
    refine d.quiet_accept.bind fun r => d.quiet_unpack.bind fun r => quiet_checkScheme.bind fun _ =>
      quiet_checkLocation.bind fun _ => .bind (quiet_mapError _ _) fun _ => quiet_conclude

/-! ## What is learned -/

/-- **A response shows a schema** that is inferred from a value. -/
theorem conclude_ok {text : String} {report : Report} (h : conclude d r text = .ok report) :
    (∃ v, report.outputSchema = some (Schema.infer v Schema.defaultDepth)) ∧
      report.schemaSaved = false := by
  unfold conclude at h
  obtain ⟨body, -, h⟩ := stage_bind_eq_ok.1 h
  obtain ⟨status, -, h⟩ := stage_bind_eq_ok.1 h
  cases h
  exact ⟨⟨_, rfl⟩, rfl⟩

/-- An answer of which a schema is shown is a response that was accepted. -/
theorem receive_ok {answer : Answer} {report : Report} (h : receive d target answer = .ok report) :
    (∃ v, report.outputSchema = some (Schema.infer v Schema.defaultDepth)) ∧
      report.schemaSaved = false := by
  cases answer with
  | timeout | lost | failed => cases h
  | response given =>
    unfold receive at h
    simp only [stage_bind_eq_ok] at h
    obtain ⟨_, -, _, -, _, -, _, -, text, -, h⟩ := h
    exact conclude_ok h

/-- The report is that of the last stage, or of the one that ended the test. -/
theorem finish_ok {sent : Option Request} {x : Stage Report} {t : Run}
    (h : finish sent x = .ok t) : x = .ok t.report ∨ x = .error (.report t.report) := by
  unfold finish at h
  split at h
  · cases h
    exact .inl rfl
  · cases h
    exact .inr rfl
  · cases h

variable {endpoint : Request → Answer} {t : Run}

/-- **What a live test tells**: nothing, or a schema that is inferred from a value, and never that
the schema was kept. -/
theorem run_ok (h : run o endpoint parameters mocks = .ok t) :
    (t.report.success = false ∨
      ∃ v, t.report.outputSchema = some (Schema.infer v Schema.defaultDepth)) ∧
      t.report.schemaSaved = false := by
  unfold run at h
  split at h
  · next halt hprepare =>
    obtain h | h := finish_ok h
    · cases h
    · cases h
      exact (quiet_prepare _ hprepare).imp_left .inl
  · next d target request _ =>
    obtain h | h := finish_ok h
    · obtain ⟨hschema, hsaved⟩ := receive_ok h
      exact ⟨.inr hschema, hsaved⟩
    · exact (quiet_receive _ _ h).imp_left .inl

/-- **What a live test learns** when it tells of success is inferred from a value. -/
theorem inferred_of_success {schema : Schema} (h : run o endpoint parameters mocks = .ok t)
    (hsuccess : t.report.success = true) (hschema : t.report.outputSchema = some schema) :
    ∃ v, schema = Schema.infer v Schema.defaultDepth := by
  obtain hquiet | ⟨v, hv⟩ := (run_ok h).1
  · exact absurd (hquiet.symm.trans hsuccess) Bool.false_ne_true
  · exact ⟨v, Option.some.inj (hschema.symm.trans hv)⟩

/-- No report tells that the schema was kept. -/
theorem schemaSaved_of_run (h : run o endpoint parameters mocks = .ok t) :
    t.report.schemaSaved = false :=
  (run_ok h).2

end LiveTest

end Workflow
