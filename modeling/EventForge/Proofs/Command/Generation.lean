import EventForge.Command.Report
import EventForge.Proofs.Schema.Compilation
import EventForge.Proofs.Schema.Parsing

/-!
# Validation and generation agree

What validation says about a document decides whether a module is generated from it.  A document
that can be shown compiles, or is refused with an error of the schema, and then no file is touched.
-/

namespace EventForge

namespace CommandReport

@[simp] theorem workspace_logged (entries : List LogEntry) (report : CommandReport) :
    (report.logged entries).workspace = report.workspace := rfl

@[simp] theorem workspace_atLevel (level : LogLevel) (report : CommandReport) :
    (report.atLevel level).workspace = report.workspace := rfl

@[simp] theorem workspace_failure (workspace : Workspace) (fault : Fault) :
    (failure workspace fault).workspace = workspace := rfl

@[simp] theorem workspace_refusal (workspace : Workspace) (status : Nat) (text : Text) :
    (refusal workspace status text).workspace = workspace := rfl

end CommandReport

namespace Command

theorem withSettings_workspace (invocation : Invocation) (workspace : Workspace)
    (work : Settings → CommandReport)
    (kept : ∀ settings, (work settings).workspace = workspace) :
    (withSettings invocation workspace work).workspace = workspace := by
  unfold withSettings
  split
  · rfl
  · rfl
  · exact kept _

theorem compile_snd (invocation : Invocation) (workspace : Workspace) (path : Text) :
    (compile invocation workspace path).2 =
      Source.compileFile invocation.libraries.yaml workspace.files path := by
  unfold compile Source.compileFile
  cases Source.load invocation.libraries.yaml workspace.files path with
  | error error => rfl
  | ok raw =>
      simp only [Outcome.ok_bind]
      cases Compilation.compileRaw raw none <;> rfl

/-- Nothing is written for a source that does not compile. -/
theorem generate_workspace (invocation : Invocation) (workspace : Workspace)
    (given output : Option Text) (path : Text) (error : LoadError)
    (named : schemaPath? invocation given = some path)
    (refused : Source.compileFile invocation.libraries.yaml workspace.files path = .error error) :
    (perform invocation workspace (.generate given output)).workspace = workspace := by
  apply withSettings_workspace
  intro settings
  rw [← compile_snd] at refused
  simp only [withSchema, named, withCompiled]
  split
  · rename_i compiled
    rw [compiled] at refused
    cases refused
  · simp
  · simp

end Command

namespace Generation

/-- Whether the file at a path holds a document, for a reader of YAML. -/
def Holds (yaml : Source.YamlReader) (workspace : Workspace) (path : Text) (document : Document) :
    Prop :=
  ∃ content, workspace.files.read (workspace.files.resolve path) = .ok content ∧
    Source.decode yaml content (FilePath.suffix (workspace.files.resolve path)) = .ok document

/-- Whether a file with a document compiles to an error, and generation leaves everything as it is,
whatever the output. -/
def Refuses (document : Document) (error : SchemaError) : Prop :=
  ∀ yaml workspace path, Holds yaml workspace path document →
    Source.compileFile yaml workspace.files path = .error (.schema error) ∧
      ∀ invocation given output, invocation.libraries.yaml = yaml →
        Command.schemaPath? invocation given = some path →
          (Command.perform invocation workspace (.generate given output)).workspace = workspace

/-- What can become of a document. -/
inductive Agreement (document : Document) (path sourcePath : Option Text) : Prop
  /-- It is read, has no error and compiles, also from a file. -/
  | compiles (raw : RawSchema) (compiled : CompiledSchema)
      (parsed : Source.parse document path = .ok raw)
      (valid : Validation.errors raw = .ok [])
      (made : Compilation.compile { raw, valid } sourcePath = .ok compiled)
      (builds : Compilation.compileRaw raw sourcePath = .ok compiled)
      (loads : ∀ yaml workspace file, Holds yaml workspace file document →
        ∃ compiled, Source.compileFile yaml workspace.files file = .ok compiled)
  /-- It has the wrong shape. -/
  | malformed (malformation : Malformation)
      (parsed : Source.parse document path = .error (.malformed malformation))
      (refuses : Refuses document (.malformed malformation))
  /-- It is read and has errors, of which building reports the first. -/
  | invalid (raw : RawSchema) (error : SchemaError) (others : List SchemaError)
      (parsed : Source.parse document path = .ok raw)
      (found : Validation.errors raw = .ok (error :: others))
      (builds : Compilation.compileRaw raw sourcePath = .error (.invalid (.schema error)))
      (refuses : Refuses document error)

theorem load_of_holds (yaml : Source.YamlReader) (workspace : Workspace) (path : Text)
    (document : Document) (holds : Holds yaml workspace path document) :
    Source.load yaml workspace.files path =
      (Source.parse document (some (workspace.files.resolve path))).mapError
        LoadError.ofShape := by
  obtain ⟨content, read, decoded⟩ := holds
  simp [Source.load, read, decoded]

/-- An error of compiling every file with a document refuses the document. -/
theorem refuses_of_compileFile (document : Document) (error : SchemaError)
    (fails : ∀ yaml workspace path, Holds yaml workspace path document →
      Source.compileFile yaml workspace.files path = .error (.schema error)) :
    Refuses document error := by
  intro yaml workspace path holds
  have refused := fails yaml workspace path holds
  refine ⟨refused, ?_⟩
  rintro invocation given output rfl named
  exact Command.generate_workspace invocation workspace given output path _ named refused

/-- Validation and building agree on every document that can be shown. -/
theorem validation_and_building_agree (document : Document) (path sourcePath : Option Text)
    (shown : document.isDisplayable = true) : Agreement document path sourcePath := by
  have elsewhere : ∀ yaml workspace file, Holds yaml workspace file document →
      Source.load yaml workspace.files file =
        ((Source.parse document path).map fun raw =>
          { raw with path := some (workspace.files.resolve file) }).mapError
          LoadError.ofShape := by
    intro yaml workspace file holds
    rw [load_of_holds yaml workspace file document holds, Source.parse_path document path]
  rcases Source.parse_shown document path shown with
    ⟨raw, parsed, typesShown⟩ | ⟨malformation, parsed⟩
  · rw [parsed] at elsewhere
    obtain ⟨found, visited⟩ := Validation.errors_ok raw typesShown
    cases found with
    | nil =>
        refine .compiles raw _ parsed visited (Compilation.compile_eq _ sourcePath)
          (Compilation.compileRaw_eq raw sourcePath visited) ?_
        intro yaml workspace file holds
        have builds := Compilation.compileRaw_eq
          { raw with path := some (workspace.files.resolve file) } none visited
        refine ⟨Compilation.schemaOf
          { raw with path := some (workspace.files.resolve file) } none, ?_⟩
        simp only [Source.compileFile, elsewhere yaml workspace file holds, Except.map,
          Outcome.mapError_ok, Outcome.ok_bind, builds]
    | cons error others =>
        refine .invalid raw error others parsed visited
          (Compilation.compileRaw_of_errors raw sourcePath error others visited) ?_
        apply refuses_of_compileFile
        intro yaml workspace file holds
        have builds := Compilation.compileRaw_of_errors
          { raw with path := some (workspace.files.resolve file) } none error others visited
        simp only [Source.compileFile, elsewhere yaml workspace file holds, Except.map,
          Outcome.mapError_ok, Outcome.ok_bind, builds, Outcome.mapError_error]
        rfl
  · rw [parsed] at elsewhere
    refine .malformed malformation parsed (refuses_of_compileFile _ _ ?_)
    intro yaml workspace file holds
    simp only [Source.compileFile, elsewhere yaml workspace file holds, Except.map,
      Outcome.mapError_error, Outcome.error_bind]
    rfl

/-- The definition of an event with some fields. -/
def definition (fields : List (Text × Text)) : Document :=
  .mapping [(.text "type", .text "analytics"),
    (.text "type_mapping", .mapping (fields.map fun field => (.text field.1, .text field.2)))]

/-- A document with two events. -/
def visitDocument : Document :=
  .mapping [(.text "login", definition [("time", "timestamp"), ("user", "bigint")]),
    (.text "logout", definition [("time", "timestamp")])]

/-- The schema of the document. -/
def visitSchema : RawSchema where
  events :=
    [{ name := "login", typeLabel := "analytics"
       typeMapping := [("time", .text "timestamp"), ("user", .text "bigint")] },
      { name := "logout", typeLabel := "analytics", typeMapping := [("time", .text "timestamp")] }]
  path := none

theorem accepts_visitSchema : Validation.Accepts visitSchema where
  events event member := by
    rcases List.mem_pair.mp member with rfl | rfl
    · have user : Identifier.isUsable "user" = true :=
        Identifier.isUsable_of_lower _ (by decide) (by decide)
          (by simp [Identifier.databaseWords, Text.ofString_inj]) (by decide)
      refine ⟨Identifier.isUsable_login, ?_, by decide, by decide, by decide, by decide, by decide⟩
      simp [user, Identifier.isUsable_time]
    · exact Validation.acceptsEvent_alone _ (.text "timestamp") rfl Identifier.isUsable_logout rfl
  classesDistinct := by decide
  tablesDistinct := by decide

/-- A document with a field of a type that does not exist. -/
def moneyDocument : Document :=
  .mapping [(.text "login", definition [("time", "timestamp"), ("price", "money")])]

/-- The schema of that document. -/
def moneySchema : RawSchema where
  events :=
    [{ name := "login", typeLabel := "analytics"
       typeMapping := [("time", .text "timestamp"), ("price", .text "money")] }]
  path := none

theorem visits_agree : visitDocument.isDisplayable = true ∧ moneyDocument.isDisplayable = true ∧
    (∃ compiled, Source.parse visitDocument none = .ok visitSchema ∧
      Validation.errors visitSchema = .ok [] ∧
      Compilation.compileRaw visitSchema none = .ok compiled ∧
      ∀ yaml workspace file, Holds yaml workspace file visitDocument →
        ∃ compiled, Source.compileFile yaml workspace.files file = .ok compiled) ∧
    ∃ error others, Source.parse moneyDocument none = .ok moneySchema ∧
      Validation.errors moneySchema = .ok (error :: others) ∧
      Compilation.compileRaw moneySchema none = .error (.invalid (.schema error)) ∧
      Refuses moneyDocument error := by
  have isRead : Source.parse visitDocument none = .ok visitSchema := by rfl
  have moneyRead : Source.parse moneyDocument none = .ok moneySchema := by rfl
  have free : Validation.errors visitSchema = .ok [] :=
    (Validation.errors_eq_nil_iff _).mpr accepts_visitSchema
  refine ⟨by decide, by decide, ?_, ?_⟩
  · rcases validation_and_building_agree visitDocument none none (by decide) with
      ⟨raw, compiled, parsed, valid, _, builds, loads⟩ | ⟨_, parsed, _⟩ |
      ⟨raw, error, others, parsed, found, _, _⟩
    · obtain rfl := Except.ok.inj (isRead.symm.trans parsed)
      exact ⟨compiled, isRead, free, builds, loads⟩
    · rw [isRead] at parsed
      cases parsed
    · obtain rfl := Except.ok.inj (isRead.symm.trans parsed)
      rw [free] at found
      cases found
  · rcases validation_and_building_agree moneyDocument none none (by decide) with
      ⟨raw, compiled, parsed, valid, _, builds, loads⟩ | ⟨_, parsed, _⟩ |
      ⟨raw, error, others, parsed, found, builds, refuses⟩
    · obtain rfl := Except.ok.inj (moneyRead.symm.trans parsed)
      have accepted := (Validation.errors_eq_nil_iff moneySchema).mp valid
      have registered := (accepted.events _ (List.mem_singleton.mpr rfl)).typesRegistered
        ("price", .text "money") (List.mem_pair.mpr (.inr rfl))
      exact absurd registered (by decide)
    · rw [moneyRead] at parsed
      cases parsed
    · obtain rfl := Except.ok.inj (moneyRead.symm.trans parsed)
      exact ⟨error, others, moneyRead, found, builds, refuses⟩

end Generation

end EventForge
