import EventForge.Proofs.Module.Loading

/-!
# Free text in modules

The labels and the path of the source are free text.  They open no line of the module and close no
description, so that the number of lines depends only on how many events and fields there are.  What
is written as a literal is loaded as it was compiled.
-/

namespace EventForge

namespace ModuleText

open Text

/-!
## Counting lines
-/

theorem length_decodingLines (index : Nat) (decodings : List Decoding) :
    (decodingLines index decodings).length = decodings.length := by
  induction decodings generalizing index with
  | nil => rfl
  | cons decoding decodings ih => simp [decodingLines, ih]

theorem length_attributeLines (eventClass : EventClass) :
    (attributeLines eventClass).length = 2 * eventClass.attributes.length := by
  rw [attributeLines]
  induction eventClass.attributes with
  | nil => rfl
  | cons found attributes ih =>
      rw [List.flatMap_cons, List.length_append, ih]
      simp only [List.length_cons, List.length_nil]
      omega

theorem length_classLines (eventClass : EventClass) :
    (classLines eventClass).length =
      52 + 3 * eventClass.attributes.length + eventClass.retrieved.length := by
  simp only [classLines, constantLines, newRandomLines, storeLines, storeEnd, retrieveLines,
    retrieveEnd, List.length_append, List.length_cons, List.length_nil, List.length_map,
    length_attributeLines, length_decodingLines]
  omega

/-- How many lines a module has for some events with some declared fields in all. -/
def lineCount (events fields : Nat) : Nat :=
  if events = 0 then 57 else 60 + 58 * events + 4 * fields

theorem length_header (module : EventModule) :
    (header module).length = if module.generators.isEmpty then 23 else 24 := by
  rw [header]
  split <;> rfl

theorem length_registryLines (module : EventModule) :
    (registryLines module).length =
      if module.classes.isEmpty then 29 else 31 + 2 * module.classes.length := by
  rw [registryLines]
  split
  · rfl
  · simp only [sectionLines, migrationLines, List.length_append, List.length_cons, List.length_nil,
      List.length_map]
    omega

/-!
## Descriptions
-/

/-- What the description of a class says. -/
def description (eventClass : EventClass) : Text :=
  ("Event type " : Text) ++ Literal.ofText eventClass.table ++ labelPart eventClass.label ++ "."

/-- The line of the description. -/
def descriptionLine (eventClass : EventClass) : Text :=
  ("    \"\"\"" : Text) ++ description eventClass ++ "\"\"\""

theorem descriptionLine_mem (eventClass : EventClass) :
    descriptionLine eventClass ∈ classLines eventClass := by
  have line : descriptionLine eventClass = ("    \"\"\"Event type " : Text) ++
      Literal.ofText eventClass.table ++ labelPart eventClass.label ++ ".\"\"\"" := by
    simp [descriptionLine, description, Text.ofString]
  rw [line]
  simp [classLines]

/-- Whether a text holds neither quotes nor backslashes. -/
def IsBare (text : Text) : Prop := CodePoint.ofChar '"' ∉ text ∧ CodePoint.ofChar '\\' ∉ text

theorem isBare_append (first second : Text) :
    IsBare (first ++ second) ↔ IsBare first ∧ IsBare second := by
  simp only [IsBare, List.mem_append, not_or]
  tauto

theorem isBare_of_isLater (text : Text) (later : ∀ point ∈ text, Identifier.isLater point = true) :
    IsBare text := by
  constructor
  · intro member
    exact absurd (later _ member) (by decide)
  · intro member
    exact absurd (later _ member) (by decide)

theorem isBody_of_isBare (text : Text) (bare : IsBare text) : ScriptToken.IsBody true text := by
  apply ScriptToken.isBody_of_points
  intro point member
  refine ⟨?_, ?_, .inl rfl⟩
  · rintro rfl
    exact bare.2 member
  · rintro rfl
    exact bare.1 member

/-- A quote in front of a bare text does not end a description. -/
theorem isBody_quote_bare (first : CodePoint) (text : Text) (bare : IsBare (first :: text)) :
    ScriptToken.IsBody true (CodePoint.ofChar '"' :: first :: text) := by
  obtain ⟨noQuote, noSlash⟩ := bare
  simp only [List.mem_cons, not_or] at noQuote noSlash
  exact ScriptToken.isBody_append true [CodePoint.ofChar '"', first] text
    (ScriptToken.isBody_longQuote first (Ne.symm noSlash.1) (Ne.symm noQuote.1))
    (isBody_of_isBare text ⟨noQuote.2, noSlash.2⟩)

theorem isBare_labelPart (label : Text) (bare : IsBare label) : IsBare (labelPart label) := by
  rw [labelPart]
  split
  · simp [IsBare]
  · simp only [isBare_append, bare, and_true]
    rw [ofString_ofList, ofString_ofList]
    constructor
    · constructor <;> decide
    · constructor <;> decide

/-- The description is read on its own: the quotes around the table do not stand next to others, and
the label holds none. -/
theorem isBody_description (eventClass : EventClass)
    (plain : Identifier.isPlain eventClass.table = true) (label : IsBare eventClass.label) :
    ScriptToken.IsBody true (description eventClass) := by
  have later := Identifier.isLater_of_isPlain _ plain
  have table := isBare_of_isLater _ later
  have behind : IsBare (labelPart eventClass.label ++ ("." : Text)) :=
    (isBare_append _ _).mpr ⟨isBare_labelPart _ label, by constructor <;> decide⟩
  have written : eventClass.table.flatMap Json.plainPoint = eventClass.table := by
    calc
      _ = eventClass.table.flatMap fun point => [point] := List.flatMap_congr fun point member =>
        (ScriptToken.Outline.plainPoint_of_isLater point (later point member)).2.2
      _ = eventClass.table := List.flatMap_singleton' _
  have shape : description eventClass = ("Event type " : Text) ++
      ((CodePoint.ofChar '"' :: eventClass.table) ++
        (CodePoint.ofChar '"' :: (labelPart eventClass.label ++ ("." : Text)))) := by
    rw [description, Literal.ofText_eq, written]
    simp
  -- A quote is followed by a letter of the table, or by what stands behind the table.
  have opens : ScriptToken.IsBody true (CodePoint.ofChar '"' :: eventClass.table) := by
    cases same : eventClass.table with
    | nil => simp [same, Identifier.isPlain] at plain
    | cons first rest => exact isBody_quote_bare first rest (same ▸ table)
  have closes : ScriptToken.IsBody true
      (CodePoint.ofChar '"' :: (labelPart eventClass.label ++ ("." : Text))) := by
    cases same : labelPart eventClass.label ++ ("." : Text) with
    | nil => simp [Text.ofString] at same
    | cons first rest => exact isBody_quote_bare first rest (same ▸ behind)
  have leads : IsBare ("Event type " : Text) := by
    rw [ofString_ofList]
    constructor <;> decide
  rw [shape]
  exact ScriptToken.isBody_append _ _ _ (isBody_of_isBare _ leads)
    (ScriptToken.isBody_append _ _ _ opens closes)

/-- A description ends at the quotes that are written behind it. -/
theorem stringBody?_description (eventClass : EventClass)
    (plain : Identifier.isPlain eventClass.table = true) (label : IsBare eventClass.label)
    (rest : Text) :
    ScriptToken.stringBody? '"' true (description eventClass ++ ("\"\"\"" : Text) ++ rest) =
      some (description eventClass, rest) := by
  have closing : ScriptToken.stringBody? '"' true (("\"\"\"" : Text) ++ rest) = some ([], rest) := rfl
  rw [List.append_assoc, isBody_description eventClass plain label, closing]
  simp

end ModuleText

/-!
## Modules of accepted schemas
-/

/-- Whether no name that a schema declares holds a line feed. -/
structure RawSchema.HasUnbrokenNames (schema : RawSchema) : Prop where
  events : ∀ event ∈ schema.events, CodePoint.lineFeed ∉ event.name
  fields : ∀ event ∈ schema.events, ∀ field ∈ event.typeMapping, CodePoint.lineFeed ∉ field.1

/-- Whether a code point can stand within a line. -/
def CodePoint.StaysInLine (point : CodePoint) : Prop := point ≠ lineFeed ∧ point ≠ 0x0D

namespace ModuleText

/-- Whether free text stays where a module puts it. -/
structure ConfinesText (module : EventModule) : Prop where
  /-- Nothing that is put into a line breaks it. -/
  parts : Admits CodePoint.StaysInLine module
  lines : ∀ line ∈ ModuleText.lines module, Text.Allows CodePoint.StaysInLine line
  /-- The text is cut into the lines that it was made of, and the empty one behind the last line
  feed. -/
  cut : (write module).lines = ModuleText.lines module ++ [[]]
  labels : ∀ eventClass ∈ module.classes, IsBare eventClass.label
  descriptions : ∀ eventClass ∈ module.classes, descriptionLine eventClass ∈ classLines eventClass ∧
    ∀ rest, ScriptToken.stringBody? '"' true (description eventClass ++ ("\"\"\"" : Text) ++ rest) =
      some (description eventClass, rest)

end ModuleText

namespace Compilation

open ModuleText

theorem length_flatMap_classLines (events : List RawEvent) :
    ((events.map classOf).flatMap classLines).length =
      56 * events.length + 4 * (events.map fun event => event.typeMapping.length).sum := by
  induction events with
  | nil => rfl
  | cons event events ih =>
      have fields : (fieldsOf event).length = event.typeMapping.length + 1 := by
        simp [fieldsOf, (Validation.sortFields_perm event.typeMapping).length_eq]
      have attributes : (classOf event).attributes.length =
          (fieldsOf event).length := List.length_map _
      have retrieved : (classOf event).retrieved.length =
          (fieldsOf event).length := by
        rw [classOf, EventClass.ofEntity, List.length_map, stored_entityOf]
      rw [List.map_cons, List.flatMap_cons, List.length_append, length_classLines, attributes,
        retrieved, fields, ih]
      simp only [List.length_cons, List.map_cons, List.sum_cons]
      omega

theorem isPlain_of_unbroken (name : Text) (usable : Identifier.isUsable name = true)
    (unbroken : CodePoint.lineFeed ∉ name) : Identifier.isPlain name = true := by
  rcases plain_or_broken name usable with plain | ⟨core, _, rfl⟩
  · exact plain
  · exact absurd (List.mem_append_right _ List.mem_cons_self) unbroken

section Module

variable (schema : RawSchema) (sourcePath : Option Text) (accepted : Validation.Accepts schema)

/-- The classes have as many lines as their fields want, and the import of the generators stands in
the header exactly if there is an event. -/
theorem length_lines_moduleOf :
    (lines (moduleOf schema sourcePath)).length =
      lineCount schema.events.length (schema.events.map fun event => event.typeMapping.length).sum := by
  have perm := Validation.sortEvents_perm schema.events
  have classes : ((moduleOf schema sourcePath).classes.flatMap classLines).length =
      56 * schema.events.length +
        4 * (schema.events.map fun event => event.typeMapping.length).sum := by
    rw [classes_moduleOf, length_flatMap_classLines, perm.length_eq, (perm.map _).sum_nat]
  have size : (moduleOf schema sourcePath).classes.length = schema.events.length := by
    rw [classes_moduleOf, List.length_map, perm.length_eq]
  have named : (moduleOf schema sourcePath).generators.isEmpty = schema.events.isEmpty := by
    by_cases inhabited : schema.events = []
    · have unused : (moduleOf schema sourcePath).generators = [] := by
        simp [moduleOf, EventModule.ofCompiled, schemaOf, inhabited, Validation.sortEvents,
          EventModule.distinctSorted, Text.sort]
      rw [unused, inhabited]
      rfl
    · rw [List.isEmpty_eq_false_iff.mpr inhabited,
        List.isEmpty_eq_false_iff.mpr (generators_ne_nil schema sourcePath inhabited)]
  have declared : (moduleOf schema sourcePath).classes.isEmpty = schema.events.isEmpty := by
    rw [Bool.eq_iff_iff, List.isEmpty_iff, List.isEmpty_iff, classes_eq_nil_iff]
  have titled : (sectionLines "Event Types").length = 5 := rfl
  rw [lines, List.length_append, List.length_append, List.length_append, length_header,
    length_registryLines, classes, size, titled, named, declared, lineCount]
  cases schema.events with
  | nil => rfl
  | cons event events =>
      rw [if_neg (by simp), if_neg (by simp), if_neg (by simp)]
      omega

include accepted

theorem hasPlainNames_of_unbroken (unbroken : schema.HasUnbrokenNames) : schema.HasPlainNames where
  events event member := isPlain_of_unbroken _ (accepted.events event member).nameUsable
    (unbroken.events event member)
  fields event member field inside := isPlain_of_unbroken _
    ((accepted.events event member).fieldsUsable field inside)
    (unbroken.fields event member field inside)

theorem confinesText_moduleOf (unbroken : schema.HasUnbrokenNames) :
    ConfinesText (moduleOf schema sourcePath) := by
  have plain := hasPlainNames_of_unbroken schema accepted unbroken
  have bare : ∀ eventClass ∈ (moduleOf schema sourcePath).classes, IsBare eventClass.label := by
    intro eventClass member
    obtain ⟨event, _, rfl⟩ := (mem_classes_moduleOf schema sourcePath eventClass).mp member
    exact EventClass.quotes_not_mem_safeLabel event.typeLabel
  have high : ∀ point : CodePoint, 0x20 ≤ point.val → point.StaysInLine := by
    intro point above
    constructor
    · rintro rfl
      exact absurd above (by decide)
    · rintro rfl
      exact absurd above (by decide)
  have parts : Admits CodePoint.StaysInLine (moduleOf schema sourcePath) := by
    apply admits_moduleOf schema sourcePath accepted
    · intro point printable
      simp only [isPrintable, Bool.and_eq_true, decide_eq_true_eq] at printable
      exact high point printable.1
    · exact .inr plain
    · exact fun text _ => literal_of_low high text
    · intro event _ point member
      constructor
      · rintro rfl
        exact EventClass.not_mem_safeLabel event.typeLabel _ (by decide) (by decide) member
      · rintro rfl
        exact EventClass.not_mem_safeLabel event.typeLabel _ (by decide) (by decide) member
    · exact fun path _ => literal_of_low high path
  have stay := allows_lines _ parts
  refine ⟨parts, stay, lines_write _ fun line member inside => (stay line member _ inside).1 rfl,
    bare, ?_⟩
  intro eventClass member
  have table := ((isPlainModule_moduleOf schema sourcePath accepted plain).classes eventClass
    member).table
  exact ⟨descriptionLine_mem eventClass,
    stringBody?_description eventClass table (bare eventClass member)⟩

end Module

/-- Whatever the labels and the path of the source are, the module of an accepted schema whose names
hold no line feed keeps them within its lines and descriptions, and has as many lines as its events
and fields want. -/
theorem free_text_is_confined (schema : ValidatedSchema) (sourcePath : Option Text)
    (unbroken : schema.raw.HasUnbrokenNames) :
    ∃ compiled, compile schema sourcePath = .ok compiled ∧
      ConfinesText (EventModule.ofCompiled compiled) ∧
      (lines (EventModule.ofCompiled compiled)).length = lineCount schema.raw.events.length
        (schema.raw.events.map fun event => event.typeMapping.length).sum := by
  have accepted := (Validation.errors_eq_nil_iff schema.raw).mp schema.valid
  exact ⟨_, compile_eq schema sourcePath, confinesText_moduleOf schema.raw sourcePath accepted unbroken,
    length_lines_moduleOf schema.raw sourcePath⟩

/-- A label that would close its description and open a line of code. -/
def oddLabel : Text := "odd \"\"\"\nimport os\r\\"

theorem oddLabel_is_confined : (labelledSchema oddLabel).HasUnbrokenNames ∧
    ∃ compiled, compile ⟨labelledSchema oddLabel, valid_labelledSchema oddLabel⟩ (some oddLabel) =
        .ok compiled ∧
      ConfinesText (EventModule.ofCompiled compiled) ∧
      (lines (EventModule.ofCompiled compiled)).length = 122 := by
  have unbroken : (labelledSchema oddLabel).HasUnbrokenNames := by
    constructor
    · intro event member
      obtain rfl := List.mem_singleton.mp member
      decide
    · intro event member field inside
      obtain rfl := List.mem_singleton.mp member
      obtain rfl := List.mem_singleton.mp inside
      decide
  exact ⟨unbroken, free_text_is_confined ⟨labelledSchema oddLabel, valid_labelledSchema oddLabel⟩
    (some oddLabel) unbroken⟩

end Compilation

/-!
## Constants of loaded modules

The path of the source, the fingerprint and the constants of the classes are literals, whose values
a module has that loads.
-/

/-- Whether a class has the constants of an entity. -/
structure EventClass.HasConstants (eventClass : EventClass) (entity : Entity) : Prop where
  table : eventClass.table = entity.declaredName
  timeColumn : eventClass.timeColumn = entity.timeColumn
  columns : eventClass.columns = entity.stored.map fun field => field.declaredName
  columnDefinitions : eventClass.columnDefinitions = entity.columnDefinitions
  widths : eventClass.widths = entity.stored.map Field.width
  insertStatement : eventClass.insertStatement = entity.insertStatement
  selectStatement : eventClass.selectStatement = entity.selectStatement

/-- Whether a module has the constants of a compiled schema, class by class. -/
structure EventModule.HasConstants (module : EventModule) (compiled : CompiledSchema) : Prop where
  source : module.source = compiled.sourcePath
  fingerprint : module.fingerprint = compiled.fingerprint
  classes : List.Forall₂ EventClass.HasConstants module.classes compiled.entities

theorem EventModule.hasConstants_ofCompiled (compiled : CompiledSchema) :
    (EventModule.ofCompiled compiled).HasConstants compiled where
  source := rfl
  fingerprint := rfl
  classes := by
    rw [EventModule.ofCompiled, List.forall₂_map_left_iff, List.forall₂_same]
    exact fun entity _ => ⟨rfl, rfl, rfl, rfl, rfl, rfl, rfl⟩

namespace Compilation

open ModuleText

/-- The module of an accepted schema is loaded as it was written, if it is loaded at all. -/
theorem declared_of_loaded (schema : RawSchema) (sourcePath : Option Text)
    (accepted : Validation.Accepts schema) (session : ScriptState) (reference path : Text)
    (content : Bytes) (found : LoadedModule) (after : ScriptState)
    (encoded : Utf8.encode (write (moduleOf schema sourcePath)) = .ok content)
    (loaded : ModuleImport.ofContent session reference path content = (.ok found, after)) :
    found = .declared (moduleOf schema sourcePath) := by
  have loads : (moduleOf schema sourcePath).Loads session reference path :=
    ⟨content, found, after, encoded, loaded⟩
  have inhabited := inhabited_of_loads schema sourcePath accepted session reference path loads
  have loadable := isLoadable_of_loads schema sourcePath accepted inhabited session reference path
    loads
  obtain ⟨own, declared⟩ := ofContent_moduleOf schema sourcePath accepted inhabited loadable session
    reference path
  obtain rfl := Except.ok.inj (encoded.symm.trans own)
  exact Except.ok.inj (congrArg Prod.fst (loaded.symm.trans declared))

/-- Every text is written as one literal of it, on one line.  The module of a schema that is fit for
it loads, and whatever is loaded has the path of the source, the tables, the columns and the
statements that were compiled. -/
theorem literals_survive_loading :
    (∀ text : Text, text.IsScalar → Literal.IsLiteralOf (Literal.ofText text) text) ∧
    ∀ schema sourcePath compiled, compileRaw schema sourcePath = .ok compiled →
      ∀ session reference path,
        (schema.events ≠ [] → schema.IsLoadable sourcePath →
          (EventModule.ofCompiled compiled).Loads session reference path) ∧
        ∀ content found after,
          Utf8.encode (write (EventModule.ofCompiled compiled)) = .ok content →
          ModuleImport.ofContent session reference path content = (.ok found, after) →
          ∃ module, found = .declared module ∧ module.HasConstants compiled := by
  refine ⟨Literal.isLiteralOf_ofText, ?_⟩
  intro schema sourcePath compiled made session reference path
  obtain ⟨accepted, rfl⟩ := of_compileRaw schema sourcePath compiled made
  constructor
  · intro inhabited loadable
    obtain ⟨encoded, loads⟩ := ofContent_moduleOf schema sourcePath accepted inhabited loadable
      session reference path
    exact ⟨_, _, _, encoded, loads⟩
  · intro content found after encoded loaded
    have declared := declared_of_loaded schema sourcePath accepted session reference path content
      found after encoded loaded
    exact ⟨_, declared, EventModule.hasConstants_ofCompiled _⟩

/-- A path with quotes, backslashes, control characters and a code point beyond the basic plane. -/
def oddPath : Text := ("\"odd\\path\"\n\t" : Text) ++ [0x01, 0x7F, 0x1F4C8] ++ (".json" : Text)

theorem oddPath_survives_loading :
    (oddPath.IsScalar ∧ Literal.IsLiteralOf (Literal.ofText oddPath) oddPath) ∧
    ∃ compiled content found after, compileRaw loginSchema (some oddPath) = .ok compiled ∧
      Utf8.encode (write (EventModule.ofCompiled compiled)) = .ok content ∧
      ModuleImport.ofContent bareSession "events.py" "events.py" content = (.ok found, after) ∧
      ∃ module, found = .declared module ∧ module.HasConstants compiled ∧
        module.source = some oddPath := by
  obtain ⟨literal, loading⟩ := literals_survive_loading
  have scalar : oddPath.IsScalar := by
    have proper : (oddPath.all fun point => !point.isSurrogate) = true := by decide
    simpa [Text.IsScalar] using proper
  have inhabited : loginSchema.events ≠ [] := List.cons_ne_nil _ _
  have plain := isLoadable_timedSchema ["login"] (by decide)
  have loadable : loginSchema.IsLoadable (some oddPath) := by
    refine ⟨plain.plain, plain.marked, plain.labels, ?_⟩
    intro path given
    obtain rfl : oddPath = path := by simpa using given
    exact scalar
  have made := compileRaw_eq loginSchema (some oddPath)
    ((Validation.errors_eq_nil_iff _).mpr accepts_loginSchema)
  obtain ⟨loads, loaded⟩ := loading _ _ _ made bareSession "events.py" "events.py"
  obtain ⟨content, found, after, encoded, isFound⟩ := loads inhabited loadable
  obtain ⟨module, declared, constants⟩ := loaded content found after encoded isFound
  exact ⟨⟨scalar, literal oddPath scalar⟩, _, content, found, after, made, encoded, isFound, module,
    declared, constants, constants.source⟩

end Compilation

end EventForge
