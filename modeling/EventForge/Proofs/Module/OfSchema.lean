import EventForge.Proofs.Module.RoundTrip
import EventForge.Proofs.Schema.Compilation
import EventForge.Proofs.Schema.Identifier
import EventForge.Proofs.Text.Pieces

/-!
# The module of an accepted schema

The module of an accepted schema holds a class for each event.  If all declared names are plain, so
are the names in the module, and its labels close no description.
-/

namespace EventForge

namespace EventClass

theorem replacePoint_eq_self (old new : CodePoint) (text : Text) (absent : old ∉ text) :
    text.replacePoint old new = text := by
  rw [Text.replacePoint, List.map_congr_left (g := id), List.map_id]
  intro point member
  rw [if_neg, id]
  rintro rfl
  exact absent member

/-- What a label holds is a blank, or a point of the text without quotes and backslashes. -/
theorem mem_safeLabel (label : Text) (point : CodePoint) (member : point ∈ safeLabel label) :
    point = CodePoint.ofChar ' ' ∨
      (point ∈ (label.replacePoint '\\' '/').replacePoint '"' '\'' ∧ point.isBlank = false) := by
  rcases Text.mem_join _ _ _ member with between | inside
  · exact Or.inl (List.mem_singleton.mp between)
  · exact Or.inr ((Text.mem_flatten_words _ point).mp inside)

theorem not_mem_safeLabel (label : Text) (point : CodePoint) (blank : point.isBlank = true)
    (other : point ≠ CodePoint.ofChar ' ') : point ∉ safeLabel label := by
  intro member
  rcases mem_safeLabel label point member with same | ⟨_, bare⟩
  · exact other same
  · rw [blank] at bare
    cases bare

/-- No quote and no backslash stands in a label. -/
theorem quotes_not_mem_safeLabel (label : Text) :
    CodePoint.ofChar '"' ∉ safeLabel label ∧ CodePoint.ofChar '\\' ∉ safeLabel label := by
  have replaced : ∀ point ∈ (label.replacePoint '\\' '/').replacePoint '"' '\'',
      point ≠ CodePoint.ofChar '"' ∧ point ≠ CodePoint.ofChar '\\' := by
    intro point member
    obtain ⟨first, firstMember, rfl⟩ := List.mem_map.mp member
    obtain ⟨source, _, rfl⟩ := List.mem_map.mp firstMember
    by_cases slash : source = CodePoint.ofChar '\\'
    · rw [if_pos slash]
      decide
    · rw [if_neg slash]
      by_cases quote : source = CodePoint.ofChar '"'
      · rw [if_pos quote]
        decide
      · rw [if_neg quote]
        exact ⟨quote, slash⟩
  constructor
  · intro member
    rcases mem_safeLabel label _ member with same | ⟨inside, _⟩
    · exact absurd same (by decide)
    · exact (replaced _ inside).1 rfl
  · intro member
    rcases mem_safeLabel label _ member with same | ⟨inside, _⟩
    · exact absurd same (by decide)
    · exact (replaced _ inside).2 rfl

theorem safeLabel_safeLabel (label : Text) : safeLabel (safeLabel label) = safeLabel label := by
  have quotes := quotes_not_mem_safeLabel label
  have words := Text.words_join _
    (Text.isWord_of_mem_words ((label.replacePoint '\\' '/').replacePoint '"' '\''))
  rw [safeLabel, replacePoint_eq_self '\\' '/' _ quotes.2, replacePoint_eq_self '"' '\'' _ quotes.1]
  rw [safeLabel, words]

/-- A code point that is neither a blank nor replaced stands in the label exactly if it stands in
the text. -/
theorem mem_safeLabel_iff (label : Text) (point : CodePoint) (bare : point.isBlank = false)
    (kept : ∀ char ∈ ['\\', '/', '"', '\'', ' '], point ≠ CodePoint.ofChar char) :
    point ∈ safeLabel label ↔ point ∈ label := by
  have replaced : point ∈ (label.replacePoint '\\' '/').replacePoint '"' '\'' ↔ point ∈ label := by
    simp only [Text.replacePoint, List.map_map, List.mem_map, Function.comp_apply]
    constructor
    · rintro ⟨source, member, rfl⟩
      by_cases slash : source = CodePoint.ofChar '\\'
      · exact absurd (if_neg (by rw [if_pos slash]; decide) |>.trans (if_pos slash))
          (kept '/' (by simp))
      · rw [if_neg slash] at kept ⊢
        by_cases quote : source = CodePoint.ofChar '"'
        · exact absurd (if_pos quote) (kept '\'' (by simp))
        · rw [if_neg quote]
          exact member
    · intro member
      refine ⟨point, member, ?_⟩
      rw [if_neg (kept '\\' (by simp)), if_neg (kept '"' (by simp))]
  rw [← replaced]
  constructor
  · intro member
    rcases mem_safeLabel label point member with same | inside
    · exact absurd same (kept ' ' (by simp))
    · exact inside.1
  · intro member
    exact Text.mem_join_of_mem_flatten _ _ _ ((Text.mem_flatten_words _ point).mpr ⟨member, bare⟩)

/-- A label holds a surrogate exactly if its text does. -/
theorem mem_safeLabel_of_isSurrogate (label : Text) (point : CodePoint)
    (surrogate : point.isSurrogate = true) : point ∈ safeLabel label ↔ point ∈ label := by
  simp only [CodePoint.isSurrogate, Bool.and_eq_true, decide_eq_true_eq] at surrogate
  apply mem_safeLabel_iff
  · rw [CodePoint.isBlank, CodePoint.inRanges, List.any_eq_false]
    intro range member
    have low : ∀ range ∈ CodePoint.blankRanges, range.2 < 0xD800 := by decide
    have bound := low range member
    simp only [Bool.and_eq_true, decide_eq_true_eq]
    omega
  · intro char member same
    have low : (['\\', '/', '"', '\'', ' '].all fun char =>
        (CodePoint.ofChar char).val < 0xD800) = true := by
      decide
    have bound := of_decide_eq_true (List.all_eq_true.mp low char member)
    rw [← same] at bound
    omega

theorem zero_mem_safeLabel (label : Text) : 0 ∈ safeLabel label ↔ 0 ∈ label :=
  mem_safeLabel_iff label 0 (by decide) (by
    simp only [List.forall_mem_cons, List.not_mem_nil, false_implies, implies_true, and_true]
    decide)

end EventClass

/-- Whether all names that a schema declares are plain identifiers. -/
structure RawSchema.HasPlainNames (schema : RawSchema) : Prop where
  events : ∀ event ∈ schema.events, Identifier.isPlain event.name = true
  fields : ∀ event ∈ schema.events, ∀ field ∈ event.typeMapping,
    Identifier.isPlain field.1 = true

namespace Compilation

/-- The class of an accepted event. -/
def classOf (event : RawEvent) : EventClass := EventClass.ofEntity (entityOf event)

/-- The module of an accepted schema. -/
def moduleOf (schema : RawSchema) (sourcePath : Option Text) : EventModule :=
  EventModule.ofCompiled (schemaOf schema sourcePath)

theorem classes_moduleOf (schema : RawSchema) (sourcePath : Option Text) :
    (moduleOf schema sourcePath).classes =
      (Validation.sortEvents schema.events).map classOf := by
  simp [moduleOf, EventModule.ofCompiled, schemaOf, classOf, Function.comp_def]

/-- Only a schema without events has a module without classes. -/
theorem classes_eq_nil_iff (schema : RawSchema) (sourcePath : Option Text) :
    (moduleOf schema sourcePath).classes = [] ↔ schema.events = [] := by
  rw [classes_moduleOf, List.map_eq_nil_iff]
  have perm := Validation.sortEvents_perm schema.events
  constructor
  · intro none
    rw [none] at perm
    exact perm.nil_eq.symm
  · intro none
    rw [none] at perm ⊢
    exact perm.eq_nil

theorem timeColumn_entityOf (event : RawEvent) (accepted : Validation.AcceptsEvent event) :
    (entityOf event).timeColumn = timeName := by
  obtain ⟨field, member, named⟩ := accepted.hasTime
  have declared : field ∈ Validation.sortFields event.typeMapping :=
    (Validation.sortFields_perm _).mem_iff.mpr member
  have first : ∀ (position : Nat) (fields : Fields Document), field ∈ fields →
      ∃ found, (fieldsFrom position fields).find? (fun field => field.isTime) = some found ∧
        found.declaredName = timeName := by
    intro position fields member
    induction fields generalizing position with
    | nil => simp at member
    | cons head fields ih =>
        by_cases timed : head.1 = timeName
        · refine ⟨fieldOf head.1 (scalarOf head.2) position, ?_, timed⟩
          simp [fieldsFrom, fieldOf, timed]
        · have later : field ∈ fields := by
            rcases List.mem_cons.mp member with rfl | later
            · exact absurd named timed
            · exact later
          obtain ⟨found, search, foundNamed⟩ := ih (position + 1) later
          refine ⟨found, ?_, foundNamed⟩
          rw [fieldsFrom, List.find?_cons_of_neg (by simpa [fieldOf] using timed)]
          exact search
  obtain ⟨found, search, foundNamed⟩ := first 0 _ declared
  simp [Entity.timeColumn, Entity.timeField?, entityOf, fieldsOf, List.find?_append, search,
    foundNamed]

theorem columnDefinitions_entityOf (event : RawEvent) :
    (entityOf event).columnDefinitions =
      (Validation.sortFields event.typeMapping).map
        (fun field => (field.1, (scalarOf field.2).columnType)) ++
        [(Entity.creationColumn, ScalarType.timestamp.columnType)] := by
  have declared := map_fieldsFrom 0 (Validation.sortFields event.typeMapping)
    (fun field => (field.declaredName, field.columnType))
    (fun field => (field.1, (scalarOf field.2).columnType)) fun _ _ _ => rfl
  simp only [Entity.columnDefinitions, entityOf, fieldsOf, List.map_append, declared]
  rfl

/-- The attributes of an accepted event. -/
def attributeNames (event : RawEvent) : List Text :=
  ((Validation.sortFields event.typeMapping).map fun field => Identifier.attributeName field.1) ++
    [Entity.creationColumn]

theorem names_fieldsOf (event : RawEvent) :
    ((fieldsOf event).map fun field => field.name) = attributeNames event := by
  rw [fieldsOf, List.map_append, map_fieldsFrom 0 _ (fun field => field.name)
    (fun field => Identifier.attributeName field.1) fun _ _ _ => rfl]
  rfl

theorem stored_entityOf (event : RawEvent) : (entityOf event).stored = fieldsOf event :=
  filter_insertable_fieldsOf event

theorem attributes_classOf (event : RawEvent) :
    ((classOf event).attributes.map Attribute.name) = attributeNames event := by
  rw [← names_fieldsOf event]
  simp [classOf, EventClass.ofEntity, entityOf, Function.comp_def]

theorem stored_classOf (event : RawEvent) : (classOf event).stored = attributeNames event := by
  rw [← names_fieldsOf event]
  simp [classOf, EventClass.ofEntity, stored_entityOf]

theorem retrieved_classOf (event : RawEvent) :
    ((classOf event).retrieved.map Decoding.name) = attributeNames event := by
  rw [← names_fieldsOf event]
  simp [classOf, EventClass.ofEntity, stored_entityOf, Function.comp_def]

section Alone

variable (event : RawEvent) (type : Document) (alone : event.typeMapping = [(timeName, type)])

include alone

theorem columnDefinitions_alone : (entityOf event).columnDefinitions =
    [(timeName, (scalarOf type).columnType),
      (Entity.creationColumn, ScalarType.timestamp.columnType)] := by
  rw [columnDefinitions_entityOf, alone, Validation.sortFields_singleton]
  rfl

theorem attributeNames_alone : attributeNames event = [timeName, Entity.creationColumn] := by
  rw [attributeNames, alone, Validation.sortFields_singleton, List.map_singleton,
    Validation.attributeName_timeName]
  rfl

theorem columns_alone : (classOf event).columns = [timeName, Entity.creationColumn] := by
  simp only [classOf, EventClass.ofEntity, stored_entityOf, fieldsOf, alone,
    Validation.sortFields_singleton]
  rfl

/-- An event that has a time alone is read as the time and the time of creation. -/
theorem retrieved_alone : (classOf event).retrieved =
    [{ name := timeName, width := (scalarOf type).width },
      { name := Entity.creationColumn, width := ScalarType.timestamp.width }] := by
  simp only [classOf, EventClass.ofEntity, stored_entityOf, fieldsOf, alone,
    Validation.sortFields_singleton, fieldsFrom, fieldOf, Validation.attributeName_timeName]
  rfl

end Alone

theorem attributeNames_nodup (event : RawEvent) (accepted : Validation.AcceptsEvent event) :
    (attributeNames event).Nodup := by
  rw [← names_fieldsOf]
  exact names_fieldsOf_nodup event accepted

theorem isPlain_attributeNames (event : RawEvent)
    (fieldsPlain : ∀ field ∈ event.typeMapping, Identifier.isPlain field.1 = true) :
    ∀ name ∈ attributeNames event,
      Identifier.isPlain name = true ∧ name ∉ Identifier.moduleWords := by
  intro name member
  rcases List.mem_append.mp member with declared | creation
  · obtain ⟨field, sorted, rfl⟩ := List.mem_map.mp declared
    have fieldMember := (Validation.sortFields_perm event.typeMapping).mem_iff.mp sorted
    exact ⟨Identifier.isPlain_attributeName field.1 (fieldsPlain field fieldMember),
      Identifier.attributeName_not_mem field.1⟩
  · rw [List.mem_singleton.mp creation]
    exact ⟨by decide, Identifier.not_mem_moduleWords_of_mem _ (by decide)⟩

/-- The generators of values. -/
def generatorNames : List Text :=
  [timeGenerator, creationGenerator, "random_int_value", "random_int64_value"]

theorem mem_generatorNames (event : RawEvent) :
    ∀ field ∈ fieldsOf event, field.generator ∈ generatorNames := by
  intro field member
  rcases List.mem_append.mp member with declared | creation
  · obtain ⟨given, _, place, rfl⟩ := mem_fieldsFrom _ _ _ declared
    unfold fieldOf
    dsimp only
    split
    · simp [generatorNames]
    · cases scalarOf given.2 <;> simp [generatorNames, ScalarType.generator]
  · rw [List.mem_singleton.mp creation]
    simp [generatorNames, creationAt]

theorem generatorNames_named : ∀ name ∈ generatorNames,
    Identifier.isPlain name = true ∧ name ∉ Identifier.moduleWords := by
  have marked : ∀ name ∈ generatorNames,
      Identifier.isPlain name = true ∧ CodePoint.ofChar '_' ∈ name := by decide
  intro name member
  exact ⟨(marked name member).1, Identifier.not_mem_moduleWords_of_mem name (marked name member).2⟩

/-- The class name of a plain name is plain, and modules do not reserve it. -/
theorem isPlain_className (event : RawEvent) (plain : Identifier.isPlain event.name = true) :
    Identifier.isPlain (classOf event).name = true ∧
      (classOf event).name ∉ Identifier.moduleWords := by
  constructor
  · exact Identifier.isPlain_append _ "Event" (Identifier.isPlain_camelCase event.name plain)
      (Identifier.isLater_of_isPlain "Event" (by decide))
  · exact Identifier.not_mem_moduleWords _ "Event" (Or.inr rfl)

theorem isPlainClass_classOf (event : RawEvent) (accepted : Validation.AcceptsEvent event)
    (plain : Identifier.isPlain event.name = true)
    (fieldsPlain : ∀ field ∈ event.typeMapping, Identifier.isPlain field.1 = true) :
    ModuleText.IsPlainClass (classOf event) := by
  have names := isPlain_attributeNames event fieldsPlain
  have time : (classOf event).timeColumn = timeName := timeColumn_entityOf event accepted
  constructor
  · exact (isPlain_className event plain).1
  · exact plain
  · rw [time]
    decide
  · intro found member
    refine ⟨(names found.name ?_).1, ?_⟩
    · rw [← attributes_classOf]
      exact List.mem_map_of_mem member
    · obtain ⟨field, fieldMember, rfl⟩ := List.mem_map.mp member
      exact (generatorNames_named _ (mem_generatorNames event field fieldMember)).1
  · intro name member
    rw [stored_classOf] at member
    exact (names name member).1
  · intro decoding member
    apply (names decoding.name ?_).1
    rw [← retrieved_classOf]
    exact List.mem_map_of_mem member

theorem isName_of_isPlain (name : Text)
    (named : Identifier.isPlain name = true ∧ name ∉ Identifier.moduleWords) :
    ModuleText.isName name = true := by
  have identifier := (Identifier.isIdentifierText_iff name).mpr (Or.inl named.1)
  simpa [ModuleText.isName, identifier] using named.2

theorem eraseDups_of_nodup (names : List Text) (distinct : names.Nodup) :
    names.eraseDups = names := by
  induction names with
  | nil => rfl
  | cons name names ih =>
      obtain ⟨fresh, others⟩ := List.nodup_cons.mp distinct
      have kept : names.filter (fun other => !other == name) = names := by
        rw [List.filter_eq_self]
        intro other member
        have apart : other ≠ name := by
          rintro rfl
          exact fresh member
        simpa using apart
      rw [List.eraseDups_cons, kept, ih others]

theorem hasNames_classOf (event : RawEvent) (accepted : Validation.AcceptsEvent event)
    (plain : Identifier.isPlain event.name = true)
    (fieldsPlain : ∀ field ∈ event.typeMapping, Identifier.isPlain field.1 = true)
    (labelled : ∀ point ∈ event.typeLabel, point.isSurrogate = false) :
    ModuleText.hasNames (classOf event) = true := by
  have names := isPlain_attributeNames event fieldsPlain
  have named : ∀ name ∈ attributeNames event, ModuleText.isName name = true :=
    fun name member => isName_of_isPlain name (names name member)
  have generators : ∀ name ∈ (classOf event).attributes.map Attribute.generator,
      ModuleText.isName name = true := by
    intro name member
    obtain ⟨found, foundMember, rfl⟩ := List.mem_map.mp member
    obtain ⟨field, fieldMember, rfl⟩ := List.mem_map.mp foundMember
    exact isName_of_isPlain _ (generatorNames_named _ (mem_generatorNames event field fieldMember))
  have every : (attributeNames event ++ (classOf event).attributes.map Attribute.generator ++
      attributeNames event ++ attributeNames event).all ModuleText.isName = true := by
    simp only [List.all_append, Bool.and_eq_true, List.all_eq_true]
    exact ⟨⟨⟨named, generators⟩, named⟩, named⟩
  have distinct := eraseDups_of_nodup _ (attributeNames_nodup event accepted)
  have className := isName_of_isPlain _ (isPlain_className event plain)
  have table := (Identifier.isIdentifierText_iff event.name).mpr (Or.inl plain)
  have time : Identifier.isIdentifierText (classOf event).timeColumn = true := by
    rw [show (classOf event).timeColumn = timeName from timeColumn_entityOf event accepted]
    decide
  have label : EventClass.safeLabel (classOf event).label = (classOf event).label :=
    EventClass.safeLabel_safeLabel event.typeLabel
  have encodable : (classOf event).label.any CodePoint.isSurrogate = false := by
    rw [List.any_eq_false]
    intro point member surrogate
    have own := (EventClass.mem_safeLabel_of_isSurrogate event.typeLabel point surrogate).mp member
    rw [labelled point own] at surrogate
    cases surrogate
  simp only [ModuleText.hasNames, attributes_classOf, retrieved_classOf, stored_classOf, className,
    time, every, distinct, label, encodable, decide_true, Bool.and_true, Bool.true_and, Bool.not_false]
  exact table

theorem generators_moduleOf (schema : RawSchema) (sourcePath : Option Text) :
    ∀ name ∈ (moduleOf schema sourcePath).generators, name ∈ generatorNames := by
  intro name member
  have perm := List.mergeSort_perm (List.eraseDups ((schemaOf schema sourcePath).entities.flatMap
    fun entity => entity.fields.map fun field => field.generator)) Text.le
  have given := List.mem_eraseDups.mp (perm.mem_iff.mp member)
  obtain ⟨entity, entityMember, inside⟩ := List.mem_flatMap.mp given
  obtain ⟨event, _, rfl⟩ := List.mem_map.mp entityMember
  obtain ⟨field, fieldMember, rfl⟩ := List.mem_map.mp inside
  exact mem_generatorNames event field fieldMember

/-- A module with a class uses the generator of the time of creation. -/
theorem generators_ne_nil (schema : RawSchema) (sourcePath : Option Text)
    (inhabited : schema.events ≠ []) : (moduleOf schema sourcePath).generators ≠ [] := by
  obtain ⟨event, member⟩ := List.exists_mem_of_ne_nil _ inhabited
  have sorted : event ∈ Validation.sortEvents schema.events :=
    (Validation.sortEvents_perm _).mem_iff.mpr member
  have perm := List.mergeSort_perm (List.eraseDups ((schemaOf schema sourcePath).entities.flatMap
    fun entity => entity.fields.map fun field => field.generator)) Text.le
  have present : creationGenerator ∈ (moduleOf schema sourcePath).generators := by
    apply perm.mem_iff.mpr
    apply List.mem_eraseDups.mpr
    apply List.mem_flatMap.mpr
    refine ⟨entityOf event, List.mem_map_of_mem sorted, ?_⟩
    exact List.mem_map.mpr ⟨creationAt event.typeMapping.length, by simp [entityOf, fieldsOf], rfl⟩
  exact List.ne_nil_of_mem present

section Module

variable (schema : RawSchema) (sourcePath : Option Text) (accepted : Validation.Accepts schema)
  (plain : schema.HasPlainNames)

theorem mem_classes_moduleOf (eventClass : EventClass) :
    eventClass ∈ (moduleOf schema sourcePath).classes ↔
      ∃ event ∈ schema.events, eventClass = classOf event := by
  rw [classes_moduleOf, List.mem_map]
  have perm := Validation.sortEvents_perm schema.events
  constructor
  · rintro ⟨event, member, rfl⟩
    exact ⟨event, perm.mem_iff.mp member, rfl⟩
  · rintro ⟨event, member, rfl⟩
    exact ⟨event, perm.mem_iff.mpr member, rfl⟩

include accepted plain

theorem isPlainModule_moduleOf : ModuleText.IsPlainModule (moduleOf schema sourcePath) := by
  constructor
  · intro name member
    exact (generatorNames_named name (generators_moduleOf schema sourcePath name member)).1
  · intro eventClass member
    obtain ⟨event, eventMember, rfl⟩ := (mem_classes_moduleOf schema sourcePath eventClass).mp member
    exact isPlainClass_classOf event (accepted.events event eventMember)
      (plain.events event eventMember) (plain.fields event eventMember)

theorem isNamed_moduleOf
    (labelled : ∀ event ∈ schema.events, ∀ point ∈ event.typeLabel, point.isSurrogate = false) :
    ModuleText.isNamed (moduleOf schema sourcePath) = true := by
  rw [ModuleText.isNamed, Bool.and_eq_true, List.all_eq_true, List.all_eq_true]
  constructor
  · intro name member
    exact isName_of_isPlain name
      (generatorNames_named name (generators_moduleOf schema sourcePath name member))
  · intro eventClass member
    obtain ⟨event, eventMember, rfl⟩ := (mem_classes_moduleOf schema sourcePath eventClass).mp member
    exact hasNames_classOf event (accepted.events event eventMember)
      (plain.events event eventMember) (plain.fields event eventMember)
      (labelled event eventMember)

end Module

end Compilation

end EventForge
