import EventForge.Proofs.Module.OfSchema

/-!
# What an accepted schema puts into its module

Beside its labels, the path of its source and the line feeds behind names, an accepted schema puts
nothing but printable ASCII into its module.
-/

namespace EventForge.Compilation

open ModuleText Text

theorem isSurrogate_of_isPrintable (point : CodePoint) (printable : isPrintable point = true) :
    point.isSurrogate = false := by
  simp only [isPrintable, Bool.and_eq_true, decide_eq_true_eq] at printable
  rw [CodePoint.isSurrogate, Bool.and_eq_false_iff]
  left
  simp only [decide_eq_false_iff_not]
  omega

section Event

variable (event : RawEvent) (accepted : Validation.AcceptsEvent event)

/-- Whether all names of an event are plain. -/
def HasPlainNames (event : RawEvent) : Prop :=
  Identifier.isPlain event.name = true ∧
    ∀ field ∈ event.typeMapping, Identifier.isPlain field.1 = true

variable {allowed : CodePoint → Prop}
  (printable : ∀ point, isPrintable point = true → allowed point)

include printable

theorem allows_later (point : CodePoint) (later : Identifier.isLater point = true) :
    allowed point := by
  apply printable
  have bounds := (Identifier.isLater_iff point).mp later
  simp only [isPrintable, Bool.and_eq_true, decide_eq_true_eq]
  omega

/-- A text made of later points and the line feed of a name is let in with the line feed, or if the
name is plain. -/
theorem allows_of_name (name text : Text)
    (made : ∀ point ∈ text, Identifier.isLater point = true ∨
      (point = CodePoint.lineFeed ∧ CodePoint.lineFeed ∈ name))
    (feeds : allowed CodePoint.lineFeed ∨ Identifier.isPlain name = true) : Allows allowed text := by
  intro point member
  rcases made point member with later | ⟨rfl, own⟩
  · exact allows_later printable point later
  · rcases feeds with feed | plain
    · exact feed
    · exact absurd own (Identifier.not_mem_of_isPlain name plain _ (by decide))

theorem allows_identifier (name : Text) (identifier : Identifier.isIdentifierText name = true)
    (feeds : allowed CodePoint.lineFeed ∨ Identifier.isPlain name = true) : Allows allowed name := by
  refine allows_of_name printable name name ?_ feeds
  intro point member
  rcases Identifier.mem_isIdentifierText name identifier point member with later | rfl
  · exact .inl later
  · exact .inr ⟨rfl, member⟩

variable (feeds : allowed CodePoint.lineFeed ∨ HasPlainNames event)

include accepted feeds

theorem allows_eventName :
    Allows allowed event.name ∧ Allows allowed (Identifier.camelCase event.name) := by
  have identifier := Identifier.isIdentifierText_of_isUsable _ accepted.nameUsable
  have feeds := feeds.imp_right fun plain => plain.1
  exact ⟨allows_identifier printable _ identifier feeds,
    allows_of_name printable event.name _ (Identifier.mem_camelCase _ identifier) feeds⟩

/-- What the fields of an accepted event are made of. -/
theorem allows_field (field : Field) (member : field ∈ fieldsOf event) :
    Allows allowed field.declaredName ∧ Allows allowed field.name ∧ Allows allowed field.comment := by
  rcases List.mem_append.mp member with declared | creation
  · obtain ⟨given, sorted, place, rfl⟩ := mem_fieldsFrom _ _ _ declared
    have givenMember := (Validation.sortFields_perm _).mem_iff.mp sorted
    have identifier :=
      Identifier.isIdentifierText_of_isUsable _ (accepted.fieldsUsable given givenMember)
    have feeds := feeds.imp_right fun plain => plain.2 given givenMember
    have name := allows_identifier printable _ identifier feeds
    have label : Allows allowed (scalarOf given.2).label := by
      cases scalarOf given.2 <;> exact allows_ofString printable _ (by decide)
    refine ⟨name,
      allows_of_name printable given.1 _ (Identifier.mem_attributeName _ identifier) feeds, ?_⟩
    simp only [fieldOf, allows_append]
    exact ⟨⟨⟨allows_ofString printable _ (by decide), name⟩,
      allows_ofString printable _ (by decide)⟩, label⟩
  · rw [List.mem_singleton.mp creation]
    exact ⟨allows_ofString printable _ (by decide), allows_ofString printable _ (by decide),
      allows_ofString printable _ (by decide)⟩

theorem allows_fragments :
    Allows allowed (entityOf event).insertTemplate ∧
      Allows allowed (entityOf event).projectedColumns := by
  have comma : Allows allowed ", " := allows_ofString printable _ (by decide)
  constructor
  · apply Text.allows_join _ _ comma
    intro piece member
    obtain ⟨index, _, rfl⟩ := List.mem_map.mp member
    rw [Entity.placeholder, allows_append]
    exact ⟨allows_ofString printable _ (by decide), allows_ofNat printable _⟩
  · apply Text.allows_join _ _ comma
    intro piece member
    obtain ⟨field, stored, rfl⟩ := List.mem_map.mp member
    exact (allows_field event accepted printable feeds field (List.mem_filter.mp stored).1).1

theorem allows_statements :
    Allows allowed (entityOf event).insertStatement ∧
      Allows allowed (entityOf event).selectStatement := by
  have fragments := allows_fragments event accepted printable feeds
  have table := (allows_eventName event accepted printable feeds).1
  have time : Allows allowed timeName := allows_ofString printable _ (by decide)
  have timed := timeColumn_entityOf event accepted
  simp only [Entity.insertStatement, Entity.selectStatement, timed, allows_append]
  exact ⟨⟨⟨⟨⟨⟨⟨allows_ofString printable _ (by decide), table⟩,
      allows_ofString printable _ (by decide)⟩, fragments.2⟩,
      allows_ofString printable _ (by decide)⟩, fragments.1⟩,
      allows_ofString printable _ (by decide)⟩,
    ⟨⟨⟨⟨⟨⟨allows_ofString printable _ (by decide), fragments.2⟩,
      allows_ofString printable _ (by decide)⟩, table⟩,
      allows_ofString printable _ (by decide)⟩, time⟩, allows_ofString printable _ (by decide)⟩⟩

theorem admitsClass_classOf
    (literal : ∀ text : Text, (∀ point ∈ text, point.isSurrogate = false) →
      Allows allowed (Literal.ofText text))
    (label : Allows allowed (EventClass.safeLabel event.typeLabel)) :
    AdmitsClass allowed (classOf event) := by
  let encodable : CodePoint → Prop := fun point => point.isSurrogate = false
  have feedEncodable : encodable CodePoint.lineFeed ∨ HasPlainNames event := .inl (by decide)
  have names := allows_eventName event accepted isSurrogate_of_isPrintable feedEncodable
  have fields := allows_field event accepted isSurrogate_of_isPrintable feedEncodable
  have statements := allows_statements event accepted isSurrogate_of_isPrintable feedEncodable
  have time : (classOf event).timeColumn = timeName := timeColumn_entityOf event accepted
  have stored : (classOf event).columns = (fieldsOf event).map fun field => field.declaredName := by
    rw [classOf, EventClass.ofEntity, stored_entityOf]
  have attributes : ∀ name ∈ attributeNames event, Allows allowed name := by
    rw [← names_fieldsOf]
    intro name member
    obtain ⟨field, fieldMember, rfl⟩ := List.mem_map.mp member
    exact (allows_field event accepted printable feeds field fieldMember).2.1
  constructor
  · exact (allows_append _ _).mpr ⟨(allows_eventName event accepted printable feeds).2,
      allows_ofString printable _ (by decide)⟩
  · exact label
  · exact (allows_eventName event accepted printable feeds).1
  · exact literal _ names.1
  · rw [time]
    exact allows_ofString printable _ (by decide)
  · rw [time]
    exact literal _ (allows_ofString isSurrogate_of_isPrintable _ (by decide))
  · intro column member
    rw [stored] at member
    obtain ⟨field, fieldMember, rfl⟩ := List.mem_map.mp member
    exact literal _ (fields field fieldMember).1
  · intro definition member
    obtain ⟨field, fieldMember, rfl⟩ := List.mem_map.mp member
    have columnType : Allows encodable field.type.columnType := by
      cases field.type <;> exact allows_ofString isSurrogate_of_isPrintable _ (by decide)
    exact ⟨literal _ (fields field fieldMember).1, literal _ columnType⟩
  · exact literal _ statements.1
  · exact literal _ statements.2
  · intro found member
    obtain ⟨field, fieldMember, rfl⟩ := List.mem_map.mp member
    have parts := allows_field event accepted printable feeds field fieldMember
    have generator := (generatorNames_named _ (mem_generatorNames event field fieldMember)).1
    exact ⟨parts.2.1, parts.2.2, allows_plain printable _ generator⟩
  · intro name member
    rw [stored_classOf] at member
    exact attributes name member
  · intro decoding member
    apply attributes decoding.name
    rw [← retrieved_classOf]
    exact List.mem_map_of_mem member

end Event

theorem isPrintable_ofHex : ∀ number : Fin 256,
    (Text.ofHex 2 number.val).all isPrintable = true := by
  have every : ∀ digit : Fin 16, isPrintable (hexDigit digit.val) = true := by decide
  intro number
  have front := every ⟨number.val / 16, by omega⟩
  have back := every ⟨number.val % 16, by omega⟩
  rw [Text.ofHex_two number.val number.isLt, List.all_cons, List.all_cons, front, back]
  rfl

theorem isPrintable_fingerprint (schema : CompiledSchema) :
    Allows (fun point => isPrintable point = true) schema.fingerprint := by
  rw [CompiledSchema.fingerprint, allows_append]
  refine ⟨allows_ofString (fun _ printable => printable) _ (by decide), ?_⟩
  intro point member
  obtain ⟨byte, _, digit⟩ := List.mem_flatMap.mp member
  exact List.all_eq_true.mp (isPrintable_ofHex ⟨byte.toNat, byte.toNat_lt⟩) point digit

/-- What printable ASCII, literals, labels and the source let in is all that the module holds, beside
the line feeds behind names that are not plain. -/
theorem admits_moduleOf {allowed : CodePoint → Prop} (schema : RawSchema)
    (sourcePath : Option Text) (accepted : Validation.Accepts schema)
    (printable : ∀ point, isPrintable point = true → allowed point)
    (feeds : allowed CodePoint.lineFeed ∨ schema.HasPlainNames)
    (literal : ∀ text : Text, (∀ point ∈ text, point.isSurrogate = false) →
      Allows allowed (Literal.ofText text))
    (labels : ∀ event ∈ schema.events, Allows allowed (EventClass.safeLabel event.typeLabel))
    (source : ∀ path, (sourcePath <|> schema.path) = some path →
      Allows allowed (Literal.ofText path)) :
    Admits allowed (moduleOf schema sourcePath) := by
  constructor
  · exact printable
  · exact source
  · apply literal
    intro point member
    exact isSurrogate_of_isPrintable point (isPrintable_fingerprint _ point member)
  · intro generator member
    exact allows_plain printable _
      (generatorNames_named _ (generators_moduleOf schema sourcePath generator member)).1
  · intro eventClass member
    obtain ⟨event, eventMember, rfl⟩ := (mem_classes_moduleOf schema sourcePath eventClass).mp member
    have eventFeeds : allowed CodePoint.lineFeed ∨ HasPlainNames event :=
      feeds.imp_right fun plain => ⟨plain.events event eventMember, plain.fields event eventMember⟩
    exact admitsClass_classOf event (accepted.events event eventMember) printable eventFeeds literal
      (labels event eventMember)

end EventForge.Compilation
